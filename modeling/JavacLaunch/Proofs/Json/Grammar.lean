import JavacLaunch.Toml.Digits

/-!
# JavacLaunch.Proofs.Json.Grammar

JSON texts and what they denote, rule by rule as RFC 8259 has them. Every rule relates a text to
its value; what a rule consists of is written one after the other.

* `Spells`: the ways of writing one character inside a string.
* `Number`: a number, as a whole number times a power of ten.
* `Padded`, `Separated`, `Enclosed`: whitespace around an item, items with commas between them, and
  such a row between brackets.
* `Member`: a name and its value.
* `Denotes`: a value.
* `Document`: a value with whitespace around it.

The RFC lets a string hold one half of a surrogate pair and leaves open what that means. Here such a
text denotes nothing.
-/

namespace JavacLaunch
namespace Json

/-- An object keeps its members in the order of the text. -/
inductive Value where
  | null
  | boolean (b : Bool)
  /-- A mantissa and a power of ten. -/
  | number (mantissa exponent : Int)
  | string (s : String)
  | array (items : List Value)
  | object (members : List (String × Value))
deriving Repr

def isSpace (c : Char) : Bool :=
  c = ' ' || c = '\t' || c = '\n' || c = '\r'

def Space (text : List Char) : Prop :=
  ∀ c ∈ text, isSpace c = true

/-- What a letter after a backslash stands for. -/
def shortEscape? : Char → Option Char
  | '"' => some '"'
  | '\\' => some '\\'
  | '/' => some '/'
  | 'b' => some '\x08'
  | 'f' => some '\x0c'
  | 'n' => some '\n'
  | 'r' => some '\r'
  | 't' => some '\t'
  | _ => none

/-- Characters that may stand in a string as they are. -/
def isPlain (c : Char) : Bool :=
  0x20 ≤ c.toNat && c ≠ '"' && c ≠ '\\'

/-- Four hexadecimal digits. -/
def CodeUnit (text : List Char) (n : Nat) : Prop :=
  text.length = 4 ∧ (∀ c ∈ text, Toml.isDigitOf 16 c = true) ∧ n = Toml.ofDigits 16 text

/-- The character of a surrogate pair. -/
def ofSurrogates (high low : Nat) : Char :=
  Char.ofNat (0x10000 + (high - 0xD800) * 0x400 + (low - 0xDC00))

inductive Spells : List Char → Char → Prop where
  | plain {c : Char} : isPlain c = true → Spells [c] c
  | short {letter c : Char} : shortEscape? letter = some c → Spells ['\\', letter] c
  | unit {text : List Char} {n : Nat} :
    CodeUnit text n → n.isValidChar → Spells ('\\' :: 'u' :: text) (Char.ofNat n)
  | pair {text text' : List Char} {high low : Nat} :
    CodeUnit text high → 0xD800 ≤ high → high < 0xDC00 →
    CodeUnit text' low → 0xDC00 ≤ low → low < 0xE000 →
    Spells ('\\' :: 'u' :: (text ++ '\\' :: 'u' :: text')) (ofSurrogates high low)

inductive Body : List Char → List Char → Prop where
  | nil : Body [] []
  | cons {text more : List Char} {c : Char} {cs : List Char} :
    Spells text c → Body more cs → Body (text ++ more) (c :: cs)

inductive Quoted : List Char → String → Prop where
  | mk {text : List Char} {s : String} :
    Body text s.toList → Quoted ('"' :: (text ++ ['"'])) s

def Digits (text : List Char) : Prop :=
  text ≠ [] ∧ ∀ c ∈ text, c.isDigit = true

inductive Minus : List Char → Bool → Prop where
  | absent : Minus [] false
  | present : Minus ['-'] true

/-- A whole number does not begin with a zero unless it is zero. -/
def Whole (text : List Char) : Prop :=
  Digits text ∧ (text.head? = some '0' → text = ['0'])

inductive Fraction : List Char → List Char → Prop where
  | absent : Fraction [] []
  | present {digits : List Char} : Digits digits → Fraction ('.' :: digits) digits

/-- The sign of a power of ten. -/
inductive Sign : List Char → Bool → Prop where
  | absent : Sign [] false
  | plus : Sign ['+'] false
  | minus : Sign ['-'] true

/-- The number that digits denote behind a sign. -/
def signed (negative : Bool) (digits : List Char) : Int :=
  if negative then -(Nat.ofDigitChars 10 digits 0 : Int) else Nat.ofDigitChars 10 digits 0

inductive Power : List Char → Int → Prop where
  | absent : Power [] 0
  | present {letter : Char} {sign digits : List Char} {negative : Bool} :
    letter = 'e' ∨ letter = 'E' → Sign sign negative → Digits digits →
    Power (letter :: (sign ++ digits)) (signed negative digits)

inductive Number : List Char → Int → Int → Prop where
  | mk {minus whole point power digits : List Char} {negative : Bool} {exponent : Int} :
    Minus minus negative → Whole whole → Fraction point digits → Power power exponent →
    Number (minus ++ (whole ++ (point ++ power)))
      (signed negative (whole ++ digits)) (exponent - digits.length)

section Rows

variable {α : Type}

inductive Padded (Item : List Char → α → Prop) : List Char → α → Prop where
  | mk {before text after : List Char} {x : α} :
    Space before → Item text x → Space after → Padded Item (before ++ (text ++ after)) x

inductive Separated (Item : List Char → α → Prop) : List Char → List α → Prop where
  | last {text : List Char} {x : α} : Padded Item text x → Separated Item text [x]
  | cons {text more : List Char} {x : α} {xs : List α} :
    Padded Item text x → Separated Item more xs →
    Separated Item (text ++ ',' :: more) (x :: xs)

/-- Any number of items between brackets. -/
inductive Enclosed (opening closing : Char) (Item : List Char → α → Prop) :
    List Char → List α → Prop where
  | none {text : List Char} :
    Space text → Enclosed opening closing Item (opening :: (text ++ [closing])) []
  | some {text : List Char} {xs : List α} :
    Separated Item text xs → Enclosed opening closing Item (opening :: (text ++ [closing])) xs

end Rows

inductive Member (Item : List Char → Value → Prop) : List Char → String × Value → Prop where
  | mk {name before after text : List Char} {s : String} {v : Value} :
    Quoted name s → Space before → Space after → Item text v →
    Member Item (name ++ (before ++ ':' :: (after ++ text))) (s, v)

inductive Denotes : List Char → Value → Prop where
  | nullWord : Denotes ['n', 'u', 'l', 'l'] .null
  | trueWord : Denotes ['t', 'r', 'u', 'e'] (.boolean true)
  | falseWord : Denotes ['f', 'a', 'l', 's', 'e'] (.boolean false)
  | number {text : List Char} {mantissa exponent : Int} :
    Number text mantissa exponent → Denotes text (.number mantissa exponent)
  | string {text : List Char} {s : String} : Quoted text s → Denotes text (.string s)
  | array {text : List Char} {items : List Value} :
    Enclosed '[' ']' Denotes text items → Denotes text (.array items)
  | object {text : List Char} {members : List (String × Value)} :
    Enclosed '\x7b' '\x7d' (Member Denotes) text members → Denotes text (.object members)

def Document : List Char → Value → Prop :=
  Padded Denotes

end Json
end JavacLaunch
