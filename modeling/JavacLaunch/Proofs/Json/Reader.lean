import JavacLaunch.Proofs.Json.Grammar
import JavacLaunch.Toml.Value

/-!
# JavacLaunch.Proofs.Json.Reader

A reader of JSON texts. It takes one item after the other off the front of a text, with one function
for each rule of the grammar.

* `quoted?`, `number?`: strings and numbers.
* `padded?`, `separated?`, `enclosed?`, `member?`: rows of items, whatever reads the items.
* `value?`: values up to some depth.
* `read?`: whole texts.
-/

namespace JavacLaunch
namespace Json

open Toml (Reads)

def codeUnit? : Reads Nat
  | a :: b :: c :: d :: rest =>
    if [a, b, c, d].all (Toml.isDigitOf 16) then some (Toml.ofDigits 16 [a, b, c, d], rest)
    else none
  | _ => none

/-- The rest of a surrogate pair. -/
def lowSurrogate? (high : Nat) : Reads Char
  | '\\' :: 'u' :: s =>
    match codeUnit? s with
    | some (low, s) =>
      if high < 0xDC00 && 0xDC00 ≤ low && low < 0xE000 then some (ofSurrogates high low, s)
      else none
    | none => none
  | _ => none

/-- One character of a string. -/
def character? : Reads Char
  | '\\' :: 'u' :: s =>
    match codeUnit? s with
    | some (n, s) => if n.isValidChar then some (Char.ofNat n, s) else lowSurrogate? n s
    | none => none
  | '\\' :: letter :: s => (shortEscape? letter).map (·, s)
  | c :: s => if isPlain c then some (c, s) else none
  | [] => none

/-- A string after its opening quote. Every character uses up text, so `fuel` does not run out if it
is the length of the text. -/
def body? : Nat → Reads (List Char)
  | 0, _ => none
  | fuel + 1, s =>
    match s with
    | '"' :: s => some ([], s)
    | s =>
      match character? s with
      | some (c, s) => (body? fuel s).map fun (cs, s) => (c :: cs, s)
      | none => none

def quoted? : Reads String
  | '"' :: s => (body? s.length s).map fun (cs, s) => (String.ofList cs, s)
  | _ => none

def digits? : Reads (List Char) := fun s =>
  match s.takeWhile Char.isDigit with
  | [] => none
  | ds => some (ds, s.dropWhile Char.isDigit)

def splitMinus : List Char → Bool × List Char
  | '-' :: s => (true, s)
  | s => (false, s)

def whole? : Reads (List Char) := fun s =>
  match digits? s with
  | some (ds, s) => if ds.head? = some '0' && ds ≠ ['0'] then none else some (ds, s)
  | none => none

def fraction? : Reads (List Char)
  | '.' :: s => digits? s
  | s => some ([], s)

def splitSign : List Char → Bool × List Char
  | '+' :: s => (false, s)
  | s => splitMinus s

def power? : Reads Int
  | c :: s =>
    if c = 'e' || c = 'E' then
      (digits? (splitSign s).2).map fun (ds, rest) => (signed (splitSign s).1 ds, rest)
    else some (0, c :: s)
  | [] => some (0, [])

def number? : Reads Value := fun s =>
  match whole? (splitMinus s).2 with
  | none => none
  | some (ds, rest) =>
    match fraction? rest with
    | none => none
    | some (es, rest) =>
      (power? rest).map fun (exponent, rest) =>
        (.number (signed (splitMinus s).1 (ds ++ es)) (exponent - es.length), rest)

def skipSpace (s : List Char) : List Char :=
  s.dropWhile isSpace

section Rows

variable {α : Type}

def padded? (item? : Reads α) : Reads α := fun s =>
  (item? (skipSpace s)).map fun (x, s) => (x, skipSpace s)

/-- Items with commas between them, and the closing bracket. Every item uses up text. -/
def separated? (item? : Reads α) (closing : Char) : Nat → Reads (List α)
  | 0, _ => none
  | fuel + 1, s =>
    match padded? item? s with
    | some (x, c :: s) =>
      if c = ',' then (separated? item? closing fuel s).map fun (xs, s) => (x :: xs, s)
      else if c = closing then some ([x], s)
      else none
    | _ => none

/-- Any number of items after their opening bracket. -/
def enclosed? (item? : Reads α) (closing : Char) : Reads (List α) := fun s =>
  if (skipSpace s).head? = some closing then some ([], (skipSpace s).tail)
  else separated? item? closing s.length s

end Rows

def member? (item? : Reads Value) : Reads (String × Value) := fun s =>
  match quoted? s with
  | none => none
  | some (name, s) =>
    match skipSpace s with
    | ':' :: s => (item? (skipSpace s)).map fun (v, s) => ((name, v), s)
    | _ => none

/-- A value that nests nothing. -/
def simple? : Reads Value
  | 'n' :: 'u' :: 'l' :: 'l' :: s => some (.null, s)
  | 't' :: 'r' :: 'u' :: 'e' :: s => some (.boolean true, s)
  | 'f' :: 'a' :: 'l' :: 's' :: 'e' :: s => some (.boolean false, s)
  | '"' :: s => (quoted? ('"' :: s)).map fun (text, s) => (.string text, s)
  | s => number? s

/-- A value that nests less than so deep. -/
def value? : Nat → Reads Value
  | 0, _ => none
  | _ + 1, [] => none
  | depth + 1, c :: s =>
    if c = '[' then (enclosed? (value? depth) ']' s).map fun (items, s) => (.array items, s)
    else if c = '\x7b' then
      (enclosed? (member? (value? depth)) '\x7d' s).map fun (members, s) => (.object members, s)
    else simple? (c :: s)

/-- The value that a text denotes. -/
def read? (text : String) : Option Value :=
  match padded? (value? text.length) text.toList with
  | some (v, []) => some v
  | _ => none

end Json
end JavacLaunch
