import JavacLaunch.Text.Printable
import JavacLaunch.Text.Utf8

/-!
# JavacLaunch.Text.Quoted

Quoting for messages. A quoted text stands between double quotes on one line of printable
characters; what could not be told apart or would not print is escaped with a backslash.

* `quote`: a text.
* `quoteBytes`: bytes that need not be text; a byte of an ill-formed run is written `\xNN`.
* `quoteList`: a list of texts in brackets.
-/

namespace JavacLaunch

/-- The lower-case hexadecimal form of a code point. -/
def hexDigits (n : Nat) : String :=
  String.ofList (Nat.toDigits 16 n)

/-- A character by its code point. -/
def codePointEscape (c : Char) : String :=
  "\\u\x7b" ++ hexDigits c.toNat ++ "\x7d"

/-- A character between double quotes. -/
def quoteChar (c : Char) : String :=
  match c with
  | '\x00' => "\\0"
  | '\t' => "\\t"
  | '\r' => "\\r"
  | '\n' => "\\n"
  | '"' => "\\\""
  | '\\' => "\\\\"
  | c => if isPrintable c && !extendsGrapheme c then c.toString else codePointEscape c

def quote (s : String) : String :=
  "\"" ++ String.join (s.toList.map quoteChar) ++ "\""

/-- Two upper-case hexadecimal digits. -/
def byteEscape (b : UInt8) : String :=
  let digit (n : Nat) : Char := (Nat.digitChar n).toUpper
  "\\x" ++ String.ofList [digit (b.toNat / 16), digit (b.toNat % 16)]

def quotePiece : Utf8.Piece → String
  | .char c => quoteChar c
  | .illFormed bytes => String.join (bytes.map byteEscape)

def quoteBytes (bytes : Bytes) : String :=
  "\"" ++ String.join ((Utf8.pieces bytes).map quotePiece) ++ "\""

def quoteList (items : List String) : String :=
  "[" ++ ", ".intercalate (items.map quote) ++ "]"

end JavacLaunch
