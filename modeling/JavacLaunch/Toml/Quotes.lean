import JavacLaunch.Toml.Digits
import JavacLaunch.Toml.Space
import JavacLaunch.Toml.Value

/-!
# JavacLaunch.Toml.Quotes

The four kinds of TOML strings. Basic strings, between double quotes, have escapes; literal
strings, between single quotes, have none. Three quotes open a string that may run over several
lines.

Every body is read one character at a time up to its closing quotes.
-/

namespace JavacLaunch
namespace Toml

/-- What a letter after a backslash stands for. -/
def shortEscape? : Char → Option Char
  | 'b' => some '\x08'
  | 't' => some '\t'
  | 'n' => some '\n'
  | 'f' => some '\x0c'
  | 'r' => some '\r'
  | '"' => some '"'
  | '\\' => some '\\'
  | _ => none

/-- An escape that has begun: only its backslash has been read, or it gives a code point of which
some digits make `value` and `owed` digits follow the next one. -/
inductive Escape where
  | letter
  | digit (owed : Nat) (value : Nat)
deriving DecidableEq, Repr

/-- One more character of an escape, which may be the last one. A code point of four or eight
digits must be that of a character. -/
def Escape.push : Escape → Char → Option (Char ⊕ Escape)
  | .letter, c =>
    if c = 'u' then some (.inr (.digit 3 0))
    else if c = 'U' then some (.inr (.digit 7 0))
    else (shortEscape? c).map .inl
  | .digit owed value, c =>
    match digitValue? c with
    | none => none
    | some d =>
      let value := 16 * value + d
      match owed with
      | owed + 1 => some (.inr (.digit owed value))
      | 0 => if value.isValidChar then some (.inl (Char.ofNat value)) else none

/-- Puts a character in front of what a body holds. -/
def consBody (c : Char) (body : Option (List Char × List Char)) : Option (List Char × List Char) :=
  body.map fun (cs, rest) => (c :: cs, rest)

/-- A basic string on one line, after its opening quote. -/
def basicBody : Option Escape → Reads (List Char)
  | _, [] => none
  | none, c :: rest =>
    if c = '"' then some ([], rest)
    else if c = '\\' then basicBody (some .letter) rest
    else if isPlain c then consBody c (basicBody none rest)
    else none
  | some e, c :: rest =>
    match e.push c with
    | none => none
    | some (.inl d) => consBody d (basicBody none rest)
    | some (.inr e) => basicBody (some e) rest

/-- A literal string on one line, after its opening quote. -/
def literalBody : Reads (List Char)
  | [] => none
  | c :: rest =>
    if c = '\'' then some ([], rest)
    else if isPlain c then consBody c (literalBody rest)
    else none

/-- The end of a string of several lines: three quotes, and up to two before them that belong to
the string. -/
def closing? (quote : Char) : Reads (List Char)
  | a :: b :: c :: rest =>
    if a = quote && b = quote && c = quote then
      match rest with
      | d :: e :: rest =>
        if d = quote then if e = quote then some ([quote, quote], rest) else some ([quote], e :: rest)
        else some ([], d :: e :: rest)
      | [d] => if d = quote then some ([quote], []) else some ([], [d])
      | [] => some ([], [])
    else none
  | _ => none

/-- A backslash at the end of a line, spaces aside, joins the line to the next text. -/
def joinsLines (afterBackslash : List Char) : Bool :=
  (afterLineEnd? (skipSpace afterBackslash)).isSome

/-- Where the reader of a basic string of several lines stands. -/
inductive LineState where
  | text
  /-- After a joining backslash, all spaces and line ends are left out. -/
  | joining
  | escape (e : Escape)
deriving DecidableEq, Repr

/-- A basic string of several lines, after its opening quotes. Line ends are read as line feeds. -/
def basicLines : LineState → Reads (List Char)
  | _, [] => none
  | .escape e, c :: rest =>
    match e.push c with
    | none => none
    | some (.inl d) => consBody d (basicLines .text rest)
    | some (.inr e) => basicLines (.escape e) rest
  | state, c :: rest =>
    let lineEnd := c = '\r' && rest.head? = some '\n'
    if state = .joining && (isSpace c || c = '\n' || lineEnd) then basicLines .joining rest
    else
      match closing? '"' (c :: rest) with
      | some found => some found
      | none =>
        if c = '\\' then
          if joinsLines rest then basicLines .joining rest else basicLines (.escape .letter) rest
        else if lineEnd then basicLines .text rest
        else if c = '\n' || isPlain c then consBody c (basicLines .text rest)
        else none

/-- A literal string of several lines, after its opening quotes. -/
def literalLines : Reads (List Char)
  | [] => none
  | c :: rest =>
    match closing? '\'' (c :: rest) with
    | some found => some found
    | none =>
      if c = '\r' && rest.head? = some '\n' then literalLines rest
      else if c = '\n' || isPlain c then consBody c (literalLines rest)
      else none

/-- A line end right after the opening quotes is not part of the string. -/
def skipFirstLineEnd (s : List Char) : List Char :=
  (afterLineEnd? s).getD s

/-- A string on one line; keys may be written so. -/
def lineString? : Reads String
  | '"' :: rest => (basicBody none rest).map fun (cs, rest) => (String.ofList cs, rest)
  | '\'' :: rest => (literalBody rest).map fun (cs, rest) => (String.ofList cs, rest)
  | _ => none

/-- A string of any kind. -/
def string? : Reads String
  | '"' :: '"' :: '"' :: rest =>
    (basicLines .text (skipFirstLineEnd rest)).map fun (cs, rest) => (String.ofList cs, rest)
  | '\'' :: '\'' :: '\'' :: rest =>
    (literalLines (skipFirstLineEnd rest)).map fun (cs, rest) => (String.ofList cs, rest)
  | s => lineString? s

end Toml
end JavacLaunch
