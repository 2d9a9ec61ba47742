import JavacLaunch.Toml.DateTime
import JavacLaunch.Toml.Numeral
import JavacLaunch.Toml.Quotes
import JavacLaunch.Toml.Tree

/-!
# JavacLaunch.Toml.Document

Reading a TOML document. The text is read into statements, and the statements grow into a table.

* `value?`: one value. Arrays and inline tables nest less than `depthLimit` deep, and a dotted key
  has fewer parts than that.
* `statements?`: the lines of a document.
* `Table.ofStatements?`: the table they make, unless they contradict one another.
* `Table.ofText?`: both.
-/

namespace JavacLaunch
namespace Toml

def depthLimit : Nat := 80

/-- A key of one part or more: the tables it passes through, and its last part. -/
structure Key where
  path : List String
  last : String
deriving DecidableEq, Repr

def Key.push (k : String) (key : Key) : Key :=
  ⟨k :: key.path, key.last⟩

def isKeyChar (c : Char) : Bool :=
  c.isAlphanum || c = '-' || c = '_'

/-- One part of a key: bare, or a string on one line. -/
def keyPart? : Reads String := fun s =>
  match s.takeWhile isKeyChar with
  | [] => lineString? s
  | cs => some (String.ofList cs, s.dropWhile isKeyChar)

/-- A key of at most so many parts, with points between them and spaces around each. -/
def keyOf? : Nat → Reads Key
  | 0, _ => none
  | parts + 1, s =>
    match keyPart? (skipSpace s) with
    | none => none
    | some (k, s) =>
      match skipSpace s with
      | '.' :: s => (keyOf? parts s).map fun (key, s) => (key.push k, s)
      | s => some (⟨[], k⟩, s)

def key? : Reads Key :=
  keyOf? (depthLimit - 1)

def isTokenChar (c : Char) : Bool :=
  c.isAlphanum || c = '_' || c = '+' || c = '-' || c = '.' || c = ':'

/-- The value that a token denotes. -/
def Value.ofToken? (token : List Char) : Option Value :=
  match token with
  | ['t', 'r', 'u', 'e'] => some (.boolean true)
  | ['f', 'a', 'l', 's', 'e'] => some (.boolean false)
  | _ =>
    if isDateTime token then some (.dateTime (String.ofList token))
    else
      match integer? token with
      | some n => some (.integer n)
      | none => (float? token).map .float

/-- A value that is written as one token. A space may stand between a date and a time. -/
def scalar? : Reads Value := fun s =>
  let token := s.takeWhile isTokenChar
  let rest := s.dropWhile isTokenChar
  let time := rest.tail.takeWhile isTokenChar
  if isDate token && rest.head? = some ' ' && isOffsetTime time then
    some (.dateTime (String.ofList (token ++ ' ' :: time)), rest.tail.dropWhile isTokenChar)
  else (Value.ofToken? token).map (·, rest)

/-- The rest of an array, after its bracket or a comma. Every item uses up text, so `fuel` does
not run out if it is the length of the text. -/
def items? (item : Reads Value) : Nat → Reads (List Value)
  | 0, _ => none
  | fuel + 1, s =>
    match skipBlank s with
    | ']' :: s => some ([], s)
    | s =>
      match item s with
      | none => none
      | some (v, s) =>
        match skipBlank s with
        | ',' :: s => (items? item fuel s).map fun (vs, s) => (v :: vs, s)
        | ']' :: s => some ([v], s)
        | _ => none

/-- A key and its value, with spaces around each. -/
def keyValue? (item : Reads Value) : Reads (Key × Value) := fun s =>
  match key? s with
  | some (key, '=' :: s) => (item (skipSpace s)).map fun (v, s) => ((key, v), skipSpace s)
  | _ => none

/-- The entries of an inline table, of which there is at least one. They stand on one line, and no
comma comes after the last one. -/
def entries? (item : Reads Value) : Nat → Reads (List (Key × Value))
  | 0, _ => none
  | fuel + 1, s =>
    match keyValue? item s with
    | some (e, ',' :: s) => (entries? item fuel s).map fun (es, s) => (e :: es, s)
    | some (e, '\x7d' :: s) => some ([e], s)
    | _ => none

/-- An inline table is complete: only its own entries may share tables. -/
def Value.ofEntries? (entries : List (Key × Value)) : Option Value :=
  (entries.foldlM (fun (t : Tree) (e : Key × Value) => t.insert e.1.path e.1.last e.2) []).map
    fun t => .table (finishEntries t)

/-- An array of values that `item` reads, after its bracket. -/
def array? (item : Reads Value) : Reads Value := fun s =>
  (items? item (s.length + 1) s).map fun (vs, s) => (.array vs, s)

/-- An inline table of values that `item` reads, after its brace. -/
def inlineTable? (item : Reads Value) : Reads Value := fun s =>
  match skipSpace s with
  | '\x7d' :: s => some (.table [], s)
  | s =>
    match entries? item (s.length + 1) s with
    | some (es, s) => (Value.ofEntries? es).map (·, s)
    | none => none

/-- A value that holds no other value. -/
def simple? : Reads Value
  | '"' :: s => (string? ('"' :: s)).map fun (t, s) => (.string t, s)
  | '\'' :: s => (string? ('\'' :: s)).map fun (t, s) => (.string t, s)
  | s => scalar? s

/-- A value whose arrays and inline tables nest at most so deep. -/
def valueOf? : Nat → Reads Value
  | 0, s => simple? s
  | depth + 1, s =>
    match s with
    | '[' :: s => array? (valueOf? depth) s
    | '\x7b' :: s => inlineTable? (valueOf? depth) s
    | s => simple? s

def value? : Reads Value :=
  valueOf? (depthLimit - 1)

/-- A line of a document that is not blank. -/
inductive Statement where
  | entry (key : Key) (v : Value)
  | table (key : Key)
  | element (key : Key)
deriving Repr

/-- A statement without the end of its line. -/
def statement? : Reads Statement
  | '[' :: '[' :: s =>
    match key? s with
    | some (key, ']' :: ']' :: s) => some (.element key, s)
    | _ => none
  | '[' :: s =>
    match key? s with
    | some (key, ']' :: s) => some (.table key, s)
    | _ => none
  | s => (keyValue? value? s).map fun ((key, v), s) => (.entry key v, s)

/-- The statements of a text. Every statement uses up text, so `fuel` does not run out if it is
greater than the length of the text. -/
def statementsOf? : Nat → List Char → Option (List Statement)
  | 0, _ => none
  | fuel + 1, s =>
    match skipBlank s with
    | [] => some []
    | s =>
      match statement? s with
      | none => none
      | some (first, s) =>
        match afterStatement? s with
        | none => none
        | some s => (statementsOf? fuel s).map (first :: ·)

/-- A byte order mark in front is not part of the document. -/
def statements? (s : List Char) : Option (List Statement) :=
  let s := if s.head? = some '\uFEFF' then s.tail else s
  statementsOf? (s.length + 1) s

/-- A document in the making: all tables, and the path of the last header. -/
structure Draft where
  tree : Tree
  path : List String

/-- Adds a statement. -/
def Draft.add? (d : Draft) : Statement → Option Draft
  | .entry key v => (d.tree.updateAt (·.insert key.path key.last v) d.path).map (⟨·, d.path⟩)
  | .table key => (d.tree.updateAt (·.openTable key.last) key.path).map (⟨·, key.path ++ [key.last]⟩)
  | .element key =>
    (d.tree.updateAt (·.openElement key.last) key.path).map (⟨·, key.path ++ [key.last]⟩)

def Table.ofStatements? (statements : List Statement) : Option Table :=
  (statements.foldlM Draft.add? ⟨[], []⟩).map fun d => finishEntries d.tree

/-- The table that a text is written for; none if the text is not a TOML document. -/
def Table.ofText? (text : String) : Option Table :=
  (statements? text.toList).bind Table.ofStatements?

end Toml
end JavacLaunch
