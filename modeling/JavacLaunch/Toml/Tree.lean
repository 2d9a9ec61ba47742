import JavacLaunch.Toml.Value

/-!
# JavacLaunch.Toml.Tree

How the statements of a document grow into one table.

A table under construction remembers what brought it in, because that decides what may still be
added to it: a header opens a table once, a longer header only implies it, and a dotted key opens
it to further dotted keys. Every operation gives nothing if the document contradicts itself.

* `insert`: a value under a dotted key.
* `openTable`, `openElement`: the headers of a table and of an element of an array of tables.
* `updateAt`: any of these at the table that the last header opened.
-/

namespace JavacLaunch
namespace Toml

/-- What brought a table in: its own header, a longer header, or a dotted key. -/
inductive Origin where
  | header
  | implied
  | dotted
deriving DecidableEq, Repr

/-- A key and what it holds so far. An array of tables can be added to only in its last table. -/
inductive Node where
  | value (v : Value)
  | table (origin : Origin) (entries : List (String × Node))
  | elements (earlier : List Value) (last : List (String × Node))

abbrev Tree := List (String × Node)

mutual

/-- The value of a node when nothing more is added. -/
def Node.finish : Node → Value
  | .value v => v
  | .table _ entries => .table (finishEntries entries)
  | .elements earlier last => .array (earlier ++ [.table (finishEntries last)])

def finishEntries : List (String × Node) → List (String × Value)
  | [] => []
  | (k, n) :: rest => (k, n.finish) :: finishEntries rest

end

namespace Tree

/-- Gives the node of a key to `f`, if there is one, and puts the outcome in its place, or at the
end for a new key. -/
def alter (k : String) (f : Option Node → Option Node) : Tree → Option Tree
  | [] => (f none).map fun n => [(k, n)]
  | (k', n) :: rest =>
    if k' = k then (f (some n)).map fun n => (k, n) :: rest
    else (alter k f rest).map ((k', n) :: ·)

def get? (k : String) (t : Tree) : Option Node :=
  List.lookup k t

def erase (k : String) (t : Tree) : Tree :=
  t.filter (·.1 ≠ k)

/-- Updates the table at a path of headers. Tables on the way that are not there yet are implied;
an array of tables stands for its last table. -/
def updateAt (f : Tree → Option Tree) : List String → Tree → Option Tree
  | [], t => f t
  | k :: path, t =>
    t.alter k fun
      | none => (updateAt f path []).map (.table .implied ·)
      | some (.value _) => none
      | some (.table origin entries) => (updateAt f path entries).map (.table origin ·)
      | some (.elements earlier last) => (updateAt f path last).map (.elements earlier ·)

/-- Puts a value under a dotted key. A key of several parts passes through tables that no header
has opened, and may end only in a table that dotted keys brought in. -/
def insertFrom (extensible : Bool) (last : String) (v : Value) : List String → Tree → Option Tree
  | [], t =>
    if extensible then
      t.alter last fun
        | none => some (.value v)
        | some _ => none
    else none
  | k :: path, t =>
    t.alter k fun
      | none => (insertFrom true last v path []).map (.table .dotted ·)
      | some (.value _) => none
      | some (.table .header _) => none
      | some (.table .implied entries) =>
        (insertFrom false last v path entries).map (.table .implied ·)
      | some (.table .dotted entries) =>
        (insertFrom true last v path entries).map (.table .dotted ·)
      | some (.elements earlier table) =>
        (insertFrom false last v path table).map (.elements earlier ·)

/-- A key of one part is put into the table itself. -/
def insert (path : List String) (last : String) (v : Value) (t : Tree) : Option Tree :=
  insertFrom true last v path t

/-- The header of a table. A table that longer headers implied moves to where its own header is. -/
def openTable (k : String) (t : Tree) : Option Tree :=
  match t.get? k with
  | none => some (t ++ [(k, .table .header [])])
  | some (.table .implied entries) => some (t.erase k ++ [(k, .table .header entries)])
  | some _ => none

/-- The header of one more element of an array of tables. -/
def openElement (k : String) (t : Tree) : Option Tree :=
  t.alter k fun
    | none => some (.elements [] [])
    | some (.elements earlier last) => some (.elements (earlier ++ [.table (finishEntries last)]) [])
    | some _ => none

end Tree
end Toml
end JavacLaunch
