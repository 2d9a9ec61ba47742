import JavacLaunch.Host.Basic
import JavacLaunch.Text.Path

/-!
# JavacLaunch.Host.Directory

A host whose working directory is known: a tree of plain files, directories and scripted Java
programs. Paths are looked up as a Unix system does, one component after the other. The directories
above the working directory, and those that absolute paths name, hold nothing else that matters.

A name without a slash is looked up on the search path, where there are two programs: `true`, which
says nothing, and `echo`, which prints its arguments.
-/

namespace JavacLaunch

/-- How a scripted program answers. To `-version` it writes its banner; to anything else it lists
its arguments, each in brackets on a line of its own. -/
structure Script where
  versionOut : Bytes
  versionErr : Bytes
  versionCode : Nat
  code : Nat
deriving DecidableEq, Repr

def Script.respond (s : Script) (args : List String) : Response :=
  if args.head? = some "-version" then ⟨s.versionOut, s.versionErr, some s.versionCode⟩
  else ⟨Utf8.encode (String.join (args.map fun arg => "[" ++ arg ++ "]\n")), [], some s.code⟩

inductive Entry where
  | file (content : Bytes)
  | directory
  | program (script : Script)
deriving DecidableEq, Repr

/-- The entries of a working directory by their paths from there, and of the directories in it. -/
abbrev Directory := List (List Bytes × Entry)

namespace Directory

def nameLimit : Nat := 255

def pathLimit : Nat := 4095

/-- Where a look-up stands: at an entry in the working directory, or at a directory outside it,
some levels above it or beyond the reach of a relative path. -/
inductive Place where
  | inside (path : List Bytes)
  | above (levels : Nat)
  | elsewhere
deriving DecidableEq, Repr

/-- What is at a path; the directories on the way to an entry are there too. -/
def find? (d : Directory) (path : List Bytes) : Option Entry :=
  if path = [] then some .directory
  else
    match d.lookup path with
    | some e => some e
    | none => if d.any fun e => path.isPrefixOf e.1 then some .directory else none

def entryAt? (d : Directory) : Place → Option Entry
  | .inside path => d.find? path
  | .above _ | .elsewhere => some .directory

def Place.parent : Place → Place
  | .inside [] => .above 1
  | .inside path => .inside path.dropLast
  | .above n => .above (n + 1)
  | .elsewhere => .elsewhere

/-- One component on from a place, which must be a directory. -/
def step (d : Directory) (place : Place) (name : Bytes) : Except Refusal Place :=
  match d.entryAt? place with
  | none => .error .noSuchFile
  | some (.file _) | some (.program _) => .error .notADirectory
  | some .directory =>
    if name = [] || name = Path.dot then .ok place
    else if name = Path.dotDot then .ok place.parent
    else if nameLimit < name.length then .error .nameTooLong
    else
      match place with
      | .inside path =>
        match d.find? (path ++ [name]) with
        | some _ => .ok (.inside (path ++ [name]))
        | none => .error .noSuchFile
      | .above _ | .elsewhere => .error .noSuchFile

/-- The entry that a path names. -/
def resolve (d : Directory) (path : Bytes) : Except Refusal Entry :=
  if path = [] then .error .noSuchFile
  else if pathLimit < path.length then .error .nameTooLong
  else
    let start := if path.head? = some Path.slash then Place.elsewhere else .inside []
    match (Path.components path).foldlM d.step start with
    | .error r => .error r
    | .ok place =>
      match d.entryAt? place with
      | some e => .ok e
      | none => .error .noSuchFile

/-- What a script looks like when it is read as a file. -/
def scriptText : Bytes :=
  Utf8.encode "#!/bin/sh\nexec\n"

def read (d : Directory) (path : Bytes) : Except Refusal Bytes :=
  match d.resolve path with
  | .error r => .error r
  | .ok .directory => .error .isADirectory
  | .ok (.file content) => .ok content
  | .ok (.program _) => .ok scriptText

/-- A program on the search path. The directories there hold a `.` and a `..`, as all do. -/
def searchPath (name : Bytes) (args : List String) : Except Refusal Response :=
  if name = Utf8.encode "true" then .ok ⟨[], [], some 0⟩
  else if name = Utf8.encode "echo" then
    .ok ⟨Utf8.encode (" ".intercalate args ++ "\n"), [], some 0⟩
  else if name = Path.dot || name = Path.dotDot then .error .permissionDenied
  else if nameLimit < name.length then .error .nameTooLong
  else .error .noSuchFile

def start (d : Directory) (program : String) (args : List String) : Except Refusal Response :=
  let path := Utf8.encode program
  if !path.contains Path.slash then searchPath path args
  else
    match d.resolve path with
    | .error r => .error r
    | .ok (.program script) => .ok (script.respond args)
    | .ok _ => .error .permissionDenied

def host (d : Directory) : Host :=
  ⟨d.read, d.start⟩

end Directory
end JavacLaunch
