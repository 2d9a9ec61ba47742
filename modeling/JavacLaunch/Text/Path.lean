import JavacLaunch.Text.Utf8

/-!
# JavacLaunch.Text.Path

File paths as bytes, with slashes between their components.
-/

namespace JavacLaunch
namespace Path

def slash : UInt8 := '/'.toUInt8

def dot : Bytes := Utf8.encode "."

def dotDot : Bytes := Utf8.encode ".."

/-- The components of a path; two slashes in a row have an empty one between them. -/
def components : Bytes → List Bytes
  | [] => [[]]
  | b :: rest =>
    if b = slash then [] :: components rest
    else
      match components rest with
      | c :: cs => (b :: c) :: cs
      | [] => [[b]]

/-- The name of the file that a path names, unless the path ends in going up. -/
def fileName? (path : Bytes) : Option Bytes :=
  match ((components path).filter fun c => c ≠ [] && c ≠ dot).getLast? with
  | some c => if c = dotDot then none else some c
  | none => none

end Path
end JavacLaunch
