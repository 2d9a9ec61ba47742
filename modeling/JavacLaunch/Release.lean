import JavacLaunch.Number.Word

/-!
# JavacLaunch.Release

A Java release as a runtime names it, and its major number.
-/

namespace JavacLaunch

structure Release where
  token : String
  major : UInt32
deriving DecidableEq, Repr

namespace Release

/-- The number that the leading decimal digits of a token denote; a word must hold it. -/
def majorOf? (token : List Char) : Option UInt32 :=
  Word.ofText? (token.takeWhile Char.isDigit)

def ofToken? (token : String) : Option Release :=
  (majorOf? token.toList).map fun major => ⟨token, major⟩

end Release
end JavacLaunch
