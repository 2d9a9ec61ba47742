/-!
# JavacLaunch.Number.Word

Numbers of 32 bits in decimal notation. They are read digit by digit in the arithmetic of words,
and no step may pass the greatest word.
-/

namespace JavacLaunch
namespace Word

/-- The product of two words, if that is a word. -/
def mul? (a b : UInt32) : Option UInt32 :=
  if a.toNat * b.toNat < UInt32.size then some (a * b) else none

/-- The sum of two words, if that is a word. -/
def add? (a b : UInt32) : Option UInt32 :=
  if a.toNat + b.toNat < UInt32.size then some (a + b) else none

/-- The value of a decimal digit. -/
def digit? (c : Char) : Option UInt32 :=
  if c.isDigit then some (c.val - '0'.val) else none

/-- A number with one more digit behind it. -/
def push? (n : UInt32) (c : Char) : Option UInt32 := do
  let tens ← mul? n 10
  let d ← digit? c
  add? tens d

/-- The number that one or more digits denote. -/
def ofDigits? : List Char → Option UInt32
  | [] => none
  | c :: ds => (c :: ds).foldlM push? 0

/-- The number that a text denotes; a plus sign may stand in front of its digits. -/
def ofText? : List Char → Option UInt32
  | '+' :: ds => ofDigits? ds
  | ds => ofDigits? ds

end Word
end JavacLaunch
