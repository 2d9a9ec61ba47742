/-!
# JavacLaunch.Toml.Digits

Digits up to base sixteen, and the numbers they denote.
-/

namespace JavacLaunch
namespace Toml

/-- The value of a digit. -/
def digitValue? (c : Char) : Option Nat :=
  if c.isDigit then some (c.toNat - '0'.toNat)
  else if 'a' ≤ c && c ≤ 'f' then some (c.toNat - 'a'.toNat + 10)
  else if 'A' ≤ c && c ≤ 'F' then some (c.toNat - 'A'.toNat + 10)
  else none

def isDigitOf (base : Nat) (c : Char) : Bool :=
  (digitValue? c).any (· < base)

/-- The number that digits denote. -/
def ofDigits (base : Nat) (ds : List Char) : Nat :=
  ds.foldl (fun n c => base * n + (digitValue? c).getD 0) 0

/-- Digits with single underscores between them; the digits alone. -/
def digits? (base : Nat) : List Char → Option (List Char)
  | [] => none
  | [c] => if isDigitOf base c then some [c] else none
  | c :: d :: rest =>
    if isDigitOf base c then
      if d = '_' then (digits? base rest).map (c :: ·) else (digits? base (d :: rest)).map (c :: ·)
    else none

end Toml
end JavacLaunch
