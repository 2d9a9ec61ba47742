/-!
# JavacLaunch.Number.Binary64

Binary floating point numbers of 64 bits as exact values, and the nearest of them to a decimal
number. All arithmetic is on natural numbers.
-/

namespace JavacLaunch

/-- A number in decimal notation: `digits * 10 ^ exponent`, with a sign of its own. -/
structure Decimal where
  negative : Bool
  digits : Nat
  exponent : Int
deriving DecidableEq, Repr

/-- A finite value is `significand * 2 ^ exponent`, where the significand has 53 bits, or fewer
if the exponent is the least one. -/
inductive Binary64 where
  | finite (negative : Bool) (significand : Nat) (exponent : Int)
  | infinity (negative : Bool)
  | nan
deriving DecidableEq, Repr

namespace Binary64

def leastExponent : Int := -1074

def greatestExponent : Int := 971

/-- The leading one of the 53 bits. -/
def hiddenBit : Nat := 0x10000000000000

/-- The quotient to the nearest whole number, a half to the even one. -/
def roundDiv (num den : Nat) : Nat :=
  let q := num / den
  let r := num % den
  if 2 * r < den then q
  else if den < 2 * r then q + 1
  else q + q % 2

/-- The whole part of the binary logarithm of `num / den`. -/
def log2Div (num den : Nat) : Int :=
  let e : Int := Nat.log2 num - Nat.log2 den
  let below := if 0 ≤ e then num < den * Nat.pow 2 e.toNat else num * Nat.pow 2 (-e).toNat < den
  if below then e - 1 else e

/-- The nearest value to `num / den`; both are positive. -/
def nearestDiv (negative : Bool) (num den : Nat) : Binary64 :=
  let e := max (log2Div num den - 52) leastExponent
  let s :=
    if 0 ≤ e then roundDiv num (den * Nat.pow 2 e.toNat)
    else roundDiv (num * Nat.pow 2 (-e).toNat) den
  let (s, e) := if s = 2 * hiddenBit then (hiddenBit, e + 1) else (s, e)
  if greatestExponent < e then .infinity negative else .finite negative s e

/-- Every decimal number from here on is past the greatest finite value, and every one that is as
far below one is less than half the least positive value. -/
def decimalReach : Int := 400

/-- The nearest value to a decimal number. -/
def nearest (d : Decimal) : Binary64 :=
  let magnitude := d.exponent + (Nat.toDigits 10 d.digits).length
  if d.digits = 0 || magnitude < -decimalReach then .finite d.negative 0 leastExponent
  else if decimalReach < magnitude then .infinity d.negative
  else if 0 ≤ d.exponent then nearestDiv d.negative (d.digits * Nat.pow 10 d.exponent.toNat) 1
  else nearestDiv d.negative d.digits (Nat.pow 10 (-d.exponent).toNat)

end Binary64
end JavacLaunch
