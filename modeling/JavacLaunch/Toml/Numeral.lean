import JavacLaunch.Toml.Digits
import JavacLaunch.Toml.Value

/-!
# JavacLaunch.Toml.Numeral

TOML integers and floating point numbers, each read from the whole of its token.
-/

namespace JavacLaunch
namespace Toml

/-- Decimal digits without a needless zero in front. -/
def wholeDigits? (s : List Char) : Option (List Char) :=
  match digits? 10 s with
  | some ('0' :: _ :: _) => none
  | ds => ds

/-- The sign in front of a number, and the rest. -/
def splitSign : List Char → Bool × List Char
  | '-' :: rest => (true, rest)
  | '+' :: rest => (false, rest)
  | s => (false, s)

/-- Integers have 64 bits. -/
def inRange? (n : Int) : Option Int :=
  if -0x8000000000000000 ≤ n && n < 0x8000000000000000 then some n else none

/-- Integers of another base have no sign. -/
def integer? : List Char → Option Int
  | '0' :: 'x' :: s => (digits? 16 s).bind fun ds => inRange? (ofDigits 16 ds)
  | '0' :: 'o' :: s => (digits? 8 s).bind fun ds => inRange? (ofDigits 8 ds)
  | '0' :: 'b' :: s => (digits? 2 s).bind fun ds => inRange? (ofDigits 2 ds)
  | s =>
    let (negative, s) := splitSign s
    (wholeDigits? s).bind fun ds =>
      let n : Int := ofDigits 10 ds
      inRange? (if negative then -n else n)

/-- The text before the first character of a kind, and the text after that character. -/
def cutAt (p : Char → Bool) (s : List Char) : List Char × Option (List Char) :=
  (s.takeWhile (!p ·), (s.dropWhile (!p ·)).tail?)

/-- The exponent after `e`; zeros may come first. -/
def exponent? (s : List Char) : Option Int :=
  let (negative, s) := splitSign s
  (digits? 10 s).map fun ds =>
    let n : Int := ofDigits 10 ds
    if negative then -n else n

/-- A number with a point, an exponent or both. -/
def decimal? (s : List Char) : Option Decimal :=
  let (negative, s) := splitSign s
  let (significand, exponent) := cutAt (fun c => c = 'e' || c = 'E') s
  let (whole, places) := cutAt (· = '.') significand
  match places, exponent with
  | none, none => none
  | _, _ => do
    let whole ← wholeDigits? whole
    let places ← match places with
      | some s => digits? 10 s
      | none => some []
    let e ← match exponent with
      | some s => exponent? s
      | none => some 0
    some ⟨negative, ofDigits 10 (whole ++ places), e - places.length⟩

/-- A number too great for a finite value is refused, unless it is negative. -/
def float? (s : List Char) : Option Binary64 :=
  match splitSign s with
  | (negative, ['i', 'n', 'f']) => some (.infinity negative)
  | (_, ['n', 'a', 'n']) => some .nan
  | _ =>
    match (decimal? s).map Binary64.nearest with
    | some (.infinity false) => none
    | found => found

end Toml
end JavacLaunch
