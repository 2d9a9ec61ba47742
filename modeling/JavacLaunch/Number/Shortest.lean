import JavacLaunch.Number.Binary64

/-!
# JavacLaunch.Number.Shortest

The shortest decimal text of a binary floating point number: the fewest digits that are read back
as the same number, and of those the nearest to it, written without an exponent.

The decimal numbers with a given last place form a grid. `shortest` walks from the coarsest grid
to the finest and takes the first point that is read back as the number; only the two neighbours
of the number on a grid can be the nearest.
-/

namespace JavacLaunch
namespace Binary64

/-- The real numbers that are read as one value, `low / den` to `high / den` about
`value / den`; the ends belong to it if `closed`. -/
structure Basin where
  low : Nat
  value : Nat
  high : Nat
  den : Nat
  closed : Bool
deriving DecidableEq, Repr

/-- The basin of `s * 2 ^ e`. The gap below a power of two is half the gap above it. -/
def basin (s : Nat) (e : Int) : Basin :=
  let below := if s = hiddenBit && leastExponent < e then 1 else 2
  let up := Nat.pow 2 (e - 2).toNat
  let down := Nat.pow 2 (2 - e).toNat
  ⟨(4 * s - below) * up, 4 * s * up, (4 * s + 2) * up, down, s % 2 = 0⟩

/-- Whether `num / den` is in the basin. -/
def Basin.holds (b : Basin) (num den : Nat) : Bool :=
  let n := num * b.den
  if b.closed then b.low * den ≤ n && n ≤ b.high * den else b.low * den < n && n < b.high * den

/-- The nearest point of the grid `10 ^ p` that lies in the basin, as a multiple of `10 ^ p`; of
two that are as near, the greater. -/
def Basin.onGrid (b : Basin) (p : Int) : Option Nat :=
  let up := Nat.pow 10 p.toNat
  let down := Nat.pow 10 (-p).toNat
  let num := b.value * down
  let den := b.den * up
  let c := num / den
  match b.holds (c * up) down, b.holds ((c + 1) * up) down with
  | true, true => some (if 2 * (num % den) < den then c else c + 1)
  | true, false => some c
  | false, true => some (c + 1)
  | false, false => none

/-- The grids from `10 ^ p` down to `n` places below it. -/
def Basin.shortestFrom (b : Basin) : Nat → Int → Nat × Int
  | 0, p => (b.value * Nat.pow 10 (-p).toNat / b.den, p)
  | n + 1, p =>
    match b.onGrid p with
    | some c => (c, p)
    | none => b.shortestFrom n (p - 1)

/-- The greatest power of ten that is a value, roughly. -/
def coarsestGrid : Int := 309

/-- Grids from the coarsest one down to the last place that any value needs. -/
def gridCount : Nat := 660

def dropZeros : List Char → List Char
  | [] => []
  | c :: rest =>
    match dropZeros rest with
    | [] => if c = '0' then [] else [c]
    | kept => c :: kept

/-- `digits * 10 ^ p` without an exponent and with at least one place after the point. -/
def positional (digits : List Char) (p : Int) : List Char :=
  let zeros (n : Nat) := List.replicate n '0'
  let kept := dropZeros digits
  let p := p + (digits.length - kept.length : Nat)
  if 0 ≤ p then kept ++ zeros p.toNat ++ ['.', '0']
  else
    let places := (-p).toNat
    if places < kept.length then
      kept.take (kept.length - places) ++ '.' :: kept.drop (kept.length - places)
    else '0' :: '.' :: zeros (places - kept.length) ++ kept

def signText (negative : Bool) : String :=
  if negative then "-" else ""

def toText : Binary64 → String
  | .nan => "NaN"
  | .infinity negative => signText negative ++ "inf"
  | .finite negative 0 _ => signText negative ++ "0.0"
  | .finite negative s e =>
    let (c, p) := (basin s e).shortestFrom gridCount coarsestGrid
    signText negative ++ String.ofList (positional (Nat.toDigits 10 c) p)

end Binary64
end JavacLaunch
