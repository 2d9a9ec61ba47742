import JavacLaunch.Toml.Digits

/-!
# JavacLaunch.Toml.DateTime

TOML dates and times, each read from the whole of its token: a date, a time, or a date and a time
with or without an offset from universal time.
-/

namespace JavacLaunch
namespace Toml

/-- A number of two digits up to a limit. -/
def isTwoDigits (least greatest : Nat) (a b : Char) : Bool :=
  a.isDigit && b.isDigit &&
    let n := ofDigits 10 [a, b]
    least ≤ n && n ≤ greatest

def isLeap (year : Nat) : Bool :=
  year % 4 = 0 && (year % 100 ≠ 0 || year % 400 = 0)

def daysIn (year month : Nat) : Nat :=
  if month = 2 then if isLeap year then 29 else 28
  else if month = 4 || month = 6 || month = 9 || month = 11 then 30
  else 31

/-- A date that the calendar has. -/
def isDate : List Char → Bool
  | [a, b, c, d, '-', m, n, '-', x, y] =>
    [a, b, c, d].all Char.isDigit && isTwoDigits 1 12 m n &&
      isTwoDigits 1 (daysIn (ofDigits 10 [a, b, c, d]) (ofDigits 10 [m, n])) x y
  | _ => false

/-- Nothing, or a point and digits. -/
def isFraction : List Char → Bool
  | [] => true
  | '.' :: ds => ds ≠ [] && ds.all Char.isDigit
  | _ => false

/-- A time of day; the second may be a leap second. -/
def isTime : List Char → Bool
  | a :: b :: ':' :: c :: d :: ':' :: e :: f :: fraction =>
    isTwoDigits 0 23 a b && isTwoDigits 0 59 c d && isTwoDigits 0 60 e f && isFraction fraction
  | _ => false

/-- An offset from universal time. -/
def isOffset : List Char → Bool
  | ['Z'] | ['z'] => true
  | [sign, a, b, ':', c, d] =>
    (sign = '+' || sign = '-') && isTwoDigits 0 23 a b && isTwoDigits 0 59 c d
  | _ => false

def startsOffset (c : Char) : Bool :=
  c = 'Z' || c = 'z' || c = '+' || c = '-'

/-- A time with or without an offset. -/
def isOffsetTime (s : List Char) : Bool :=
  let offset := s.dropWhile (!startsOffset ·)
  isTime (s.takeWhile (!startsOffset ·)) && (offset = [] || isOffset offset)

def isDateTime (s : List Char) : Bool :=
  isDate s || isTime s ||
    (isDate (s.take 10) &&
      match s.drop 10 with
      | c :: time => (c = 'T' || c = 't') && isOffsetTime time
      | [] => false)

end Toml
end JavacLaunch
