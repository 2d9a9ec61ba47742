/-!
# JavacLaunch.Text.Blank

White space in the Unicode sense (the property `White_Space`), and trimming it off both ends of a
text. No-break spaces are blank; zero-width spaces and the byte order mark are not.
-/

namespace JavacLaunch

def isBlank (c : Char) : Bool :=
  let n := c.toNat
  (0x09 ≤ n && n ≤ 0x0D) || n == 0x20 || n == 0x85 || n == 0xA0 || n == 0x1680
    || (0x2000 ≤ n && n ≤ 0x200A) || n == 0x2028 || n == 0x2029 || n == 0x202F || n == 0x205F
    || n == 0x3000

/-- The text without the blanks at its ends. -/
def trimBlank (s : List Char) : List Char :=
  ((s.dropWhile isBlank).reverse.dropWhile isBlank).reverse

end JavacLaunch
