/-!
# Blanks around a text

The blanks that may surround a setting or a line of a log are the white space characters of Unicode.
-/

namespace MemorySentry.Text

/-- Whether a character is white space. -/
def isBlank (c : Char) : Bool :=
  let n := c.toNat
  (9 ≤ n && n ≤ 13) || n == 0x20 || n == 0x85 || n == 0xa0 || n == 0x1680 ||
    (0x2000 ≤ n && n ≤ 0x200a) || n == 0x2028 || n == 0x2029 || n == 0x202f || n == 0x205f ||
    n == 0x3000

/-- A text without the blanks before and after it. -/
def trim (cs : List Char) : List Char :=
  ((cs.dropWhile isBlank).reverse.dropWhile isBlank).reverse

/-- A text in which the capital letters of ASCII are small. -/
def lower (cs : List Char) : List Char :=
  cs.map Char.toLower

end MemorySentry.Text
