import MemorySentry.Text.Glyph.Attached
import MemorySentry.Text.Glyph.Unassigned

/-!
# Characters with a glyph of their own

A character is shown as it is in quoted text if it has a glyph that stands by itself. The blank
does; controls, format characters, the other separators, private characters, blank letters, numbers
without a character and the marks that attach to the character before them do not. The ranges are
those of the Unicode character database, version 17.0.
-/

namespace MemorySentry.Text

/-- Controls, format characters, separators other than the blank, and private characters. -/
def hiddenRanges : List (Nat × Nat) :=
  [(0x0, 0x1f), (0x7f, 0xa0), (0xad, 0xad), (0x600, 0x605), (0x61c, 0x61c), (0x6dd, 0x6dd),
    (0x70f, 0x70f), (0x890, 0x891), (0x8e2, 0x8e2), (0x1680, 0x1680), (0x180e, 0x180e),
    (0x2000, 0x200f), (0x2028, 0x202f), (0x205f, 0x2064), (0x2066, 0x206f), (0x3000, 0x3000),
    (0xe000, 0xf8ff), (0xfeff, 0xfeff), (0xfff9, 0xfffb), (0x110bd, 0x110bd), (0x110cd, 0x110cd),
    (0x13430, 0x1343f), (0x1bca0, 0x1bca3), (0x1d173, 0x1d17a), (0xe0001, 0xe0001),
    (0xe0020, 0xe007f), (0xf0000, 0xffffd), (0x100000, 0x10fffd)]

/-- Letters that are there to be left blank. -/
def blankLetterRanges : List (Nat × Nat) :=
  [(0x115f, 0x1160), (0x3164, 0x3164), (0xffa0, 0xffa0)]

/-- Whether a number lies in one of some closed ranges. -/
def inRanges (ranges : List (Nat × Nat)) (n : Nat) : Bool :=
  ranges.any fun r => r.1 ≤ n && n ≤ r.2

/-- Whether a character has a glyph that stands by itself. -/
def hasGlyph (c : Char) : Bool :=
  if c.toNat < 0x7f then 0x20 ≤ c.toNat
  else
    !inRanges hiddenRanges c.toNat && !inRanges blankLetterRanges c.toNat &&
      !inRanges attachedRanges c.toNat && !inRanges unassignedRanges c.toNat

end MemorySentry.Text
