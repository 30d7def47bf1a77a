import BrailleShare.Octets

/-!
# Grids of characters

The character sets that take two octets for a character arrange their characters in rows. Such a
grid is written as one text per row. A blank stands for a cell without a character, and so does
every cell behind the last of its row.
-/

namespace BrailleShare.Charset

/-- Rows of characters. -/
abbrev Grid := List String

namespace Grid

/-- The character in a cell, both counted from zero. -/
def char? (grid : Grid) (row column : Nat) : Option Char :=
  (grid[row]?.bind fun line => line.toList[column]?).filter (· != ' ')

/-- No cell holds a blank. -/
theorem char?_ne_blank {grid : Grid} {row column : Nat} {c : Char}
    (h : grid.char? row column = some c) : c ≠ ' ' := by
  simpa using (Option.filter_eq_some_iff.1 h).2

end Grid

/-- Whether an octet counts one of the 94 rows or cells of a standard that is used above ASCII. -/
def isHigh94 (b : UInt8) : Bool :=
  0xA1 ≤ b && b ≤ 0xFE

/-- The character of two octets that count rows and cells from `0xA1` on. -/
def Grid.high94? (grid : Grid) (a b : UInt8) : Option Char :=
  if isHigh94 a && isHigh94 b then grid.char? (a.toNat - 0xA1) (b.toNat - 0xA1) else none

/-- The katakana of half the width, for the octets from a given one on. -/
def halfwidth (first b : UInt8) : Char :=
  Char.ofNat (0xFF61 + (b.toNat - first.toNat))

end BrailleShare.Charset
