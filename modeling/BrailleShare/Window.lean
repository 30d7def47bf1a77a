import BrailleShare.Octets

/-!
# Windows

A client's private view of the display: one character, one AND mask and one OR mask per cell, and
a cursor. Rendering turns it into one dot pattern per cell; the characters of the Unicode braille
block stand for their dots, every other character is looked up in a table of dots.
-/

namespace BrailleShare

/-! ## Braille characters -/

namespace Braille

/-- The code of the braille character without dots. -/
def firstCode : Nat := 0x2800

/-- The dots of a character of the Unicode braille block. -/
def dots? (c : Char) : Option UInt8 :=
  if firstCode ≤ c.toNat ∧ c.toNat ≤ firstCode + 0xFF then
    some (UInt8.ofNat (c.toNat - firstCode))
  else none

/-- The braille character that shows these dots. -/
def character (dots : UInt8) : Char :=
  Char.ofNat (firstCode + dots.toNat)

/-- Dot patterns as a line of braille characters. -/
def line (cells : Octets) : String :=
  String.ofList (cells.map character)

end Braille

/-- The dots of characters that do not say themselves which dots they have. -/
abbrev DotTable := Char → UInt8

/-- The table used where no other is given: a visible ASCII character keeps its code, all else is
blank. -/
def DotTable.plain : DotTable := fun c =>
  if 0x21 ≤ c.toNat ∧ c.toNat ≤ 0x7E then UInt8.ofNat c.toNat else 0

/-! ## Geometry -/

/-- The size of a display. -/
structure DisplaySize where
  columns : UInt32
  rows : UInt32
  deriving DecidableEq, Repr

/-- How many cells a display has. -/
def DisplaySize.cells (size : DisplaySize) : Nat :=
  size.columns.toNat * size.rows.toNat

/-! ## Windows -/

/-- Part of a window's new content. -/
structure Update where
  /-- The first cell of the region, counted from one. -/
  start : Nat
  /-- The number of cells in the region. -/
  size : Nat
  text : Option (List Char)
  andMask : Option Octets
  orMask : Option Octets
  /-- The cursor's cell, counted from one, or zero for none. -/
  cursor : Option Nat
  deriving DecidableEq, Repr

/-- A client's view of the display. -/
structure Window where
  text : List Char
  andMask : Octets
  orMask : Octets
  /-- The cursor's cell, counted from one, or zero for none. -/
  cursor : Nat
  deriving DecidableEq, Repr

namespace Window

/-- The dots that show the cursor: 7 and 8. -/
def cursorDots : UInt8 := 0xC0

/-- A window without content. -/
def blank (cells : Nat) : Window where
  text := List.replicate cells ' '
  andMask := List.replicate cells 0xFF
  orMask := List.replicate cells 0
  cursor := 0

/-- Lays a new part over a list from a position on; what lies before and behind it stays. -/
def overlay {α : Type} (old : List α) (start : Nat) : Option (List α) → List α
  | none => old
  | some new => old.take start ++ new ++ old.drop (start + new.length)

/-- Carries out an update: each plane that it brings replaces the region's cells. -/
def apply (w : Window) (u : Update) : Window where
  text := overlay w.text (u.start - 1) u.text
  andMask := overlay w.andMask (u.start - 1) u.andMask
  orMask := overlay w.orMask (u.start - 1) u.orMask
  cursor := u.cursor.getD w.cursor

/-- The dots of one cell. -/
def cell (table : DotTable) (c : Char) (andMask orMask : UInt8) : UInt8 :=
  (((Braille.dots? c).getD (table c)) &&& andMask) ||| orMask

/-- The dots of every cell, before the cursor is drawn. -/
def content (w : Window) (table : DotTable) : Octets :=
  (w.text.zip (w.andMask.zip w.orMask)).map fun (c, a, o) => cell table c a o

/-- The dots of every cell. The cursor adds its dots to its cell, if there is one. -/
def render (w : Window) (table : DotTable) : Octets :=
  if w.cursor = 0 then w.content table
  else (w.content table).modify (w.cursor - 1) (· ||| cursorDots)

end Window

/-- How far a client's content has come. -/
inductive Freshness where
  /-- There is none; the client does not compete for the display. -/
  | empty
  /-- It has changed since it was last written to the device. -/
  | pending
  /-- It has been written to the device. -/
  | displayed
  deriving DecidableEq, Repr, Inhabited

end BrailleShare
