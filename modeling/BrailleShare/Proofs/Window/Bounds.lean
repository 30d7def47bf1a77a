import BrailleShare.Proofs.Request.WriteGrammar
import Mathlib.Algebra.Group.Nat.Defs

/-!
# Updates stay within the display

A window is changed by laying parts over its planes. Taken by itself that is a function on lists,
which has an answer for any position and any length. A machine has none where a slice reaches beyond
its plane, where a part has another length than its slice, or where a size does not fit its 64 bits.
This file says what such a machine does, step by step, and that no step of it fails.

Main statements: whatever update a payload decodes to lies within the display (`Update.Within`,
`within_of_decodeWindow`); carrying it out step by step goes well on any window of the display's
size and gives what `Window.apply` gives (`Window.applyChecked_eq`); and the window keeps its size
(`Window.HasCells.apply`), so that it is rendered to one dot pattern for each cell
(`Window.HasCells.length_render`).
-/

namespace BrailleShare

/-! ### Sizes of 64 bits -/

namespace Size

/-- How many sizes there are. -/
def limit : Nat :=
  2 ^ 64

/-- The sum of two sizes, if it is one. -/
def add? (a b : Nat) : Option Nat :=
  if a + b < limit then some (a + b) else none

/-- The difference of two sizes, if it is one. -/
def sub? (a b : Nat) : Option Nat :=
  if b ≤ a then some (a - b) else none

end Size

/-- The cells of a display can be counted, whatever its size. -/
theorem DisplaySize.cells_lt (size : DisplaySize) : size.cells < Size.limit := by
  have hcolumns : size.columns.toNat < 2 ^ 32 := size.columns.toNat_lt
  have hrows : size.rows.toNat < 2 ^ 32 := size.rows.toNat_lt
  calc size.columns.toNat * size.rows.toNat
      ≤ size.columns.toNat * 2 ^ 32 := Nat.mul_le_mul_left _ (Nat.le_of_lt hrows)
    _ < 2 ^ 32 * 2 ^ 32 := Nat.mul_lt_mul_of_pos_right hcolumns (by decide)
    _ = Size.limit := by decide

/-! ### Updates within a display -/

/-- An update names cells of the display only, and each part that it brings has an entry for each of
its cells. -/
structure Update.Within (u : Update) (cells : Nat) : Prop where
  start : 1 ≤ u.start
  region : u.start - 1 + u.size ≤ cells
  text : ∀ cs, u.text = some cs → cs.length = u.size
  andMask : ∀ bs, u.andMask = some bs → bs.length = u.size
  orMask : ∀ bs, u.orMask = some bs → bs.length = u.size
  cursor : ∀ n, u.cursor = some n → n ≤ cells

namespace Request

/-- The region of a write, or the whole display, lies within the display. -/
theorem WriteFields.Fits.span_within {f : WriteFields} {flags : UInt32} {cells : Nat}
    (h : f.Fits flags cells) :
    1 ≤ (f.span cells).1 ∧ (f.span cells).1 - 1 + (f.span cells).2 ≤ cells := by
  unfold WriteFields.span
  cases hr : f.region with
  | none => simp
  | some r =>
    have hin := h.inside r hr
    simp only [Option.map_some, Option.getD_some]
    omega

/-- Only what lies within the display is decoded. -/
theorem within_of_decodeWindow {cells : Nat} {payload : Octets} {u : Update}
    (h : decodeWindow cells payload = .ok (.update u)) : u.Within cells := by
  obtain ⟨flags, c, hu⟩ : ∃ flags c, decodeUpdate flags cells c = .ok u := by
    simp only [decodeWindow, Except.bind_eq_ok_iff, Prod.exists] at h
    obtain ⟨flags, c, -, h⟩ := h
    split at h
    · cases Except.pure_eq_ok_iff.1 h
    · obtain ⟨u', hu', h⟩ := Except.bind_eq_ok_iff.1 h
      obtain rfl := WindowRequest.update.inj (Except.pure_eq_ok_iff.1 h)
      exact ⟨flags, c, hu'⟩
  obtain ⟨f, -, hfits, hasks⟩ := decodeUpdate_eq_ok_iff.1 hu
  have hspan := hfits.span_within
  constructor
  · rw [hasks.start]
    exact hspan.1
  · rw [hasks.start, hasks.size]
    exact hspan.2
  · intro cs hcs
    cases ht : f.text with
    | none =>
      rw [hasks.noText ht] at hcs
      cases hcs
    | some bs =>
      obtain ⟨cs', hcs', -, hlen⟩ := hasks.text bs ht
      obtain rfl := Option.some.inj (hcs.symm.trans hcs')
      rw [hlen, hasks.size]
  · intro bs hbs
    rw [hasks.andMask] at hbs
    rw [hfits.andLength bs hbs, hasks.size]
  · intro bs hbs
    rw [hasks.orMask] at hbs
    rw [hfits.orLength bs hbs, hasks.size]
  · intro n hn
    rw [hasks.cursor] at hn
    obtain ⟨v, hv, rfl⟩ := Option.map_eq_some_iff.1 hn
    exact hfits.onDisplay v hv

end Request

/-! ### Carrying out an update step by step -/

namespace Window

variable {α : Type}

/-- Copies a part over the slice that begins at `first` and ends before `last`. There has to be such
a slice, and the part has to be as long. -/
def copyOver? (old : List α) (first last : Nat) (new : List α) : Option (List α) :=
  if first ≤ last ∧ last ≤ old.length ∧ new.length = last - first then
    some (old.take first ++ new ++ old.drop last)
  else none

/-- Copies a part over a slice, if there is a part. -/
def overlay? (old : List α) (first last : Nat) : Option (List α) → Option (List α)
  | none => some old
  | some new => copyOver? old first last new

/-- Carries out an update with sizes of 64 bits, unless one of the steps fails. -/
def applyChecked (w : Window) (u : Update) : Option Window := do
  let first ← Size.sub? u.start 1
  let last ← Size.add? first u.size
  let text ← overlay? w.text first last u.text
  let andMask ← overlay? w.andMask first last u.andMask
  let orMask ← overlay? w.orMask first last u.orMask
  return { text, andMask, orMask, cursor := u.cursor.getD w.cursor }

/-- A part that is as long as its slice is copied to where it belongs. -/
theorem overlay?_eq {old : List α} {first size : Nat} {new : Option (List α)}
    (hlast : first + size ≤ old.length) (hlen : ∀ xs, new = some xs → xs.length = size) :
    overlay? old first (first + size) new = some (overlay old first new) := by
  cases new with
  | none => rfl
  | some xs =>
    have hxs := hlen xs rfl
    have hslice : first ≤ first + size ∧ first + size ≤ old.length ∧
        xs.length = first + size - first := by omega
    rw [overlay?, copyOver?, if_pos hslice, overlay, hxs]

/-- A stretch laid over cells leaves their number as it is. -/
theorem length_overlay {old : List α} {first size : Nat} {new : Option (List α)}
    (hlast : first + size ≤ old.length) (hlen : ∀ xs, new = some xs → xs.length = size) :
    (overlay old first new).length = old.length := by
  cases new with
  | none => rfl
  | some xs =>
    have hxs := hlen xs rfl
    simp only [overlay, List.length_append, List.length_take, List.length_drop]
    omega

/-- A window has a character and two masks for each of so many cells. -/
structure HasCells (w : Window) (cells : Nat) : Prop where
  text : w.text.length = cells
  andMask : w.andMask.length = cells
  orMask : w.orMask.length = cells

variable {w : Window} {u : Update} {cells : Nat}

/-- An empty window has all its cells. -/
theorem hasCells_blank (cells : Nat) : (blank cells).HasCells cells where
  text := List.length_replicate
  andMask := List.length_replicate
  orMask := List.length_replicate

/-- No step fails if the update lies within the window. -/
theorem applyChecked_eq (hw : w.HasCells cells) (hu : u.Within cells)
    (hcells : cells < Size.limit) : w.applyChecked u = some (w.apply u) := by
  have hfirst : Size.sub? u.start 1 = some (u.start - 1) := if_pos hu.start
  have hlast : Size.add? (u.start - 1) u.size = some (u.start - 1 + u.size) :=
    if_pos (Nat.lt_of_le_of_lt hu.region hcells)
  have htext := overlay?_eq (hw.text ▸ hu.region) hu.text
  have hand := overlay?_eq (hw.andMask ▸ hu.region) hu.andMask
  have hor := overlay?_eq (hw.orMask ▸ hu.region) hu.orMask
  simp [applyChecked, hfirst, hlast, htext, hand, hor, apply]

/-- A window keeps its cells when an update within them is applied. -/
theorem HasCells.apply (hw : w.HasCells cells) (hu : u.Within cells) :
    (w.apply u).HasCells cells where
  text := (length_overlay (hw.text ▸ hu.region) hu.text).trans hw.text
  andMask := (length_overlay (hw.andMask ▸ hu.region) hu.andMask).trans hw.andMask
  orMask := (length_overlay (hw.orMask ▸ hu.region) hu.orMask).trans hw.orMask

/-- The cursor stays on the display or nowhere. -/
theorem cursor_apply_le (hw : w.cursor ≤ cells) (hu : u.Within cells) :
    (w.apply u).cursor ≤ cells := by
  unfold Window.apply
  cases hc : u.cursor with
  | none => exact hw
  | some n => exact hu.cursor n hc

/-- A window is rendered to one dot pattern for each cell. -/
theorem HasCells.length_render (hw : w.HasCells cells) (table : DotTable) :
    (w.render table).length = cells := by
  have hcontent : (w.content table).length = cells := by
    simp [content, hw.text, hw.andMask, hw.orMask]
  unfold render
  split
  · exact hcontent
  · rw [List.length_modify, hcontent]

end Window

end BrailleShare
