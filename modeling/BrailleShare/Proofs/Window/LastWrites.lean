import BrailleShare.Proofs.Window.Bounds

/-!
# The last write of a cell

A window has three planes, the characters and the two masks, and a cursor. Each request for a write
brings some of the planes for a region of the cells, and leaves the rest alone. So whatever stands
in a plane for a cell was brought by the last request whose region has the cell and that carries the
plane, or has been there since the window was made; which of the requests before touched the cell,
and for which planes, does not matter.

Main statements: one request (`Plane.getElem?_revise`), a sequence of requests on any window
(`Plane.getElem?_foldl_revise`) and on a blank one (`Plane.getElem?_drawn`), and how the window is
rendered, cell by cell (`Window.getElem?_render`).
-/

namespace BrailleShare

/-! ### Requests for a cell -/

/-- The region of an update has a cell, counted from one. -/
def Update.Covers (u : Update) (n : Nat) : Prop :=
  u.start ≤ n ∧ n < u.start + u.size

instance (u : Update) (n : Nat) : Decidable (u.Covers n) :=
  inferInstanceAs (Decidable (u.start ≤ n ∧ n < u.start + u.size))

namespace WindowRequest

/-- A request that a payload asks for, with a display of so many cells. -/
def Decoded (cells : Nat) (r : WindowRequest) : Prop :=
  ∃ payload, Request.decodeWindow cells payload = .ok r

/-- The cursor that a request brings. -/
def cursor? : WindowRequest → Option Nat
  | .clear => none
  | .update u => u.cursor

/-- What the last of the requests that bring anything brings. -/
def last? {α : Type} (brought? : WindowRequest → Option α) (requests : List WindowRequest) :
    Option α :=
  requests.reverse.findSome? brought?

/-- The last of several requests is a later one, if any brings something, and else the first. -/
theorem last?_cons {α : Type} (brought? : WindowRequest → Option α) (r : WindowRequest)
    (requests : List WindowRequest) :
    last? brought? (r :: requests) = (last? brought? requests).or (brought? r) := by
  rw [last?, List.reverse_cons, List.findSome?_append, List.findSome?_singleton]
  rfl

end WindowRequest

namespace Window

variable {cells : Nat} {w : Window}

/-- What a request makes of a window. -/
def revise (w : Window) : WindowRequest → Window
  | .clear => w
  | .update u => w.apply u

/-- What a sequence of requests makes of a blank window. -/
def drawn (cells : Nat) (requests : List WindowRequest) : Window :=
  requests.foldl revise (blank cells)

/-- A window keeps its cells when a request that was decoded for them is carried out. -/
theorem HasCells.revise (hw : w.HasCells cells) {r : WindowRequest} (hr : r.Decoded cells) :
    (w.revise r).HasCells cells := by
  obtain ⟨payload, hr⟩ := hr
  cases r with
  | clear => exact hw
  | update u => exact hw.apply (Request.within_of_decodeWindow hr)

/-- Any number of requests leaves the window its size. -/
theorem HasCells.foldl_revise (hw : w.HasCells cells) {requests : List WindowRequest}
    (hall : ∀ r ∈ requests, r.Decoded cells) : (requests.foldl Window.revise w).HasCells cells := by
  induction requests generalizing w with
  | nil => exact hw
  | cons r requests ih =>
    have hr := hw.revise (hall r List.mem_cons_self)
    exact ih hr fun r' hr' => hall r' (List.mem_cons_of_mem r hr')

/-- The cursor is the last one that was brought. -/
theorem cursor_foldl_revise (w : Window) (requests : List WindowRequest) :
    (requests.foldl revise w).cursor =
      (WindowRequest.last? WindowRequest.cursor? requests).getD w.cursor := by
  induction requests generalizing w with
  | nil => rfl
  | cons r requests ih =>
    have hr : (w.revise r).cursor = r.cursor?.getD w.cursor := by
      cases r with
      | clear => rfl
      | update u => rfl
    rw [List.foldl_cons, ih, hr, WindowRequest.last?_cons, Option.getD_or]

/-- A part that is laid over a list takes the place of as many entries from its position on. -/
theorem getElem?_overlay {α : Type} {old : List α} {first : Nat} {xs : List α}
    (hlast : first + xs.length ≤ old.length) (i : Nat) :
    (overlay old first (some xs))[i]? =
      if first ≤ i ∧ i < first + xs.length then xs[i - first]? else old[i]? := by
  have hfront : (old.take first).length = first := List.length_take_of_le (by omega)
  rw [overlay, List.append_assoc]
  rcases Nat.lt_or_ge i first with hbefore | hfirst
  · rw [if_neg (by omega), List.getElem?_append_left (by omega), List.getElem?_take_of_lt hbefore]
  rw [List.getElem?_append_right (by omega), hfront]
  rcases Nat.lt_or_ge i (first + xs.length) with hin | hbehind
  · rw [if_pos ⟨hfirst, hin⟩, List.getElem?_append_left (by omega)]
  · rw [if_neg (by omega), List.getElem?_append_right (by omega), List.getElem?_drop]
    congr 1
    omega

end Window

/-! ### Planes -/

/-- A plane of windows: what it is of a window and of an update, and what stands in it where nothing
was written. An update that is carried out lays its part over the plane. -/
structure Plane (α : Type) where
  entries : Window → List α
  part : Update → Option (List α)
  empty : α
  entries_blank : ∀ cells, entries (.blank cells) = List.replicate cells empty
  entries_apply : ∀ w u, entries (w.apply u) = Window.overlay (entries w) (u.start - 1) (part u)
  length_entries : ∀ {w cells}, w.HasCells cells → (entries w).length = cells
  length_part : ∀ {u cells}, u.Within cells → ∀ xs, part u = some xs → xs.length = u.size

namespace Plane

/-- The characters. -/
def text : Plane Char where
  entries := Window.text
  part := Update.text
  empty := ' '
  entries_blank _ := rfl
  entries_apply _ _ := rfl
  length_entries := Window.HasCells.text
  length_part := Update.Within.text

/-- The masks that are laid over the dots first. -/
def andMask : Plane UInt8 where
  entries := Window.andMask
  part := Update.andMask
  empty := 0xFF
  entries_blank _ := rfl
  entries_apply _ _ := rfl
  length_entries := Window.HasCells.andMask
  length_part := Update.Within.andMask

/-- The masks that are added to the dots. -/
def orMask : Plane UInt8 where
  entries := Window.orMask
  part := Update.orMask
  empty := 0
  entries_blank _ := rfl
  entries_apply _ _ := rfl
  length_entries := Window.HasCells.orMask
  length_part := Update.Within.orMask

variable {α : Type} (p : Plane α) {cells : Nat} {w : Window} {r : WindowRequest}

/-- What a request brings in a plane for a cell, counted from one: the entry of the cell, if the
region of the request has the cell and the request carries the plane. -/
def brought? (n : Nat) : WindowRequest → Option α
  | .clear => none
  | .update u =>
    if u.Covers n then (p.part u).map fun xs => xs.getD (n - u.start) p.empty else none

/-- A request changes a cell in a plane if it brings something for it there, and leaves it alone if
not. -/
theorem getElem?_revise (hw : w.HasCells cells) (hr : r.Decoded cells) {n : Nat} (hn : 1 ≤ n) :
    (p.entries (w.revise r))[n - 1]? = (p.brought? n r).or (p.entries w)[n - 1]? := by
  cases r with
  | clear => rfl
  | update u =>
    obtain ⟨payload, hr⟩ := hr
    have hu := Request.within_of_decodeWindow hr
    have hstart := hu.start
    rw [Window.revise, p.entries_apply, brought?]
    cases hpart : p.part u with
    | none => rw [Option.map_none, ite_self]; rfl
    | some xs =>
      have hxs := p.length_part hu xs hpart
      have hregion : u.start - 1 + xs.length ≤ (p.entries w).length := by
        rw [hxs, p.length_entries hw]
        exact hu.region
      rw [Window.getElem?_overlay hregion]
      by_cases hcovers : u.Covers n
      · obtain ⟨hfirst, hlast⟩ := hcovers
        have hindex : n - 1 - (u.start - 1) = n - u.start := by omega
        have hlt : n - u.start < xs.length := by omega
        rw [if_pos (by omega), if_pos ⟨hfirst, hlast⟩, hindex, Option.map_some, Option.some_or,
          List.getElem?_eq_getElem hlt, List.getD_eq_getElem?_getD,
          List.getElem?_eq_getElem hlt, Option.getD_some]
      · rw [if_neg hcovers, Option.none_or]
        rw [Update.Covers] at hcovers
        rw [if_neg (by omega)]

/-- After a sequence of requests there stands what the last of them brought for the cell, or what
was there before. -/
theorem getElem?_foldl_revise {requests : List WindowRequest} (hw : w.HasCells cells)
    (hall : ∀ r ∈ requests, r.Decoded cells) {n : Nat} (hn : 1 ≤ n) :
    (p.entries (requests.foldl Window.revise w))[n - 1]? =
      (WindowRequest.last? (p.brought? n) requests).or (p.entries w)[n - 1]? := by
  induction requests generalizing w with
  | nil => rfl
  | cons r requests ih =>
    have hr := hall r List.mem_cons_self
    have hrest : ∀ r' ∈ requests, r'.Decoded cells :=
      fun r' hr' => hall r' (List.mem_cons_of_mem r hr')
    rw [List.foldl_cons, ih (hw.revise hr) hrest, p.getElem?_revise hw hr hn,
      WindowRequest.last?_cons, Option.or_assoc]

/-- A cell of a plane shows what the last request that reached it has brought, and without one it is
empty. -/
theorem getElem?_drawn {requests : List WindowRequest}
    (hall : ∀ r ∈ requests, r.Decoded cells) {n : Nat} (hn : 1 ≤ n) (hcells : n ≤ cells) :
    (p.entries (Window.drawn cells requests))[n - 1]? =
      some ((WindowRequest.last? (p.brought? n) requests).getD p.empty) := by
  have hblank : (p.entries (.blank cells))[n - 1]? = some p.empty := by
    rw [p.entries_blank, List.getElem?_replicate, if_pos (by omega)]
  rw [Window.drawn, p.getElem?_foldl_revise (Window.hasCells_blank cells) hall hn, hblank,
    Option.or_some]

end Plane

/-! ### Rendering -/

namespace Window

variable {cells : Nat} {w : Window} {table : DotTable}

/-- The dots of a character: a braille character has its own, any other those of the table. -/
def dotsOf (table : DotTable) (c : Char) : UInt8 :=
  if 0x2800 ≤ c.toNat ∧ c.toNat ≤ 0x28FF then UInt8.ofNat (c.toNat - 0x2800) else table c

/-- A character shows its own dots, if it is one of the braille block, and those of the table if
not. -/
theorem dots?_getD (table : DotTable) (c : Char) :
    (Braille.dots? c).getD (table c) = dotsOf table c := by
  rw [Braille.dots?, dotsOf, Braille.firstCode]
  by_cases hin : 0x2800 ≤ c.toNat ∧ c.toNat ≤ 0x28FF
  · have hblock : 0x2800 ≤ c.toNat ∧ c.toNat ≤ 0x2800 + 0xFF := ⟨hin.1, hin.2⟩
    rw [if_pos hblock, if_pos hin, Option.getD_some]
  · have hblock : ¬ (0x2800 ≤ c.toNat ∧ c.toNat ≤ 0x2800 + 0xFF) := fun h => hin ⟨h.1, h.2⟩
    rw [if_neg hblock, if_neg hin, Option.getD_none]

/-- A cell is rendered to the dots of its character under its masks, and with the cursor's dots if
the cursor is in it. -/
theorem getElem?_render {n : Nat} (hn : 1 ≤ n) {c : Char} {a o : UInt8}
    (hc : w.text[n - 1]? = some c) (ha : w.andMask[n - 1]? = some a)
    (ho : w.orMask[n - 1]? = some o) :
    (w.render table)[n - 1]? =
      some (((dotsOf table c &&& a) ||| o) ||| if w.cursor = n then 0xC0 else 0) := by
  have hcontent : (w.content table)[n - 1]? = some ((dotsOf table c &&& a) ||| o) := by
    have hmasks := List.getElem?_zip_eq_some (i := n - 1) (z := (a, o)) |>.2 ⟨ha, ho⟩
    have hcell := List.getElem?_zip_eq_some (i := n - 1) (z := (c, a, o)) |>.2 ⟨hc, hmasks⟩
    rw [content, List.getElem?_map, hcell, ← dots?_getD]
    rfl
  rw [render]
  split
  · rename_i hnone
    rw [hcontent, if_neg (by omega), UInt8.or_zero]
  · rename_i hsome
    rw [List.getElem?_modify, hcontent]
    show some (if w.cursor - 1 = n - 1 then _ ||| cursorDots else _) = _
    by_cases hcursor : w.cursor = n
    · rw [if_pos (by rw [hcursor]), if_pos hcursor]
      rfl
    · rw [if_neg (by omega), if_neg hcursor, UInt8.or_zero]

end Window

end BrailleShare
