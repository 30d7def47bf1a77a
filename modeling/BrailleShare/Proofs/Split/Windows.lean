import BrailleShare.Proofs.Server.Windows
import BrailleShare.Proofs.Split.Steps

/-!
# Windows in their own store

The window of a client, how far it has come, the mask and the tty are kept and changed each by
itself. This file says that they fit all the same: there is a window exactly where there is a tty,
of the size of the display, so that the refusal of a write for want of a window is never given and
whoever is shown has a window to be rendered.

Main statements: in every reachable state the windows fit the display (`Reachable.windowsFit`), and
no payload drives one out of bounds (`windows_stay_in_bounds`).
-/

namespace BrailleShare

/-- The code of a payload that cannot be read is not the one of a request out of place. -/
theorem RequestError.code_ne_illegalInstruction (e : RequestError) :
    e.code ≠ .illegalInstruction := by
  cases e <;> simp [code]

namespace SplitServer

variable {σ : Type} {d : SplitServer σ} {r : Registration}

/-- The windows fit the display, and the stores fit each other. -/
structure WindowsFit (d : SplitServer σ) : Prop where
  /-- A connection has a window if and only if it holds a tty. -/
  windows : ∀ r ∈ d.records, (d.handle r.id).window.isSome = r.tty.isSome
  /-- A window has an entry of each plane for each cell, and its cursor is on the display or
  nowhere. -/
  planes : ∀ r ∈ d.records, ∀ w, (d.handle r.id).window = some w →
    w.text.length = d.common.info.size.cells ∧ w.andMask.length = d.common.info.size.cells ∧
      w.orMask.length = d.common.info.size.cells ∧ w.cursor ≤ d.common.info.size.cells
  /-- A connection without a tty has nothing to show and wants no key. -/
  bare : ∀ r ∈ d.records, r.tty = none →
    (d.handle r.id).freshness = .empty ∧ (d.handle r.id).mask.isEmpty = true
  /-- A write of a client with a tty is carried out if it can be decoded and the client does not
  have the device to itself. No step of an update fails. -/
  writes : ∀ r ∈ d.records, ∀ w, (d.handle r.id).window = some w →
    d.common.rawHolder ≠ some r.id → ∀ payload request,
      Request.decodeWindow d.common.info.size.cells payload = .ok request →
        (d.write r payload).1 = none ∧ ((d.write r payload).2.handle r.id).window =
          match request with
          | .clear => some w
          | .update u => w.applyChecked u
  /-- A write is out of place without a tty and in raw mode. It is never so because the window is
  not there. -/
  missing : ∀ r ∈ d.records, ∀ payload,
    (d.write r payload).1 = some (.request .illegalInstruction) →
      r.tty = none ∨ d.common.rawHolder = some r.id
  /-- Whoever is to be shown has a window. -/
  shown : ∀ id, d.shownClient = some id → (d.handle id).window.isSome = true
  /-- A window is rendered to one dot pattern for each cell. -/
  renders : ∀ r ∈ d.records, ∀ w, (d.handle r.id).window = some w →
    ∀ table, (w.render table).length = d.common.info.size.cells

/-! ### Writes -/

/-- A write that can be decoded is carried out for a client with a tty and a window, unless the
client has the device to itself. -/
theorem write_of_window {tty : TtyId} {w : Window} (htty : r.tty = some tty)
    (hw : (d.handle r.id).window = some w) (hfree : d.common.rawHolder ≠ some r.id)
    {payload : Octets} {request : WindowRequest}
    (hd : Request.decodeWindow d.common.info.size.cells payload = .ok request) :
    (d.write r payload).1 = none ∧ ((d.write r payload).2.handle r.id).window =
      some (match request with
        | .clear => w
        | .update u => w.apply u) := by
  have hlong : ¬ payload.length < 4 := Nat.not_lt.2 (Request.four_le_of_decodeWindow hd)
  have hraw : d.isRaw r.id = false := by simpa [isRaw, Server.isRaw] using hfree
  rw [write, if_neg hlong, withTty, hraw, htty]
  cases request with
  | clear => simp [hd, done, hw]
  | update u => simp [hd, done, hw]

/-- A write is out of place without a tty, without a window and in raw mode. -/
theorem of_write_illegal {payload : Octets}
    (h : (d.write r payload).1 = some (.request .illegalInstruction)) :
    r.tty = none ∨ (d.handle r.id).window = none ∨ d.common.rawHolder = some r.id := by
  by_cases hraw : d.isRaw r.id = true
  · exact .inr (.inr (by simpa [isRaw, Server.isRaw] using hraw))
  cases htty : r.tty with
  | none => exact .inl rfl
  | some tty =>
    refine .inr (.inl ?_)
    rw [write, withTty, if_neg hraw, htty] at h
    split at h
    · cases h
    · simp only at h
      split at h
      · rename_i e _
        simp only [refuse, Option.some.injEq, Server.Refusal.request.injEq] at h
        exact absurd h (e.code_ne_illegalInstruction)
      · cases h
      · split at h
        · assumption
        · cases h

variable [Driver σ]

/-! ### What is behind a handle -/

/-- In a reachable state a window is that of a client with a tty, and it has the size of the
display. -/
theorem Reachable.fit (h : d.Reachable) {w : Window} (hr : r ∈ d.records)
    (hw : (d.handle r.id).window = some w) :
    ∃ tty, r.tty = some tty ∧ w.HasCells d.common.info.size.cells ∧
      w.cursor ≤ d.common.info.size.cells := by
  have hm := h.matches
  obtain ⟨given, hs⟩ := h.faithful.reachable
  have hrecord := hm.tidy.known r hr
  obtain ⟨tty, htty⟩ := Option.isSome_iff_exists.1
    ((hm.tidy.suits r hr).window.symm.trans (congrArg _ hw))
  -- the window is one of the things that the server says this client holds
  have hheld : d.server.holding? r.id =
      some ⟨tty, r.mode, (d.handle r.id).mask, w, (d.handle r.id).freshness⟩ := by
    simp [Server.holding?, hm.client?, hrecord, client, Registration.holding_client htty hw]
  exact ⟨tty, htty, hs.fit hheld⟩

/-- In a reachable state the windows fit the display, and the stores fit each other. -/
theorem Reachable.windowsFit (h : d.Reachable) : d.WindowsFit := by
  have hm := h.matches
  constructor
  case windows => exact fun r hr => (hm.tidy.suits r hr).window
  case planes =>
    intro r hr w hw
    obtain ⟨-, -, hcells, hcursor⟩ := h.fit hr hw
    exact ⟨hcells.text, hcells.andMask, hcells.orMask, hcursor⟩
  case bare =>
    intro r hr htty
    obtain ⟨hfreshness, hmask⟩ := (hm.tidy.suits r hr).bare htty
    exact ⟨hfreshness, by rw [hmask]; rfl⟩
  case writes =>
    intro r hr w hw hfree payload request hd
    obtain ⟨tty, htty, hcells, -⟩ := h.fit hr hw
    obtain ⟨hdone, hwindow⟩ := write_of_window htty hw hfree hd
    refine ⟨hdone, hwindow.trans ?_⟩
    cases request with
    | clear => rfl
    | update u =>
      have hwithin := Request.within_of_decodeWindow hd
      exact (Window.applyChecked_eq hcells hwithin d.common.info.size.cells_lt).symm
  case missing =>
    intro r hr payload hillegal
    rcases of_write_illegal hillegal with htty | hw | hraw
    · exact .inl htty
    · -- a client without a window has no tty either
      exact .inl (by simpa [hw] using (hm.tidy.suits r hr).window.symm)
    · exact .inr hraw
  case shown =>
    intro id hid
    obtain ⟨held, hh, -⟩ := Server.hasContent_of_shownClient (hm.shownClient ▸ hid)
    obtain ⟨r, tty, w, -, -, hw, -⟩ := hm.of_holding? hh
    simp [hw]
  case renders =>
    intro r hr w hw table
    obtain ⟨-, -, hcells, -⟩ := h.fit hr hw
    exact hcells.length_render table

/-! ### Main result -/

/-- Updates that are decoded stay within any window of the display's size. In every reachable state
the windows are of this size, and the separate stores amount to the server that keeps them
together. -/
theorem windows_stay_in_bounds (hr : d.Reachable) :
    (∀ size : DisplaySize, size.cells < Size.limit) ∧
      (∀ cells payload u w, cells < Size.limit →
        Request.decodeWindow cells payload = .ok (.update u) → Window.HasCells w cells →
          w.applyChecked u = some (w.apply u)) ∧
      d.WindowsFit ∧ d.Faithful := by
  refine ⟨DisplaySize.cells_lt, fun cells payload u w hcells hu hw => ?_, hr.windowsFit,
    hr.faithful⟩
  exact Window.applyChecked_eq hw (Request.within_of_decodeWindow hu) hcells

/-- A write of the last cell of eight. -/
def lastCell : Octets :=
  Octets.ofWord 0x0A ++ Octets.ofWord 8 ++ Octets.ofWord 1 ++ [0x3F]

/-- The windows fit after a rehearsal, and an update of the last cell stays within a window of
eight. -/
theorem windows_stay_in_bounds_rehearsed : rehearsed.Reachable ∧
    Request.decodeWindow 8 lastCell = .ok (.update ⟨8, 1, none, some [0x3F], none, none⟩) ∧
    (Window.blank 8).applyChecked ⟨8, 1, none, some [0x3F], none, none⟩ =
      some ((Window.blank 8).apply ⟨8, 1, none, some [0x3F], none, none⟩) ∧
    rehearsed.records.length = 2 ∧ rehearsed.WindowsFit ∧ rehearsed.Faithful :=
  have hdecode : Request.decodeWindow 8 lastCell =
      .ok (.update ⟨8, 1, none, some [0x3F], none, none⟩) := rfl
  have hbounds := windows_stay_in_bounds rehearsed_reachable
  ⟨rehearsed_reachable, hdecode,
    hbounds.2.1 8 lastCell _ _ (by decide) hdecode (Window.hasCells_blank 8), by decide +kernel,
    hbounds.2.2⟩

end SplitServer

end BrailleShare
