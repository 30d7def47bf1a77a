import BrailleShare.Proofs.Server.Screen
import BrailleShare.Proofs.Window.Bounds

/-!
# Windows fit the display

A client gets its window with its tty, made for the size of the display, and all that becomes of it
later is that decoded updates are carried out on it. So it keeps the size of the display, and no
update that a client may send reaches beyond it.

Main statements: what is true of a new holding and survives what happens to holdings is true of all
of them (`Consistent.holdings_of_change`), and in every reachable state every window fits the
display (`ReachableWith.fit`).
-/

namespace BrailleShare

/-- What a request makes of what a client holds. -/
def Holding.revise (h : Holding) : WindowRequest → Holding
  | .clear => { h with freshness := .empty }
  | .update u => { h with window := h.window.apply u, freshness := .pending }

/-- A write that can be decoded has room for its flags. -/
theorem Request.four_le_of_decodeWindow {cells : Nat} {payload : Octets} {request : WindowRequest}
    (hd : decodeWindow cells payload = .ok request) : 4 ≤ payload.length := by
  simp only [decodeWindow, Except.bind_eq_ok_iff, Prod.exists, Cursor.word_eq_ok_iff] at hd
  obtain ⟨flags, rest, ⟨hpayload, -⟩, -⟩ := hd
  have hpayload : payload = Octets.ofWord flags ++ rest.rest := hpayload
  simp [hpayload, Octets.length_ofWord]

namespace Server

variable {σ : Type} {s t : Server σ} {given g : List Grant} {c : Client} {h : Holding}

/-! ### What is true of every holding -/

/-- Nothing changes what the server remembers of its driver. -/
theorem Change.info_eq (hch : Change s g t) : t.info = s.info := by
  cases hch <;> rfl

/-- Another holding for a client leaves those of the others alone. -/
theorem holdings_setHolding {P : Holding → Prop} (hc : s.client? c.id = some c) {d : Holding}
    (hP : ∀ {x h}, s.holding? x = some h → P h) (hd : P d) {x : ClientId} {h : Holding}
    (hx : (s.setHolding c.id (some d)).holding? x = some h) : P h := by
  rw [holding?_setHolding hc] at hx
  split at hx
  · exact Option.some.inj hx ▸ hd
  · exact hP hx

/-- What is true of every holding stays so, if it is true of a new one and survives each thing that
may happen to one. -/
theorem Consistent.holdings_of_change {P : Holding → Prop} (hs : s.Consistent)
    (hch : Change s g t)
    (settle : ∀ tty mode,
      P ⟨tty, mode, KeyMode.defaultMask mode, .blank s.info.size.cells, .empty⟩)
    (remask : ∀ {h} mask, P h → P { h with mask })
    (refresh : ∀ {h} freshness, P h → P { h with freshness })
    (draw : ∀ {h u} payload, Request.decodeWindow s.info.size.cells payload = .ok (.update u) →
      P h → P { h with window := h.window.apply u, freshness := .pending })
    (hP : ∀ {x h}, s.holding? x = some h → P h) {x : ClientId} {h : Holding}
    (hx : t.holding? x = some h) : P h := by
  have hheld : ∀ {c h}, s.client? c.id = some c → c.holding = some h → P h :=
    fun hc hh => hP (holding?_eq_some_iff.2 ⟨_, hc, hh⟩)
  cases hch with
  | quiet | point | spend | takeRaw | returnRaw | presentHost => exact hP hx
  | arrive peer now =>
    rw [holding?_of_append rfl hs.client?_next rfl] at hx
    exact hP hx
  | logIn hc =>
    rw [holding?_logIn hc] at hx
    exact hP hx
  | @settle c path mode tree tty hc => exact holdings_setHolding hc hP (settle tty mode) hx
  | @leave c d hc =>
    have hx : (s.setHolding c.id none).holding? x = some h := hx
    rw [holding?_setHolding hc] at hx
    split at hx
    · cases hx
    · exact hP hx
  | remask mask hc hh => exact holdings_setHolding hc hP (remask mask (hheld hc hh)) hx
  | blank hc hh => exact holdings_setHolding hc hP (refresh .empty (hheld hc hh)) hx
  | draw payload hc hh hu => exact holdings_setHolding hc hP (draw payload hu (hheld hc hh)) hx
  | present a hc hh => exact holdings_setHolding hc hP (refresh .displayed (hheld hc hh)) hx
  | depart hc =>
    rw [holding?_of_filter rfl] at hx
    split at hx
    · cases hx
    · exact hP hx

/-! ### Every window fits the display -/

/-- A window is of the size of a display, and its cursor is on the display or nowhere. -/
def Fits (h : Holding) (cells : Nat) : Prop :=
  h.window.HasCells cells ∧ h.window.cursor ≤ cells

/-- Every change leaves every window as large as the display. -/
theorem fits_of_change (hs : s.Consistent) (hch : Change s g t)
    (hfit : ∀ {x h}, s.holding? x = some h → Fits h s.info.size.cells) {x : ClientId}
    (hx : t.holding? x = some h) : Fits h t.info.size.cells := by
  rw [hch.info_eq]
  refine hs.holdings_of_change (P := (Fits · s.info.size.cells)) hch ?_ ?_ ?_ ?_ hfit hx
  · exact fun tty mode => ⟨Window.hasCells_blank _, Nat.zero_le _⟩
  · exact fun mask hh => hh
  · exact fun freshness hh => hh
  · intro h u payload hu hh
    have hwithin := Request.within_of_decodeWindow hu
    exact ⟨hh.1.apply hwithin, Window.cursor_apply_le hh.2 hwithin⟩

/-- A write that can be decoded is carried out for a client with a tty, unless the client has the
device to itself. -/
theorem write_eq_of_holding (hh : c.holding = some h) (hfree : s.rawHolder ≠ some c.id)
    {payload : Octets} {request : WindowRequest}
    (hd : Request.decodeWindow s.info.size.cells payload = .ok request) :
    s.write c payload = (s.setHolding c.id (some (h.revise request))).done := by
  have hlong : ¬ payload.length < 4 := Nat.not_lt.2 (Request.four_le_of_decodeWindow hd)
  have hraw : s.isRaw c.id = false := by simpa [isRaw] using hfree
  rw [write, if_neg hlong, withHolding, hraw, hh]
  cases request with
  | clear => simp only [hd, Bool.false_eq_true, if_false, Holding.revise]
  | update u => simp only [hd, Bool.false_eq_true, if_false, Holding.revise]

/-! ### Every state -/

variable [Driver σ]

/-- In every reachable state every window fits the display. -/
theorem ReachableWith.fit (hr : s.ReachableWith given) {x : ClientId}
    (hx : s.holding? x = some h) : Fits h s.info.size.cells := by
  refine (hr.of_changes (P := fun s _ => s.Consistent ∧
    ∀ {x h}, s.holding? x = some h → Fits h s.info.size.cells) (fun hs => hs.1) ?_ ?_).2 hx
  · intro settings driver console table
    refine ⟨start_consistent settings driver console table, fun hx => ?_⟩
    cases hx
  · exact fun hs hch => ⟨hs.1.of_change hch, fun hx => fits_of_change hs.1 hch hs.2 hx⟩

end Server

end BrailleShare
