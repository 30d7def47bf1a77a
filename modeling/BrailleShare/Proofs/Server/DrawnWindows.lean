import BrailleShare.Proofs.Server.Refusals
import BrailleShare.Proofs.Server.Windows
import BrailleShare.Proofs.Window.LastWrites

/-!
# What the windows of clients show

A client draws its window by requests that each concern some of the cells and some of the planes.
This file says what the window shows after any number of them: for each cell and each plane what the
last request brought that concerns both, and the cursor that was brought last.

Main statements: the requests of a client with a tty make of its window what they make of any
(`window?_run_writes`), and a window is the last write for each cell and plane
(`windows_show_last_writes`).
-/

namespace BrailleShare

/-! ### What a window shows -/

/-- A plane holds for each cell what the last request brought for it, or what stands there in a
blank window; and no request touches what does not concern it. -/
structure Plane.LastWritten {α : Type} (p : Plane α) (cells : Nat)
    (requests : List WindowRequest) : Prop where
  last : ∀ n, 1 ≤ n → n ≤ cells → (p.entries (Window.drawn cells requests))[n - 1]? =
    some ((WindowRequest.last? (p.brought? n) requests).getD p.empty)
  outside : ∀ u, .update u ∈ requests → ∀ w, Window.HasCells w cells → ∀ n, 1 ≤ n →
    ¬ u.Covers n → (p.entries (w.apply u))[n - 1]? = (p.entries w)[n - 1]?
  absent : ∀ u, p.part u = none → ∀ w, p.entries (w.apply u) = p.entries w

/-- A window is the last write for each cell and plane. -/
structure Window.ShowsLastWrites (cells : Nat) (table : DotTable)
    (requests : List WindowRequest) : Prop where
  text : Plane.text.LastWritten cells requests
  andMask : Plane.andMask.LastWritten cells requests
  orMask : Plane.orMask.LastWritten cells requests
  cursor : (drawn cells requests).cursor =
    (WindowRequest.last? WindowRequest.cursor? requests).getD 0
  sameCursor : ∀ u : Update, u.cursor = none → ∀ w : Window, (w.apply u).cursor = w.cursor
  rendered : ((drawn cells requests).render table).length = cells
  /-- A cell shows the dots of its character under its masks, and the cursor if it is there. -/
  cell : ∀ n, 1 ≤ n → n ≤ cells → ∃ c a o, (drawn cells requests).text[n - 1]? = some c ∧
    (drawn cells requests).andMask[n - 1]? = some a ∧
    (drawn cells requests).orMask[n - 1]? = some o ∧
    ((drawn cells requests).render table)[n - 1]? =
      some (((dotsOf table c &&& a) ||| o) |||
        if (drawn cells requests).cursor = n then 0xC0 else 0)

/-- Each cell of a plane shows what was last written to it. -/
theorem Plane.lastWritten {α : Type} (p : Plane α) {cells : Nat} {requests : List WindowRequest}
    (hall : ∀ r ∈ requests, r.Decoded cells) : p.LastWritten cells requests where
  last := fun _ hn hcells => p.getElem?_drawn hall hn hcells
  outside := by
    intro u hu w hw n hn hcovers
    have hrevise := p.getElem?_revise hw (hall _ hu) hn
    rw [Plane.brought?, if_neg hcovers, Option.none_or] at hrevise
    exact hrevise
  absent := by
    intro u hpart w
    rw [p.entries_apply, hpart]
    rfl

/-- A window shows what was last written to it, plane by plane, and is rendered from that. -/
theorem Window.showsLastWrites {cells : Nat} (table : DotTable) {requests : List WindowRequest}
    (hall : ∀ r ∈ requests, r.Decoded cells) : ShowsLastWrites cells table requests where
  text := Plane.text.lastWritten hall
  andMask := Plane.andMask.lastWritten hall
  orMask := Plane.orMask.lastWritten hall
  cursor := cursor_foldl_revise (blank cells) requests
  sameCursor := by
    intro u hu w
    rw [Window.apply, hu, Option.getD_none]
  rendered := ((hasCells_blank cells).foldl_revise hall).length_render table
  cell := by
    intro n hn hcells
    have hc := Plane.text.getElem?_drawn hall hn hcells
    have ha := Plane.andMask.getElem?_drawn hall hn hcells
    have ho := Plane.orMask.getElem?_drawn hall hn hcells
    exact ⟨_, _, _, hc, ha, ho, getElem?_render hn hc ha ho⟩

namespace Server

variable {σ : Type} {s : Server σ} {id : ClientId} {h : Holding} {payload : Octets}
  {request : WindowRequest}

/-! ### The writes of a client -/

/-- What a client holds says nothing on whether it has logged in. -/
theorem isLoggedIn_setHolding (id : ClientId) (held : Option Holding) :
    (s.setHolding id held).isLoggedIn id = s.isLoggedIn id := by
  have hclient : (s.setHolding id held).client? id =
      (s.client? id).map fun c => { c with holding := held } := by
    have hmap := client?_of_map (s := s) (t := s.setHolding id held)
      (f := fun c => { c with holding := held }) (fun _ => rfl) rfl id
    rwa [if_pos rfl] at hmap
  rw [isLoggedIn, hclient, isLoggedIn]
  cases s.client? id with
  | none => rfl
  | some c => rfl

variable [Driver σ]

/-- Writes that arrive from a connection, the first one first. -/
def writesFrom (id : ClientId) (payloads : List Octets) : List (Event σ) :=
  payloads.map fun payload => .frame id (.packet (.ofKind .write payload))

/-- A request to write that is in order changes what its client holds, and nothing else. -/
theorem step_write (hl : s.isLoggedIn id = true) (hfree : s.rawHolder ≠ some id)
    (hh : s.holding? id = some h)
    (hd : Request.decodeWindow s.info.size.cells payload = .ok request) :
    s.step (.frame id (.packet (.ofKind .write payload))) =
      s.setHolding id (some (h.revise request)) := by
  obtain ⟨c, hc, rfl, hstep⟩ := step_frame_of_isLoggedIn hl (.ofKind .write payload)
  have hholding : c.holding = some h := by rw [← hh, holding?, hc, Option.bind_some]
  have hcarry : s.carryOut c (.ofKind .write payload) = s.write c payload := by
    rw [carryOut, Packet.kind?_ofKind]
    rfl
  rw [hstep, answer, hcarry, write_eq_of_holding hholding hfree hd]
  rfl

/-- The writes of a client make of its window what they make of any window of its size. -/
theorem window?_run_writes (hl : s.isLoggedIn id = true) (hfree : s.rawHolder ≠ some id)
    (hh : s.holding? id = some h) {payloads : List Octets} {requests : List WindowRequest}
    (hd : payloads.map (Request.decodeWindow s.info.size.cells) = requests.map .ok) :
    (s.run (writesFrom id payloads)).window? id =
      some (requests.foldl Window.revise h.window) := by
  induction payloads generalizing s h requests with
  | nil =>
    obtain rfl : requests = [] := List.map_eq_nil_iff.1 hd.symm
    rw [writesFrom, List.map_nil, run_nil, window?, hh]
    rfl
  | cons payload payloads ih =>
    cases requests with
    | nil => cases hd
    | cons request requests =>
      obtain ⟨hfirst, hrest⟩ := List.cons.inj hd
      have hstep := step_write hl hfree hh hfirst
      obtain ⟨c, hc, -⟩ := holding?_eq_some_iff.1 hh
      obtain rfl := id_of_client? hc
      have hholds : (s.setHolding c.id (some (h.revise request))).holding? c.id =
          some (h.revise request) := by
        rw [holding?_setHolding hc, if_pos rfl]
      have hlogin : (s.setHolding c.id (some (h.revise request))).isLoggedIn c.id = true := by
        rw [isLoggedIn_setHolding]
        exact hl
      have hwindow : (h.revise request).window = h.window.revise request := by
        cases request with
        | clear => rfl
        | update u => rfl
      have hrun := ih hlogin hfree hholds hrest
      rw [writesFrom, List.map_cons, run_cons, hstep, List.foldl_cons, ← hwindow]
      exact hrun

/-- Whatever requests for writes a display of so many cells accepts: a blank window becomes for each
cell and each plane what the last of them brought, and this is what the window becomes of a client
that sends them with its tty. -/
theorem windows_show_last_writes {cells : Nat} {requests : List WindowRequest}
    (hall : ∀ r ∈ requests, r.Decoded cells) (table : DotTable) :
    Window.ShowsLastWrites cells table requests ∧
      ∀ (s : Server σ) (id : ClientId) (h : Holding) (payloads : List Octets),
        s.info.size.cells = cells → s.isLoggedIn id = true → s.rawHolder ≠ some id →
        s.holding? id = some h → h.window = .blank cells →
        payloads.map (Request.decodeWindow cells) = requests.map .ok →
          (s.run (writesFrom id payloads)).window? id = some (.drawn cells requests) := by
  refine ⟨Window.showsLastWrites table hall, ?_⟩
  rintro s id h payloads rfl hl hfree hh hblank hd
  rw [window?_run_writes hl hfree hh hd, hblank]
  rfl

/-- Two characters with the cursor on the second, a mask for it, another character in its place, and
a clear. -/
def overdrawn : List Octets :=
  [Octets.ofWord 0x24 ++ Octets.ofWord 2 ++ [97, 98] ++ Octets.ofWord 2,
    Octets.ofWord 0x0A ++ Octets.ofWord 2 ++ Octets.ofWord 1 ++ [0x0F],
    Octets.ofWord 0x06 ++ Octets.ofWord 2 ++ Octets.ofWord 1 ++ Octets.ofWord 1 ++ [99],
    [0, 0, 0, 0]]

/-- What these ask for on a display of two cells. -/
def overdrawnRequests : List WindowRequest :=
  [.update ⟨1, 2, some ['a', 'b'], none, none, some 2⟩,
    .update ⟨2, 1, none, some [0x0F], none, none⟩,
    .update ⟨2, 1, some ['c'], none, none, none⟩, .clear]

/-- Two cells that are written several times, by requests and by a client that makes them. -/
theorem windows_show_last_writes_overdrawn :
    (∀ r ∈ overdrawnRequests, r.Decoded 2) ∧
    Window.ShowsLastWrites 2 .plain overdrawnRequests ∧
    Window.drawn 2 overdrawnRequests = ⟨['a', 'c'], [0xFF, 0x0F], [0, 0], 2⟩ ∧
    (Window.drawn 2 overdrawnRequests).render .plain = [97, 0xC3] ∧
    (rehearsed.run (writesFrom ⟨1⟩ overdrawn)).window? ⟨1⟩ =
      some (Window.drawn 2 overdrawnRequests) := by
  have hdecode : overdrawn.map (Request.decodeWindow 2) = overdrawnRequests.map .ok := by decide
  have hall : ∀ r ∈ overdrawnRequests, r.Decoded 2 := by
    intro r hr
    have hr : Except.ok r ∈ overdrawn.map (Request.decodeWindow 2) := by
      rw [hdecode]
      exact List.mem_map_of_mem hr
    obtain ⟨payload, -, hpayload⟩ := List.mem_map.1 hr
    exact ⟨payload, hpayload⟩
  obtain ⟨hshows, hdraws⟩ := @windows_show_last_writes BareDriver _ _ _ hall .plain
  have hholds : (rehearsed.holding? ⟨1⟩).isSome = true := by decide
  obtain ⟨h, hh⟩ := Option.isSome_iff_exists.1 hholds
  have hblank : h.window = .blank 2 := by
    have hwindow : rehearsed.window? ⟨1⟩ = some (.blank 2) := by decide
    rw [window?, hh] at hwindow
    exact Option.some.inj hwindow
  exact ⟨hall, hshows, by decide, by decide,
    hdraws rehearsed ⟨1⟩ h overdrawn (by decide) (by decide) (by decide) hh hblank hdecode⟩

end Server

end BrailleShare
