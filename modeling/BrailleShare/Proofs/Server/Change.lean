import BrailleShare.Proofs.Tty.Creation
import BrailleShare.Server.History

/-!
# What can happen to a server

Every event is a sequence of *changes*. There are fourteen kinds of them, each says exactly what
becomes of the state, and only one of them grants a tty. What each change keeps, every event keeps;
no later file looks at a request handler again.

Main statement: what survives each change survives a sequence of them (`Changes.invariant`).
-/

namespace BrailleShare

/-- The window that an effect gives to the driver, if it gives one. -/
def Effect.window? : Effect → Option Octets
  | .driver (.writeWindow cells) => some cells
  | _ => none

/-- The tty that a client sits in: the one that it holds, or the lobby. -/
def Client.seat (c : Client) : TtyId :=
  match c.holding with
  | some h => h.tty
  | none => TtyTree.lobby

/-- A client with a tty sits in it. -/
theorem Client.seat_of_holding {c : Client} {h : Holding} (hh : c.holding = some h) :
    c.seat = h.tty := by
  simp [seat, hh]

/-- A client without a tty sits in the lobby. -/
theorem Client.seat_of_none {c : Client} (hh : c.holding = none) : c.seat = TtyTree.lobby := by
  simp [seat, hh]

namespace Server

variable {σ : Type}

/-- One change of a server, and the ttys that it grants. -/
inductive Change (s : Server σ) : List Grant → Server σ → Prop
  /-- Nothing happens to clients and ttys, and the driver is given no window. -/
  | quiet (driver : σ) (console : UInt32) (refusalNoted closed : Bool) (more : List Effect)
      (h : ∀ e ∈ more, e.window? = none) :
      Change s [] { s with driver, console, refusalNoted, closed, effects := s.effects ++ more }
  /-- The focus of a tty is pointed at a child. -/
  | point (tty : TtyId) (number : UInt32) :
      Change s [] { s with tree := s.tree.adjust tty (fun _ => some number) fun cs => cs }
  /-- Ids of ttys are used up, and no tty is made. -/
  | spend (tree : TtyTree ClientId) (hsame : tree.ttys = s.tree.ttys)
      (hlimit : tree.limit = s.tree.limit) : Change s [] { s with tree }
  /-- A connection is let in. -/
  | arrive (peer : String) (now : Nat) :
      Change s [] { s with
        nextId := s.nextId + 1
        tree := s.tree.seat TtyTree.lobby ⟨s.nextId⟩
        clients := s.clients ++ [⟨⟨s.nextId⟩, peer, now, false, none⟩]
        waiting := s.waiting + 1 }
  /-- A client has shown the key. -/
  | logIn {c : Client} (hc : s.client? c.id = some c) (hl : c.loggedIn = false) :
      Change s [] (s.modifyClient c.id fun c => { c with loggedIn := true }).releaseWaiting
  /-- A client moves from the lobby to the tty of a path. -/
  | settle {c : Client} {path : List UInt32} (mode : KeyMode) {tree : TtyTree ClientId}
      {tty : TtyId} (hc : s.client? c.id = some c) (hl : c.loggedIn = true)
      (hh : c.holding = none) (ho : s.tree.Opens path tree tty) :
      Change s [⟨c.id, path⟩]
        (({ s with tree := (tree.detach TtyTree.lobby c.id).seat tty c.id } : Server σ).setHolding
          c.id (some ⟨tty, mode, mode.defaultMask, .blank s.info.size.cells, .empty⟩))
  /-- A client moves back to the lobby. -/
  | leave {c : Client} {h : Holding} (hc : s.client? c.id = some c) (hh : c.holding = some h) :
      Change s [] { s.setHolding c.id none with
        tree := (((s.tree.detach h.tty c.id).seat TtyTree.lobby c.id).collect h.tty).1
        lastShown := if s.lastShown = some c.id then none else s.lastShown }
  /-- A client wants other keys. -/
  | remask {c : Client} {h : Holding} (mask : RangeSet) (hc : s.client? c.id = some c)
      (hh : c.holding = some h) : Change s [] (s.setHolding c.id (some { h with mask }))
  /-- A client's content is to be shown no more. -/
  | blank {c : Client} {h : Holding} (hc : s.client? c.id = some c) (hh : c.holding = some h) :
      Change s [] (s.setHolding c.id (some { h with freshness := .empty }))
  /-- A client's content changes. -/
  | draw {c : Client} {h : Holding} {u : Update} (payload : Octets) (hc : s.client? c.id = some c)
      (hh : c.holding = some h)
      (hu : Request.decodeWindow s.info.size.cells payload = .ok (.update u)) :
      Change s [] (s.setHolding c.id
        (some { h with window := h.window.apply u, freshness := .pending }))
  /-- A client gets the device to itself. -/
  | takeRaw {c : Client} (hc : s.client? c.id = some c) (hl : c.loggedIn = true)
      (hr : s.rawHolder = none) : Change s [] { s with rawHolder := some c.id }
  /-- The client that has the device to itself gives it back. -/
  | returnRaw : Change s [] { s with rawHolder := none }
  /-- A client's window is given to the driver. -/
  | present {c : Client} {h : Holding} (a : DriverAnswer σ Unit) (hc : s.client? c.id = some c)
      (hh : c.holding = some h) :
      Change s [] (called
        { s.setHolding c.id (some { h with freshness := .displayed }) with
          lastShown := some c.id } (.writeWindow (h.window.render s.table)) a)
  /-- A window of the host is given to the driver. -/
  | presentHost (a : DriverAnswer σ Unit) (cells : Octets) :
      Change s [] (called { s with lastShown := none } (.writeWindow cells) a)
  /-- A connection ends. -/
  | depart {c : Client} (hc : s.client? c.id = some c) :
      Change s [] { s with
        tree := ((s.tree.detach c.seat c.id).collect c.seat).1
        clients := s.clients.filter fun d => d.id != c.id
        waiting := if c.loggedIn then s.waiting else s.waiting - 1
        refusalNoted := if c.loggedIn ∨ s.settings.maxWaiting ≤ s.waiting - 1 then s.refusalNoted
          else false
        rawHolder := if s.rawHolder = some c.id then none else s.rawHolder
        lastShown := if s.lastShown = some c.id then none else s.lastShown }

/-- A sequence of changes, and the ttys that it grants. -/
inductive Changes (s : Server σ) : List Grant → Server σ → Prop
  | refl : Changes s [] s
  | tail {g g' : List Grant} {t u : Server σ} (h : Changes s g t) (h' : Change t g' u) :
      Changes s (g ++ g') u

namespace Changes

variable {s t u : Server σ} {g g' : List Grant}

/-- One change is a sequence of changes. -/
theorem one (h : Change s g t) : Changes s g t :=
  tail refl h

/-- Two sequences of changes are one, with the grants of both. -/
theorem trans (h : Changes s g t) (h' : Changes t g' u) : Changes s (g ++ g') u := by
  induction h' with
  | refl => rwa [List.append_nil]
  | tail _ h' ih => exact List.append_assoc .. ▸ ih.tail h'

/-- What survives each change survives a sequence of them. -/
theorem invariant {P : Server σ → List Grant → Prop} {given : List Grant}
    (keeps : ∀ {s t given g}, P s given → Change s g t → P t (given ++ g))
    (h : Changes s g t) (hs : P s given) : P t (given ++ g) := by
  induction h with
  | refl => rwa [List.append_nil]
  | tail _ h' ih => exact List.append_assoc .. ▸ keeps ih h'

/-- Changes that grant nothing may follow any others. -/
theorem andThen (h : Changes s g t) (h' : Changes t [] u) : Changes s g u :=
  List.append_nil g ▸ h.trans h'

/-- Effects that give the driver no window. -/
theorem effects (s : Server σ) (more : List Effect) (h : ∀ e ∈ more, e.window? = none) :
    Changes s [] { s with effects := s.effects ++ more } :=
  one (.quiet s.driver s.console s.refusalNoted s.closed more h)

/-- A line in the log is a change. -/
theorem note (s : Server σ) (n : Notice) : Changes s [] (s.note n) :=
  effects s [.notice n] (by simp [Effect.window?])

/-- A packet that is queued is a change. -/
theorem send (s : Server σ) (id : ClientId) (p : Packet) : Changes s [] (s.send id p) :=
  effects s [.packet id p] (by simp [Effect.window?])

/-- A call to the driver that gives it no window. -/
theorem called {α : Type} (s : Server σ) (call : DeviceCall) (a : DriverAnswer σ α)
    (h : (Effect.driver call).window? = none) : Changes s [] (s.called call a) :=
  one <| .quiet a.driver s.console s.refusalNoted s.closed
    (.driver call :: a.notices.map .notice) <| by
    intro e he
    rcases List.mem_cons.1 he with rfl | he
    · exact h
    · obtain ⟨n, -, rfl⟩ := List.mem_map.1 he
      rfl

/-- Lines for the log. -/
theorem notes {α : Type} (s : Server σ) (line : α → Notice) (as : List α) :
    Changes s [] { s with effects := s.effects ++ as.map fun a => .notice (line a) } :=
  effects s _ fun e he => by
    obtain ⟨a, -, rfl⟩ := List.mem_map.1 he
    rfl

/-- The lines about ttys that were made are changes. -/
theorem made (s : Server σ) (ms : List (UInt32 × TtyId)) : Changes s []
    { s with effects := s.effects ++ ms.map fun m => .notice (.ttyMade m.1 m.2) } :=
  notes s (fun m : UInt32 × TtyId => .ttyMade m.1 m.2) ms

/-- The lines about ttys that have gone are changes. -/
theorem freed (s : Server σ) (ms : List (UInt32 × TtyId)) : Changes s []
    { s with effects := s.effects ++ ms.map fun m => .notice (.ttyFreed m.1 m.2) } :=
  notes s (fun m : UInt32 × TtyId => .ttyFreed m.1 m.2) ms

/-- The driver and the console become others by themselves. -/
theorem outside (s : Server σ) (driver : σ) (console : UInt32) :
    Changes s [] { s with driver, console } := by
  have h := one (.quiet (s := s) driver console s.refusalNoted s.closed [] (by simp))
  rwa [List.append_nil] at h

end Changes

/-! ### Helpers of the handlers -/

/-- Lines that are written one after the other stand in the log one after the other. -/
theorem foldl_note {α : Type} (line : α → Notice) (as : List α) (s : Server σ) :
    as.foldl (fun s a => s.note (line a)) s =
      { s with effects := s.effects ++ as.map fun a => .notice (line a) } := by
  induction as generalizing s with
  | nil => simp
  | cons a as ih => rw [List.foldl_cons, ih]; simp [note, emit]

/-- The lines about ttys that were made stand after what was done before. -/
theorem noteMade_eq (s : Server σ) (made : List (UInt32 × TtyId)) :
    s.noteMade made =
      { s with effects := s.effects ++ made.map fun m => .notice (.ttyMade m.1 m.2) } :=
  foldl_note (fun m : UInt32 × TtyId => .ttyMade m.1 m.2) made s

/-- Clearing a tty takes what is empty from the tree and tells it in the log. -/
theorem clearTty_eq (s : Server σ) (tty : TtyId) :
    (s.clearTty tty).1 = { s with
      tree := (s.tree.collect tty).1
      effects := s.effects ++ (s.tree.collect tty).2.map fun m => .notice (.ttyFreed m.1 m.2) } :=
  foldl_note (fun m : UInt32 × TtyId => .ttyFreed m.1 m.2) _ _

/-- A client is forgotten if it was the one that was written last. -/
theorem forgetShown_eq (s : Server σ) (id : ClientId) : s.forgetShown id =
    { s with lastShown := if s.lastShown = some id then none else s.lastShown } := by
  unfold forgetShown
  split <;> rfl

/-- Striking a connection off takes its entry and what is in its name beside the tree. -/
theorem strikeOff_eq (s : Server σ) (c : Client) : s.strikeOff c = { s with
      clients := s.clients.filter fun d => d.id != c.id
      waiting := if c.loggedIn then s.waiting else s.waiting - 1
      refusalNoted := if c.loggedIn ∨ s.settings.maxWaiting ≤ s.waiting - 1 then s.refusalNoted
        else false
      rawHolder := if s.rawHolder = some c.id then none else s.rawHolder
      lastShown := if s.lastShown = some c.id then none else s.lastShown } := by
  simp only [strikeOff, forgetShown_eq, isRaw, releaseWaiting, beq_iff_eq]
  by_cases hl : c.loggedIn <;> by_cases hr : s.rawHolder = some c.id <;>
    by_cases hw : s.settings.maxWaiting ≤ s.waiting - 1 <;> simp [hl, hr, hw]

/-- A client that is found by an id has this id. -/
theorem id_of_client? {s : Server σ} {id : ClientId} {c : Client} (h : s.client? id = some c) :
    c.id = id := by
  simpa using List.find?_some h

end Server

end BrailleShare
