import BrailleShare.Proofs.Server.KeyEvents
import BrailleShare.Proofs.Server.Waiting
import BrailleShare.Proofs.Tty.Pruning

/-!
# Tearing down

Connections end one by one, and the order in which they do is nobody's choice. It shows in the log,
where each end has its lines, and nowhere else.

Main statements: the end of a connection makes the same of a state whatever its log
(`unlogged_disconnect`), and two of them may change places (`depart_comm`), so that any number of
them may come in any order (`unlogged_foldl_disconnect`); nothing is queued for a connection that is
not there (`outbox_run_of_absent`); and after the server has been closed nothing is left of its
connections, then and later (`shutdownIn_tornDown`).
-/

namespace BrailleShare

/-- Whether an effect is more than a line in the log. -/
def Effect.isOutward : Effect → Bool
  | .notice _ => false
  | _ => true

namespace Server

variable {σ : Type} {s t u : Server σ} {a b c : Client} {id : ClientId}

/-! ### States without their log -/

/-- The effects that are more than lines in the log. -/
def outwardIn (es : List Effect) : List Effect :=
  es.filter Effect.isOutward

/-- A state with an empty log. -/
def unlogged (s : Server σ) : Server σ :=
  { s with effects := outwardIn s.effects }

/-- What is seen outside of two stretches is seen of either. -/
theorem outwardIn_append (es es' : List Effect) :
    outwardIn (es ++ es') = outwardIn es ++ outwardIn es' :=
  List.filter_append ..

/-- Lines of the log are not seen outside. -/
theorem outwardIn_notices {α : Type} (line : α → Notice) (as : List α) :
    outwardIn (as.map fun a => .notice (line a)) = [] := by
  simp [outwardIn, Effect.isOutward]

/-- A line in the log makes no difference without the log. -/
theorem unlogged_note (s : Server σ) (n : Notice) : (s.note n).unlogged = s.unlogged := by
  simp only [unlogged, note, emit, outwardIn_append]
  simp [outwardIn, Effect.isOutward]

/-- The log tells nothing of packets. -/
theorem packets_unlogged (s : Server σ) : s.unlogged.packets = s.packets := by
  simp only [packets, packetsIn, unlogged, outwardIn, List.filterMap_filter]
  congr 1
  funext e
  cases e <;> rfl

/-- Nor does it tell of calls to the driver. -/
theorem calls_unlogged (s : Server σ) : s.unlogged.calls = s.calls := by
  simp only [calls, callsIn, unlogged, outwardIn, List.filterMap_filter]
  congr 1
  funext e
  cases e <;> rfl

/-- The packets are told without the log. -/
theorem packets_of_unlogged (h : t.unlogged = s.unlogged) : t.packets = s.packets := by
  rw [← packets_unlogged, h, packets_unlogged]

/-- The calls are told without the log. -/
theorem calls_of_unlogged (h : t.unlogged = s.unlogged) : t.calls = s.calls := by
  rw [← calls_unlogged, h, calls_unlogged]

/-- Nor does it tell of restarts. -/
theorem restarts_unlogged (s : Server σ) : s.unlogged.restarts = s.restarts :=
  List.count_filter rfl

section driver

variable [Driver σ]

/-! ### The end of a connection -/

/-- What a reset of the device is to be seen by: the call, and a request for a restart if it has
failed. -/
def resetEffects (s : Server σ) : List Effect :=
  .driver .reset :: if (Driver.reset s.driver).outcome.isOk then [] else [.restart]

/-- What the end of a connection makes of a state without a log. -/
def depart (s : Server σ) (c : Client) : Server σ :=
  { s with
    driver := if s.rawHolder = some c.id then (Driver.reset s.driver).driver else s.driver
    tree := s.tree.vacate c.seat c.id
    clients := s.clients.filter fun d => d.id != c.id
    waiting := if c.loggedIn then s.waiting else s.waiting - 1
    refusalNoted := if c.loggedIn ∨ s.settings.maxWaiting ≤ s.waiting - 1 then s.refusalNoted
      else false
    rawHolder := if s.rawHolder = some c.id then none else s.rawHolder
    lastShown := if s.lastShown = some c.id then none else s.lastShown
    effects := s.effects ++ if s.rawHolder = some c.id then s.resetEffects else [] }

omit [Driver σ] in
/-- A call is made without the log as with it. -/
theorem unlogged_called {α : Type} (s : Server σ) (call : DeviceCall) (a : DriverAnswer σ α) :
    (s.called call a).unlogged =
      { s.unlogged with driver := a.driver, effects := s.unlogged.effects ++ [.driver call] } := by
  have hcall : (Effect.driver call).isOutward = true := rfl
  have hnotices := outwardIn_notices (fun n : Notice => n) a.notices
  simp only [unlogged, called, outwardIn_append]
  simp only [outwardIn, List.filter_cons, hcall, if_true] at hnotices ⊢
  rw [hnotices]

omit [Driver σ] in
/-- A restart is asked for without the log as with it. -/
theorem unlogged_restart (s : Server σ) : (s.emit .restart).unlogged =
    { s.unlogged with effects := s.unlogged.effects ++ [.restart] } := by
  simp only [unlogged, emit, outwardIn_append]
  rfl

/-- A reset is made whatever the log. -/
theorem unlogged_resetDevice (s : Server σ) : s.resetDevice.unlogged =
    { s.unlogged with
      driver := (Driver.reset s.driver).driver
      effects := s.unlogged.effects ++ s.resetEffects } := by
  unfold resetDevice resetEffects
  dsimp only
  split
  · rename_i hok
    rw [unlogged_called, hok]
    rfl
  · rename_i herror
    rw [unlogged_restart, unlogged_note, unlogged_note, unlogged_called, herror]
    simp [Except.isOk, Except.toBool]

omit [Driver σ] in
/-- Getting out of the tree is the same for a client with a tty and for one in the lobby. -/
theorem unlogged_unseat (s : Server σ) (c : Client) :
    (s.unseat c).unlogged = { s.unlogged with tree := s.tree.vacate c.seat c.id } := by
  unfold unseat
  split
  · rename_i h hh
    rw [Client.seat_of_holding hh]
    dsimp only
    rw [unlogged_note, clearTty_eq]
    have hnone := outwardIn_notices (fun m : UInt32 × TtyId => .ttyFreed m.1 m.2)
      ((s.tree.detach h.tty c.id).collect h.tty).2
    simp only [unlogged, outwardIn_append, hnone, List.append_nil]
    rfl
  · rename_i hh
    rw [Client.seat_of_none hh, TtyTree.vacate, TtyTree.collect_of_permanent rfl]
    rfl

/-- The end of a connection makes the same of a state whatever its log. -/
theorem unlogged_disconnect (hc : s.client? c.id = some c) :
    (s.disconnect c.id).unlogged = s.unlogged.depart c := by
  have hstart : (((s.strikeOff c).unseat c).note (.disconnected c.id c.peer)).unlogged =
      { s.unlogged.depart c with driver := s.driver, effects := s.unlogged.effects } := by
    rw [unlogged_note, unlogged_unseat, strikeOff_eq]
    rfl
  have hnote := (unlogged_note _ (.rawModeAbandoned c.id)).trans hstart
  have hdriver := congrArg Server.driver hnote
  simp only [disconnect, hc]
  generalize ((s.strikeOff c).unseat c).note (.disconnected c.id c.peer) = u at *
  by_cases hraw : s.rawHolder = some c.id
  · have hreset : (u.note (.rawModeAbandoned c.id)).resetEffects = s.unlogged.resetEffects :=
      congrArg (fun d => Effect.driver .reset ::
        if (Driver.reset d).outcome.isOk then [] else [Effect.restart]) hdriver
    have hdevice : (Driver.reset (u.note (.rawModeAbandoned c.id)).driver).driver =
        (Driver.reset s.driver).driver := congrArg (fun d => (Driver.reset d).driver) hdriver
    have hholder : s.unlogged.rawHolder = some c.id := hraw
    rw [if_pos (isRaw_iff.2 hraw), unlogged_resetDevice, hnote, hreset, hdevice]
    simp only [depart, if_pos hholder]
    rfl
  · have hholder : s.unlogged.rawHolder ≠ some c.id := hraw
    rw [if_neg (mt isRaw_iff.1 hraw), hstart]
    simp only [depart, if_neg hholder, List.append_nil]
    rfl

/-- Two connections may end in either order. -/
theorem depart_comm (h : s.tree.Sound) (hne : a.id ≠ b.id) :
    (s.depart a).depart b = (s.depart b).depart a := by
  have htree := TtyTree.vacate_comm h a.seat b.seat a.id b.id
  simp only [depart, resetEffects, htree, Server.mk.injEq, true_and]
  refine ⟨?_, ?_, ?_, ?_, ?_, ?_, ?_⟩
  · by_cases ha : s.rawHolder = some a.id
    · simp [ha, hne]
    · simp [ha]
  · simp only [List.filter_filter, Bool.and_comm]
  · by_cases ha : a.loggedIn <;> by_cases hb : b.loggedIn <;> simp [ha, hb]
  · by_cases ha : a.loggedIn <;> by_cases hb : b.loggedIn <;> simp [ha, hb]
  · by_cases ha : s.rawHolder = some a.id
    · simp [ha, hne]
    · simp [ha]
  · by_cases ha : s.lastShown = some a.id
    · simp [ha, hne]
    · simp [ha]
  · by_cases ha : s.rawHolder = some a.id
    · simp [ha, hne]
    · simp [ha]

/-! ### Any order -/

/-- The end of a connection leaves states that differ in their log alone so. -/
theorem unlogged_disconnect_congr (h : t.unlogged = s.unlogged) (id : ClientId) :
    (t.disconnect id).unlogged = (s.disconnect id).unlogged := by
  have hclients : t.client? id = s.client? id := client?_congr (congrArg Server.clients h) id
  cases hc : s.client? id with
  | none => rw [disconnect_of_none hc, disconnect_of_none (hclients.trans hc), h]
  | some c =>
    obtain rfl := id_of_client? hc
    rw [unlogged_disconnect hc, unlogged_disconnect (hclients.trans hc), h]

/-- Two connections may end in either order. -/
theorem unlogged_disconnect_comm (hs : s.Consistent) (x y : ClientId) :
    ((s.disconnect x).disconnect y).unlogged = ((s.disconnect y).disconnect x).unlogged := by
  have hx := client?_disconnect s x
  have hy := client?_disconnect s y
  by_cases hxy : x = y
  · rw [hxy]
  · cases hcx : s.client? x with
    | none =>
      have hgone : (s.disconnect y).client? x = none := by rw [hy, if_neg hxy, hcx]
      rw [disconnect_of_none hcx, disconnect_of_none hgone]
    | some c =>
      cases hcy : s.client? y with
      | none =>
        have hgone : (s.disconnect x).client? y = none := by rw [hx, if_neg (Ne.symm hxy), hcy]
        rw [disconnect_of_none hcy, disconnect_of_none hgone]
      | some d =>
        obtain rfl := id_of_client? hcx
        obtain rfl := id_of_client? hcy
        have hd : (s.disconnect c.id).client? d.id = some d := by
          rw [hx, if_neg (Ne.symm hxy), hcy]
        have hc : (s.disconnect d.id).client? c.id = some c := by rw [hy, if_neg hxy, hcx]
        rw [unlogged_disconnect hd, unlogged_disconnect hc, unlogged_disconnect hcx,
          unlogged_disconnect hcy]
        exact depart_comm hs.tree hxy

/-- States that differ in the log only differ in no more after some ends. -/
theorem unlogged_foldl_disconnect_congr (h : t.unlogged = s.unlogged) (ids : List ClientId) :
    (ids.foldl disconnect t).unlogged = (ids.foldl disconnect s).unlogged := by
  induction ids generalizing s t with
  | nil => exact h
  | cons x ids ih => exact ih (unlogged_disconnect_congr h x)

/-- Any number of connections may end in any order. -/
theorem unlogged_foldl_disconnect {ids ids' : List ClientId} (h : ids.Perm ids')
    (hs : s.Consistent) :
    (ids.foldl disconnect s).unlogged = (ids'.foldl disconnect s).unlogged := by
  induction h generalizing s with
  | nil => rfl
  | cons x _ ih => exact ih (hs.step (.departure x))
  | swap x y ids => exact unlogged_foldl_disconnect_congr (unlogged_disconnect_comm hs y x) ids
  | trans _ _ ih ih' => exact (ih hs).trans (ih' hs)

/-- Some ends keep a state consistent. -/
theorem Consistent.foldl_disconnect (hs : s.Consistent) (ids : List ClientId) :
    (ids.foldl disconnect s).Consistent := by
  have hrun := hs.run (ids.map .departure)
  rwa [Server.run, List.foldl_map] at hrun

/-! ### Outboxes -/

omit [Driver σ] in
/-- Who holds a tty is known. -/
theorem client?_isSome_of_holding? {held : Holding} (h : s.holding? id = some held) :
    (s.client? id).isSome = true := by
  obtain ⟨c, hc, -⟩ := holding?_eq_some_iff.1 h
  rw [hc]
  rfl

/-- A cycle sends something to the client that has the device, or to the one that takes a key. -/
theorem known_of_mem_cycle (hs : s.Consistent) {q : ClientId × Packet}
    (hq : q ∈ packetsIn (s.added .cycle)) : (s.client? q.1).isSome = true := by
  cases hr : s.rawHolder with
  | some owner =>
    obtain ⟨c, hc, rfl⟩ := client?_of_rawHolder hs hr
    rw [packetsIn_added (e := .cycle) hs (cycle_forwards hc hr).2] at hq
    have hid : q.1 = c.id := by
      unfold forwarded at hq
      split at hq
      · cases hq
      · rw [List.mem_singleton.1 hq]
      · rw [List.mem_singleton.1 hq]
    rw [hid, hc]
    rfl
  | none =>
    have htakes := takesOne hs hr
    cases hk : s.handedOut with
    | none =>
      rw [(htakes.nothing hk).2] at hq
      cases hq
    | some k =>
      obtain ⟨f, hgoes, -, hsent⟩ := htakes.event k hk
      rw [hsent] at hq
      cases hgoes with
      | host => cases hq
      | nowhere => cases hq
      | keycode _ hh =>
        rw [List.mem_singleton.1 hq]
        exact client?_isSome_of_holding? hh
      | command _ hh =>
        rw [List.mem_singleton.1 hq]
        exact client?_isSome_of_holding? hh

/-- Whoever is sent something in an event is known before it. -/
theorem known_of_mem_added (hs : s.Consistent) {e : Event σ} {q : ClientId × Packet}
    (hq : q ∈ packetsIn (s.added e)) : (s.client? q.1).isSome = true := by
  -- most events queue nothing
  have hsilent : (s.step e).packets = s.packets → (s.client? q.1).isSome = true := fun h => by
    rw [packetsIn_added hs (h.trans (List.append_nil _).symm)] at hq
    cases hq
  cases e with
  | arrival peer now => exact hsilent (packets_accept s peer now)
  | frame id f =>
    cases hc : s.client? id with
    | none =>
      refine hsilent (congrArg packets ?_)
      cases f <;> simp [step, onFrame, onPacket, onOversized, hc]
    | some c =>
      obtain ⟨replies, hreplies, -⟩ := (step_confined hs.tree (.frame f)).packets
      rw [packetsIn_added hs hreplies] at hq
      obtain ⟨p, -, rfl⟩ := List.mem_map.1 hq
      simp [hc]
  | departure id => exact hsilent (packets_disconnect s id)
  | clock now => exact hsilent (packets_maintain s now)
  | expiry now => exact hsilent (packets_expire s now)
  | closing => exact hsilent (packets_shutdown s)
  | ownerAsked | recipientAsked => exact hsilent (packets_syncConsole s)
  | hostWindow cells => exact hsilent (hostWindow_packets s cells)
  | hostStatus cells => exact hsilent (hostStatus_packets s cells)
  | hostReset => exact hsilent (packets_called ..)
  | replacement driver => exact hsilent (changeDriver_packets s driver)
  | console | device => exact hsilent rfl
  | cycle => exact known_of_mem_cycle hs hq

/-- Nothing is queued for a connection that is not there. -/
theorem outbox_step_of_none (hs : s.Consistent) (hc : s.client? id = none) (e : Event σ) :
    (s.step e).outbox id = s.outbox id := by
  have hnone : (packetsIn (s.added e)).filter (fun q => decide (q.1 = id)) = [] := by
    refine List.filter_eq_nil_iff.2 fun q hq hid => ?_
    have hknown := known_of_mem_added hs hq
    simp [of_decide_eq_true hid, hc] at hknown
  rw [outbox, packets_step hs, List.filter_append, hnone, List.append_nil, outbox]

/-- As long as a connection is not there, nothing is queued for it. -/
theorem outbox_run_of_absent (hs : s.Consistent)
    (hc : ∀ events : List (Event σ), (s.run events).client? id = none)
    (events : List (Event σ)) : (s.run events).outbox id = s.outbox id := by
  induction events generalizing s with
  | nil => rfl
  | cons e events ih =>
    rw [run_cons, ih (hs.step e) fun later => hc (e :: later), outbox_step_of_none hs (hc [])]

/-! ### A closed server -/

omit [Driver σ] in
/-- Lets nobody in from now on; the connections there are have yet to end. -/
def closeDoor (s : Server σ) : Server σ :=
  ({ s with closed := true } : Server σ).note (.closingAll s.clients.length)

/-- Closes the server and ends connections in a given order. -/
def shutdownIn (s : Server σ) (order : List ClientId) : Server σ :=
  order.foldl disconnect s.closeDoor

/-- The server itself ends them in the order in which they came. -/
theorem shutdown_eq (s : Server σ) : s.shutdown = s.shutdownIn (s.clients.map (·.id)) := by
  rw [shutdown, shutdownIn, List.foldl_map]
  rfl

omit [Driver σ] in
/-- Closing the door keeps a state consistent. -/
theorem Consistent.closeDoor (hs : s.Consistent) : s.closeDoor.Consistent :=
  hs.of_changes (.one (.quiet s.driver s.console s.refusalNoted true [.notice _]
    (by simp [Effect.window?])))

/-- The order in which a server ends its connections does not matter. -/
theorem unlogged_shutdownIn (hs : s.Consistent) {order : List ClientId}
    (h : order.Perm (s.clients.map (·.id))) :
    (s.shutdownIn order).unlogged = s.shutdown.unlogged := by
  rw [shutdown_eq]
  exact unlogged_foldl_disconnect h hs.closeDoor

omit [Driver σ] in
/-- A server that has been closed lets nobody in. -/
theorem accept_of_closed (h : s.closed = true) (peer : String) (now : Nat) :
    s.accept peer now = (.error .shuttingDown, s) := by
  rw [accept, if_pos h]

/-- Nobody comes to a closed server. -/
theorem clients_run_of_closed (hclosed : s.closed = true) (hnone : s.clients = [])
    (events : List (Event σ)) : (s.run events).clients = [] := by
  induction events generalizing s with
  | nil => exact hnone
  | cons e events ih =>
    refine ih ((closed_run_iff s [e]).2 (.inl hclosed)) ?_
    refine List.eq_nil_iff_forall_not_mem.2 fun c hc => ?_
    have hletIn : s.letIn e = [] := by
      cases e with
      | arrival peer now => rw [letIn, accept_of_closed hclosed]; rfl
      | _ => rfl
    have hmem : c ∈ (s.run [e]).clients := hc
    rcases mem_letIn_of_mem hmem with hold | hnew
    · simp [roster, hnone] at hold
    · simp [along, hletIn] at hnew

omit [Driver σ] in
/-- Where there are no connections, nothing is in their name. -/
theorem deserted (hs : s.Consistent) (hnone : s.clients = []) :
    s.tree.ttys.map (·.id) = [TtyTree.root, TtyTree.lobby] ∧ s.tree.allClients = [] ∧
      s.rawHolder = none ∧ s.lastShown = none := by
  have habsent : ∀ x, s.Absent x := fun x => hs.absent (by rw [client?, hnone]; rfl)
  refine ⟨?_, ?_, ?_, ?_⟩
  · apply TtyTree.ids_of_deserted hs.tree
    intro tty
    exact List.eq_nil_iff_forall_not_mem.2 fun x => (habsent x).seat tty
  · refine List.eq_nil_iff_forall_not_mem.2 fun x hx => ?_
    obtain ⟨tty, htty⟩ := (hs.seats.mem_allClients_iff hs.tree.ordered).1 hx
    exact (habsent x).seat tty (hs.seats.mem_iff.2 htty)
  · exact Option.eq_none_iff_forall_ne_some.2 fun x => (habsent x).device
  · exact Option.eq_none_iff_forall_ne_some.2 fun x => (habsent x).display

/-- A server that closes resets the device if a client has it to itself. -/
theorem calls_shutdown (hs : s.Consistent) :
    s.shutdown.calls = s.calls ++ if s.rawHolder.isSome then [.reset] else [] := by
  cases hr : s.rawHolder with
  | none => simpa using (shutdown_offstage hr).calls
  | some id =>
    obtain ⟨c, hc, rfl⟩ := client?_of_rawHolder hs hr
    exact (shutdown_dealing hc hr).calls

/-- Nothing else becomes of the driver. -/
theorem driver_shutdown (hs : s.Consistent) : s.shutdown.driver =
    if s.rawHolder.isSome then (Driver.reset s.driver).driver else s.driver := by
  cases hr : s.rawHolder with
  | none => exact (shutdown_offstage hr).driver
  | some id =>
    obtain ⟨c, hc, rfl⟩ := client?_of_rawHolder hs hr
    exact (shutdown_dealing hc hr).driver

/-! ### Main result -/

/-- What is left of a state after the server has been closed. -/
structure TornDown (s u : Server σ) : Prop where
  clients : u.clients = []
  waiting : u.waiting = 0
  /-- Of the ttys the permanent two are left. -/
  ttys : u.tree.ttys.map (·.id) = [TtyTree.root, TtyTree.lobby]
  /-- Nobody sits in them. -/
  seats : u.tree.allClients = []
  rawHolder : u.rawHolder = none
  lastShown : u.lastShown = none
  /-- What was queued stays queued, and nothing is added. -/
  packets : u.packets = s.packets
  /-- The device is reset once if a client had it to itself, and otherwise it is left alone. -/
  calls : u.calls = s.calls ++ if s.rawHolder.isSome then [.reset] else []
  driver : u.driver = if s.rawHolder.isSome then (Driver.reset s.driver).driver else s.driver
  /-- Whatever happens then, nobody is let in. -/
  closed : ∀ events, (u.run events).closed = true
  /-- Whatever happens then, nobody is there. -/
  nobody : ∀ events, (u.run events).clients = []

/-- After all have ended, in whatever order, nothing is left of them. -/
theorem shutdownIn_tornDown (hs : s.Consistent) (hr : s.roster.Sound) {order : List ClientId}
    (h : order.Perm (s.clients.map (·.id))) : TornDown s (s.shutdownIn order) := by
  have hsame := unlogged_shutdownIn hs h
  have hcons : (s.shutdownIn order).Consistent := hs.closeDoor.foldl_disconnect order
  have hclosed : s.shutdown.closed = true := (closed_run_iff s [.closing]).2 (.inr (by simp))
  have hend : s.shutdown.Consistent := hs.step .closing
  have hnobody : s.shutdown.clients = [] := by
    refine List.eq_nil_iff_forall_not_mem.2 fun c hc => ?_
    simpa [client?_shutdown] using hend.client?_of_mem hc
  have hsound : s.shutdown.roster.Sound := sound_step hr .closing
  have hwaiting : s.shutdown.waiting = 0 := by
    rw [waiting_eq_countP hsound, hnobody]
    rfl
  have hpackets := (packets_of_unlogged hsame).trans (packets_shutdown s)
  -- but for the log, the state is the one that the server itself comes to
  have hclosed : (s.shutdownIn order).closed = true := (congrArg Server.closed hsame).trans hclosed
  have hnobody : (s.shutdownIn order).clients = [] :=
    (congrArg Server.clients hsame).trans hnobody
  have hwaiting : (s.shutdownIn order).waiting = 0 := (congrArg Server.waiting hsame).trans hwaiting
  obtain ⟨httys, hseats, hraw, hshown⟩ := deserted hcons hnobody
  refine ⟨hnobody, hwaiting, httys, hseats, hraw, hshown, hpackets, ?_, ?_, ?_, ?_⟩
  · exact (calls_of_unlogged hsame).trans (calls_shutdown hs)
  · exact (congrArg Server.driver hsame).trans (driver_shutdown hs)
  · exact fun events => (closed_run_iff _ events).2 (.inl hclosed)
  · exact clients_run_of_closed hclosed hnobody

end driver

end Server

end BrailleShare
