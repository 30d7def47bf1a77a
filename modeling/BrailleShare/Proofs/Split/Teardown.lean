import BrailleShare.Proofs.Server.Teardown
import BrailleShare.Proofs.Split.Steps

/-!
# Tearing down handles

At the end of a connection its entry goes and its handle is closed. The handle is still there for
those who know it, but what they send is dropped, then and later; what was queued before stays
queued.

Main statements: what some ends leave of the list and of the handles does not depend on their order
(`records_foldl_disconnect`, `handle_foldl_disconnect`); a connection that has ended is sent nothing
any more (`ended_of_absent`); connections end in any order, and after the server has been closed
nothing is left of them and every handle is closed (`teardown_is_orderly`).
-/

namespace BrailleShare.SplitServer

variable {σ : Type} {d e : SplitServer σ} {r : Registration} {id : ClientId}

/-- A state with an empty log. -/
def unlogged (d : SplitServer σ) : SplitServer σ :=
  { d with common := d.common.unlogged }

/-- Two states are the same but for the log, if the servers are that they amount to and the stores
are the same. -/
theorem unlogged_eq (hd : d.Tidy) (he : e.Tidy) (hserver : d.server.unlogged = e.server.unlogged)
    (hrecords : d.records = e.records) (hhandle : d.handle = e.handle) :
    d.unlogged = e.unlogged := by
  have hcommon : ∀ {d : SplitServer σ}, d.Tidy →
      d.common.unlogged = { d.server.unlogged with clients := [] } := fun ht => by
    rw [← ht.alone]
    rfl
  simp only [unlogged, hcommon hd, hcommon he, hserver, hrecords, hhandle]

/-- The list has an entry for each client of the server, in the same order. -/
theorem Matches.ids (h : Matches d d.server) :
    d.server.clients.map (·.id) = d.records.map (·.id) := by
  rw [h.clients, List.map_map]
  rfl

/-! ### The end of a connection -/

section driver

variable [Driver σ]

/-- A connection that is not there does not end. -/
theorem disconnect_of_record?_none (h : d.record? id = none) : d.disconnect id = d := by
  rw [disconnect, h]

/-- The end of a connection takes its entry away. -/
theorem records_disconnect (d : SplitServer σ) (id : ClientId) :
    (d.disconnect id).records = d.records.filter fun r => r.id != id := by
  unfold disconnect
  cases hr : d.record? id with
  | none =>
    refine (List.filter_eq_self.2 fun r hr' => ?_).symm
    simpa using List.find?_eq_none.1 hr r hr'
  | some r =>
    obtain rfl := id_of_record? hr
    have hrecords :
        ((d.strikeOff r).unseat r).records = d.records.filter fun q => q.id != r.id := by
      rw [strikeOff_eq]
      unfold unseat
      cases r.tty <;> rfl
    dsimp only
    split
    · exact hrecords
    · exact hrecords

/-- The end of a connection closes its handle, and leaves it as it is otherwise. -/
theorem handle_disconnect (ht : d.Tidy) (id : ClientId) :
    (d.disconnect id).handle =
      Function.update d.handle id { d.handle id with isOpen := false } := by
  unfold disconnect
  cases hr : d.record? id with
  | none =>
    have hclosed : { d.handle id with isOpen := false } = d.handle id := by
      rw [← ht.closed id hr]
    rw [hclosed, Function.update_eq_self]
  | some r =>
    obtain rfl := id_of_record? hr
    have hhandle : ((d.strikeOff r).unseat r).handle = d.handle := by
      rw [strikeOff_eq]
      unfold unseat
      cases r.tty <;> rfl
    have hclose : (((d.strikeOff r).unseat r).close r.id).handle =
        Function.update d.handle r.id { d.handle r.id with isOpen := false } := by
      rw [close, modifyHandle, hhandle]
    dsimp only
    split
    · exact hclose
    · exact hclose

/-- After some ends the entries of these connections are gone, and the others are as they were. -/
theorem records_foldl_disconnect (d : SplitServer σ) (order : List ClientId) :
    (order.foldl disconnect d).records = d.records.filter fun r => r.id ∉ order := by
  induction order generalizing d with
  | nil => simp
  | cons x order ih =>
    rw [List.foldl_cons, ih, records_disconnect, List.filter_filter]
    congr 1
    funext r
    by_cases hr : r.id = x <;> simp [hr]

/-- What is behind the handles after some ends: those of the connections that have ended are
closed, and otherwise they are as they were. -/
theorem handle_foldl_disconnect (h : Matches d d.server) (order : List ClientId) (x : ClientId) :
    (order.foldl disconnect d).handle x =
      if x ∈ order then { d.handle x with isOpen := false } else d.handle x := by
  induction order generalizing d with
  | nil => rfl
  | cons y order ih =>
    have hy := h.disconnect y
    rw [List.foldl_cons, ih ⟨hy.tidy, rfl⟩, handle_disconnect h.tidy]
    by_cases hx : x = y
    · subst x
      simp
    · simp [hx]

/-- Two connections may end in either order. -/
theorem unlogged_disconnect_comm (h : Matches d d.server) (hs : d.server.Consistent)
    (x y : ClientId) :
    ((d.disconnect x).disconnect y).unlogged = ((d.disconnect y).disconnect x).unlogged := by
  have hxy := (h.disconnect x).disconnect y
  have hyx := (h.disconnect y).disconnect x
  refine unlogged_eq hxy.tidy hyx.tidy ?_ ?_ ?_
  · rw [hxy.server, hyx.server]
    exact Server.unlogged_disconnect_comm hs x y
  · refine (records_foldl_disconnect d [x, y]).trans (Eq.trans ?_
      (records_foldl_disconnect d [y, x]).symm)
    simp only [(List.Perm.swap y x []).mem_iff]
  · funext z
    refine (handle_foldl_disconnect h [x, y] z).trans (Eq.trans ?_
      (handle_foldl_disconnect h [y, x] z).symm)
    simp only [(List.Perm.swap y x []).mem_iff]

/-! ### Closed handles -/

/-- A connection is over: its handle is closed and stays so, what is sent is dropped, and what was
queued before stays queued. -/
structure Ended (d e : SplitServer σ) (id : ClientId) : Prop where
  closed : ∀ events, ((e.run events).handle id).isOpen = false
  dropped : ∀ events p, (e.run events).send id p = e.run events
  queued : ∀ events, (e.run events).common.outbox id = d.common.outbox id

/-- A connection that has gone for good is over. -/
theorem ended_of_absent (h : Matches e e.server) (hs : e.server.Consistent)
    (hgone : ∀ events : List (Event σ), (e.server.run events).client? id = none)
    (hqueued : e.common.outbox id = d.common.outbox id) : Ended d e id := by
  have hclosed : ∀ events, ((e.run events).handle id).isOpen = false := by
    intro events
    have hrun := h.run events
    have hnone := (hrun.client? id).symm.trans (hgone events)
    exact hrun.tidy.closed id (Option.map_eq_none_iff.1 hnone)
  refine ⟨hclosed, fun events p => send_of_closed (hclosed events) p, fun events => ?_⟩
  have hout : (e.run events).server.outbox id = e.server.outbox id := by
    rw [(h.run events).server]
    exact Server.outbox_run_of_absent hs hgone events
  exact hout.trans hqueued

/-- A connection that is in the list is over once it has ended. -/
theorem ended_disconnect (h : Matches d d.server) (hs : d.server.Consistent)
    (hr : r ∈ d.records) : Ended d (d.disconnect r.id) r.id := by
  have hend := h.disconnect r.id
  have hgone : (d.disconnect r.id).server.client? r.id = none := by
    rw [hend.server, Server.client?_disconnect, if_pos rfl]
  -- the id is below the counter, so nobody is let in under it again
  have hid : r.id.val < (d.disconnect r.id).server.nextId := by
    rw [hend.server]
    exact Nat.lt_of_lt_of_le (h.tidy.below r hr) (Server.nextId_le_run d.server [.departure r.id])
  have hpackets : (d.disconnect r.id).common.packets = d.common.packets :=
    (congrArg Server.packets hend.server).trans (Server.packets_disconnect d.server r.id)
  refine ended_of_absent ⟨hend.tidy, rfl⟩ ?_ (Server.client?_run_of_none hid hgone) ?_
  · rw [hend.server]
    exact hs.step (.departure r.id)
  · rw [Server.outbox, hpackets, Server.outbox]

/-! ### A closed server -/

/-- Closes the server and ends connections in a given order. -/
def shutdownIn (d : SplitServer σ) (order : List ClientId) : SplitServer σ :=
  order.foldl disconnect d.closeDoor

/-- The server itself ends them in the order in which they came. -/
theorem shutdown_eq (d : SplitServer σ) : d.shutdown = d.shutdownIn (d.records.map (·.id)) := by
  rw [shutdown, shutdownIn, List.foldl_map]

/-- A server closes in a given order on both sides. -/
theorem Matches.shutdownIn {s : Server σ} (h : Matches d s) (order : List ClientId) :
    Matches (d.shutdownIn order) (s.shutdownIn order) := by
  have hends := h.closeDoor.foldl (f := SplitServer.disconnect) (g := Server.disconnect)
    (m := fun x => x) (fun h x => h.disconnect x) order
  rwa [List.map_id'] at hends

/-! ### Main result -/

/-- What is left of a state after the server has been closed. -/
structure TornDown (d e : SplitServer σ) : Prop where
  records : e.records = []
  waiting : e.common.waiting = 0
  /-- Of the ttys the permanent two are left. -/
  ttys : e.common.tree.ttys.map (·.id) = [TtyTree.root, TtyTree.lobby]
  /-- Nobody sits in them. -/
  seats : e.common.tree.allClients = []
  rawHolder : e.common.rawHolder = none
  lastShown : e.common.lastShown = none
  /-- Every handle is closed, and nothing is queued from then on. -/
  ended : ∀ id, Ended d e id
  /-- What was queued stays queued, in the order in which it was. -/
  packets : e.common.packets = d.common.packets
  /-- The device is reset once if a client had it to itself, and otherwise it is left alone. -/
  calls : e.common.calls = d.common.calls ++ if d.common.rawHolder.isSome then [.reset] else []
  driver : e.common.driver =
    if d.common.rawHolder.isSome then (Driver.reset d.common.driver).driver else d.common.driver
  /-- Whatever happens then, nobody is let in. -/
  shut : ∀ events peer now, (e.run events).accept peer now = (.error .shuttingDown, e.run events)
  /-- Whatever happens then, nobody is there. -/
  nobody : ∀ events, (e.run events).records = []

/-- Connections end in any order, once each, and when all have ended nothing is left of them. -/
structure OrderlyTeardown (d : SplitServer σ) : Prop where
  /-- Two connections may end in either order. -/
  either : ∀ x y,
    ((d.disconnect x).disconnect y).unlogged = ((d.disconnect y).disconnect x).unlogged
  /-- A connection ends once. -/
  once : ∀ x, (d.disconnect x).disconnect x = d.disconnect x
  /-- A connection that is not there does not end. -/
  unknown : ∀ x, d.record? x = none → d.disconnect x = d
  /-- A connection that has ended is over for good. -/
  ended : ∀ r ∈ d.records, Ended d (d.disconnect r.id) r.id
  /-- What is behind the other handles is as it was. -/
  others : ∀ x y, y ≠ x → (d.disconnect x).handle y = d.handle y
  /-- The server ends its connections in one of the orders that there are. -/
  order : d.shutdown = d.shutdownIn (d.records.map (·.id))
  /-- Any other order leads to the same state. -/
  anyOrder : ∀ order, order.Perm (d.records.map (·.id)) →
    (d.shutdownIn order).unlogged = d.shutdown.unlogged
  tornDown : ∀ order, order.Perm (d.records.map (·.id)) → TornDown d (d.shutdownIn order)

/-- Any order of the ends leads to the same state. -/
theorem unlogged_shutdownIn (h : Matches d d.server) (hs : d.server.Consistent)
    {order : List ClientId} (horder : order.Perm (d.records.map (·.id))) :
    (d.shutdownIn order).unlogged = d.shutdown.unlogged := by
  have hdoor : Matches d.closeDoor d.closeDoor.server := ⟨h.closeDoor.tidy, rfl⟩
  refine unlogged_eq (h.shutdownIn order).tidy h.shutdown.tidy ?_ ?_ ?_
  · rw [(h.shutdownIn order).server, h.shutdown.server]
    exact Server.unlogged_shutdownIn hs (h.ids ▸ horder)
  · rw [shutdown_eq, shutdownIn, shutdownIn, records_foldl_disconnect, records_foldl_disconnect]
    simp only [horder.mem_iff]
  · rw [shutdown_eq, shutdownIn, shutdownIn]
    funext x
    rw [handle_foldl_disconnect hdoor, handle_foldl_disconnect hdoor]
    simp only [horder.mem_iff]

/-- After a server has closed, in whatever order, nothing is left of its connections. -/
theorem shutdownIn_tornDown (h : Matches d d.server) (hs : d.server.Consistent)
    (hr : d.server.roster.Sound) {order : List ClientId}
    (horder : order.Perm (d.records.map (·.id))) : TornDown d (d.shutdownIn order) := by
  have hend := h.shutdownIn order
  have hdown := Server.shutdownIn_tornDown hs hr (h.ids ▸ horder)
  rw [← hend.server] at hdown
  have hcons : (d.shutdownIn order).server.Consistent := by
    rw [hend.server]
    exact hs.closeDoor.foldl_disconnect order
  have hmatch : Matches (d.shutdownIn order) (d.shutdownIn order).server := ⟨hend.tidy, rfl⟩
  have hnobody : ∀ events, ((d.shutdownIn order).run events).records = [] := by
    intro events
    have hclients := hdown.nobody events
    rw [(hmatch.run events).clients] at hclients
    exact List.map_eq_nil_iff.1 hclients
  refine ⟨hnobody [], hdown.waiting, hdown.ttys, hdown.seats, hdown.rawHolder, hdown.lastShown,
    fun id => ?_, hdown.packets, hdown.calls, hdown.driver, fun events peer now => ?_, hnobody⟩
  · refine ended_of_absent hmatch hcons (fun events => ?_) ?_
    · rw [Server.client?, hdown.nobody]
      rfl
    · rw [Server.outbox, show (d.shutdownIn order).common.packets = d.common.packets from
        hdown.packets, Server.outbox]
  · have hclosed := (hmatch.run events).closed.symm.trans (hdown.closed events)
    rw [accept, if_pos hclosed]

/-- In every reachable state connections may end in any order, and after the server has been closed
nothing is left of them: every handle is closed, what was queued stays, and what is sent then is
dropped. The separate stores amount to the server that keeps them together. -/
theorem teardown_is_orderly (h : d.Reachable) : d.OrderlyTeardown ∧ d.Faithful := by
  have hm := h.matches
  obtain ⟨given, hreach⟩ := h.faithful.reachable
  have hs := hreach.consistent
  have hr : d.server.roster.Sound := by
    obtain ⟨settings, driver, console, table, events, hrun, -⟩ := hreach
    rw [hrun]
    exact Server.sound_run (Server.sound_start settings driver console table) events
  refine ⟨⟨unlogged_disconnect_comm hm hs, ?_, fun x => disconnect_of_record?_none,
    fun r hr => ended_disconnect hm hs hr, ?_, shutdown_eq d,
    fun order => unlogged_shutdownIn hm hs, fun order => shutdownIn_tornDown hm hs hr⟩, h.faithful⟩
  · intro x
    have hnone : (d.server.disconnect x).client? x = none := by
      rw [Server.client?_disconnect, if_pos rfl]
    rw [(hm.disconnect x).client?] at hnone
    exact disconnect_of_record?_none (Option.map_eq_none_iff.1 hnone)
  · intro x y hy
    rw [handle_disconnect hm.tidy, Function.update_of_ne hy]

/-- Two clients in nested ttys may leave in either order, and the server may close on them in the
order in which they did not come. -/
theorem teardown_is_orderly_rehearsed : rehearsed.Reachable ∧
    (rehearsed.disconnect ⟨1⟩).common.tree.size = 2 ∧
    (rehearsed.disconnect ⟨2⟩).common.tree.size = 1 ∧
    ((rehearsed.disconnect ⟨1⟩).disconnect ⟨2⟩).unlogged =
      ((rehearsed.disconnect ⟨2⟩).disconnect ⟨1⟩).unlogged ∧
    TornDown rehearsed (rehearsed.shutdownIn [⟨2⟩, ⟨1⟩]) ∧ rehearsed.Faithful := by
  have horderly := teardown_is_orderly rehearsed_reachable
  refine ⟨rehearsed_reachable, by decide +kernel, by decide +kernel,
    horderly.1.either ⟨1⟩ ⟨2⟩, ?_, horderly.2⟩
  exact horderly.1.tornDown _ (by decide +kernel)

end driver

end BrailleShare.SplitServer
