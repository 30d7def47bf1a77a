import BrailleShare.Proofs.Server.Teardown

/-!
# Waiting too long

A connection that has not logged in in time is ended. Such a connection sits in the lobby, holds no
tty, has not been shown and does not have the device, so that its end is the smallest there is
(`dismiss`): it goes from the lobby and from the records, and one connection fewer waits. Of all
that the others have nothing changes, and the order in which the late ones go shows in the log
alone.

Main statements: what the end of late connections makes of a state but for its log
(`unlogged_expireIn`), that their order does not matter (`unlogged_expireIn_perm`), and that exactly
the late ones go (`expiry_is_exact`).
-/

namespace BrailleShare.Server

variable {σ : Type} {s : Server σ} {c : Client} {id : ClientId} {now : Nat}

/-! ### Who is late -/

/-- A connection has not logged in, and its age, which is zero if the connection was made after now,
is more than the time that it may take. -/
def Late (s : Server σ) (now : Nat) (c : Client) : Prop :=
  c.loggedIn = false ∧ (s.settings.loginTime : Int) < max 0 ((now : Int) - (c.since : Int))

instance (s : Server σ) (now : Nat) (c : Client) : Decidable (s.Late now c) :=
  inferInstanceAs (Decidable (_ ∧ _))

/-- A connection is taken for overdue if it is late. -/
theorem overdue_iff : s.overdue now c = true ↔ s.Late now c := by
  rw [overdue, Late, Bool.and_eq_true, Bool.not_eq_true', decide_eq_true_iff]
  constructor
  · rintro ⟨hl, hage⟩
    exact ⟨hl, by omega⟩
  · rintro ⟨hl, hage⟩
    exact ⟨hl, by omega⟩

/-- The connections that are late, in the order in which they came. -/
def lateIds (s : Server σ) (now : Nat) : List ClientId :=
  (s.clients.filter fun c => decide (s.Late now c)).map (·.id)

/-- The ids of those that are late are theirs and no others. -/
theorem Consistent.mem_lateIds_iff (hs : s.Consistent) (hc : c ∈ s.clients) :
    c.id ∈ s.lateIds now ↔ s.Late now c := by
  rw [lateIds, List.mem_map]
  constructor
  · rintro ⟨d, hd, hid⟩
    obtain ⟨hmem, hlate⟩ := List.mem_filter.1 hd
    have hsame : some d = some c := by
      rw [← hs.client?_of_mem hmem, ← hs.client?_of_mem hc, hid]
    exact Option.some.inj hsame ▸ of_decide_eq_true hlate
  · intro hlate
    exact ⟨c, List.mem_filter.2 ⟨hc, decide_eq_true hlate⟩, rfl⟩

/-- Who is late is known, and has not logged in. -/
theorem Consistent.client?_of_mem_lateIds (hs : s.Consistent) (h : id ∈ s.lateIds now) :
    ∃ c, s.client? id = some c ∧ c.loggedIn = false := by
  obtain ⟨c, hc, rfl⟩ := List.mem_map.1 h
  obtain ⟨hmem, hlate⟩ := List.mem_filter.1 hc
  exact ⟨c, hs.client?_of_mem hmem, (of_decide_eq_true hlate).1⟩

/-- No connection is late twice. -/
theorem Consistent.nodup_lateIds (hs : s.Consistent) (now : Nat) : (s.lateIds now).Nodup := by
  have hids : (s.clients.map (·.id)).Nodup := by
    refine List.pairwise_map.2 (hs.ids.imp fun hlt heq => ?_)
    rw [heq] at hlt
    exact Nat.lt_irrefl _ hlt
  exact hids.sublist (List.filter_sublist.map _)

/-! ### The end of a connection that waits -/

/-- What becomes of a state without a log when a connection that waits to log in ends. -/
def dismiss (s : Server σ) (id : ClientId) : Server σ :=
  { s with
    tree := s.tree.detach TtyTree.lobby id
    clients := s.clients.filter fun d => d.id != id
    waiting := s.waiting - 1
    refusalNoted := if s.settings.maxWaiting ≤ s.waiting - 1 then s.refusalNoted else false }

/-- A connection that waits has nothing that others could miss. -/
theorem Consistent.bare_of_waiting (hs : s.Consistent) (hc : s.client? c.id = some c)
    (hl : c.loggedIn = false) :
    c.holding = none ∧ s.rawHolder ≠ some c.id ∧ s.lastShown ≠ some c.id := by
  have hnone : c.holding = none := by
    cases hh : c.holding with
    | none => rfl
    | some h =>
      have hlogin := (hs.held hc hh).2
      rw [hl] at hlogin
      cases hlogin
  refine ⟨hnone, fun hraw => ?_, fun hshown => ?_⟩
  · have hlogin := hs.raw hraw
    rw [isLoggedIn, hc] at hlogin
    cases hl.symm.trans hlogin
  · have hheld := hs.shown hshown
    rw [holding?, hc, Option.bind_some, hnone] at hheld
    cases hheld

/-- Nothing is left out by an empty list. -/
theorem filter_not_mem_nil {α : Type} (f : α → ClientId) (xs : List α) :
    xs.filter (fun x => decide (f x ∉ ([] : List ClientId))) = xs :=
  List.filter_eq_self.2 fun _ _ => decide_eq_true List.not_mem_nil

/-- Who is not among some is neither the first of them nor among the others. -/
theorem filter_not_mem_cons {α : Type} (f : α → ClientId) (xs : List α) (id : ClientId)
    (order : List ClientId) :
    (xs.filter fun x => f x != id).filter (fun x => decide (f x ∉ order)) =
      xs.filter fun x => decide (f x ∉ id :: order) := by
  rw [List.filter_filter]
  apply List.filter_congr
  intro x _
  by_cases hx : f x = id
  · simp [hx]
  · simp [hx]

/-- What a number of such ends comes to. -/
theorem foldl_dismiss (s : Server σ) (order : List ClientId) : order.foldl dismiss s =
    { s with
      tree := order.foldl (fun tree id => tree.detach TtyTree.lobby id) s.tree
      clients := s.clients.filter fun c => decide (c.id ∉ order)
      waiting := s.waiting - order.length
      refusalNoted := (order.foldl dismiss s).refusalNoted } := by
  induction order generalizing s with
  | nil =>
    rw [filter_not_mem_nil]
    rfl
  | cons id order ih =>
    have hclients : (s.dismiss id).clients.filter (fun c => decide (c.id ∉ order)) =
        s.clients.filter fun c => decide (c.id ∉ id :: order) :=
      filter_not_mem_cons (·.id) s.clients id order
    have hwaiting : (s.dismiss id).waiting - order.length = s.waiting - (id :: order).length := by
      rw [List.length_cons, Nat.add_comm, ← Nat.sub_sub]
      rfl
    rw [List.foldl_cons, ih, hclients, hwaiting]
    rfl

/-- The lobby is left by some, in any order; the tree stays as it is. -/
theorem foldl_detach (tree : TtyTree ClientId) (order : List ClientId) (tty : TtyId) :
    (order.foldl (fun tree id => tree.detach TtyTree.lobby id) tree).link? tty = tree.link? tty ∧
    (order.foldl (fun tree id => tree.detach TtyTree.lobby id) tree).focusOf tty =
      tree.focusOf tty ∧
    (order.foldl (fun tree id => tree.detach TtyTree.lobby id) tree).clientsOf tty =
      if tty = TtyTree.lobby then (tree.clientsOf tty).filter fun id => decide (id ∉ order)
      else tree.clientsOf tty := by
  induction order generalizing tree with
  | nil =>
    refine ⟨rfl, rfl, ?_⟩
    split
    · exact (filter_not_mem_nil (fun id => id) _).symm
    · rfl
  | cons id order ih =>
    obtain ⟨hlink, hfocus, hclients⟩ := ih (tree.detach TtyTree.lobby id)
    rw [List.foldl_cons]
    refine ⟨hlink.trans (TtyTree.link?_detach ..), hfocus.trans (TtyTree.focusOf_detach ..), ?_⟩
    rw [hclients, TtyTree.clientsOf_detach]
    split
    · exact filter_not_mem_cons (fun id => id) _ id order
    · rfl

section driver

variable [Driver σ]

/-- A connection that waits to log in ends without a trace, the log apart. -/
theorem unlogged_disconnect_of_waiting (hs : s.Consistent) (hc : s.client? c.id = some c)
    (hl : c.loggedIn = false) : (s.disconnect c.id).unlogged = s.unlogged.dismiss c.id := by
  obtain ⟨hnone, hraw, hshown⟩ := hs.bare_of_waiting hc hl
  have hraw : s.unlogged.rawHolder ≠ some c.id := hraw
  have hshown : s.unlogged.lastShown ≠ some c.id := hshown
  have htree : s.unlogged.tree.vacate c.seat c.id = s.unlogged.tree.detach TtyTree.lobby c.id := by
    rw [Client.seat_of_none hnone, TtyTree.vacate, TtyTree.collect_of_permanent rfl]
  rw [unlogged_disconnect hc, depart, htree, dismiss, hl]
  simp only [if_neg hraw, if_neg hshown, List.append_nil, Bool.false_eq_true, if_false, false_or]

/-! ### The late ones in any order -/

/-- Ends connections that are late, in a given order. -/
def expireIn (s : Server σ) (order : List ClientId) : Server σ :=
  order.foldl (fun s id => (s.note (.overdue id)).disconnect id) s

/-- The server itself ends them in the order in which they came. -/
theorem expire_eq (s : Server σ) (now : Nat) :
    s.expire now = ((s.lateIds now).length, s.expireIn (s.lateIds now)) := by
  have hlate : s.clients.filter (s.overdue now) =
      s.clients.filter fun c => decide (s.Late now c) := by
    apply List.filter_congr
    intro c _
    rw [Bool.eq_iff_iff, overdue_iff, decide_eq_true_iff]
  rw [expire, hlate, expireIn, lateIds, List.foldl_map, List.length_map]

/-- But for the log, each of them is dismissed. -/
theorem unlogged_expireIn (hs : s.Consistent) {order : List ClientId} (hnodup : order.Nodup)
    (hwait : ∀ id ∈ order, ∃ c, s.client? id = some c ∧ c.loggedIn = false) :
    (s.expireIn order).unlogged = order.foldl dismiss s.unlogged := by
  induction order generalizing s with
  | nil => rfl
  | cons id order ih =>
    obtain ⟨hnew, hlater⟩ := List.nodup_cons.1 hnodup
    obtain ⟨c, hc, hl⟩ := hwait id List.mem_cons_self
    obtain rfl := id_of_client? hc
    have hnoted : (s.note (.overdue c.id)).Consistent := hs.of_changes (.note s _)
    have hfirst :
        ((s.note (.overdue c.id)).disconnect c.id).unlogged = s.unlogged.dismiss c.id := by
      rw [unlogged_disconnect_of_waiting hnoted hc hl, unlogged_note]
    have hrest : ∀ x ∈ order, ∃ d, ((s.note (.overdue c.id)).disconnect c.id).client? x = some d ∧
        d.loggedIn = false := by
      intro x hx
      obtain ⟨d, hd, hl⟩ := hwait x (List.mem_cons_of_mem _ hx)
      refine ⟨d, ?_, hl⟩
      rw [client?_disconnect, if_neg]
      · exact hd
      · rintro rfl
        exact hnew hx
    have hends := ih (hnoted.step (.departure c.id)) hlater hrest
    rw [List.foldl_cons, ← hfirst]
    exact hends

/-- The lines that say who is late are for the log alone. -/
theorem unlogged_expireIn_eq (s : Server σ) (order : List ClientId) :
    (s.expireIn order).unlogged = (order.foldl disconnect s).unlogged := by
  induction order generalizing s with
  | nil => rfl
  | cons id order ih =>
    have hfirst := unlogged_disconnect_congr (unlogged_note s (.overdue id)) id
    have hrest := unlogged_foldl_disconnect_congr hfirst order
    exact (ih _).trans hrest

/-- Late connections may end in any order. -/
theorem unlogged_expireIn_perm (hs : s.Consistent) {order order' : List ClientId}
    (h : order.Perm order') : (s.expireIn order).unlogged = (s.expireIn order').unlogged := by
  rw [unlogged_expireIn_eq, unlogged_expireIn_eq]
  exact unlogged_foldl_disconnect h hs

/-! ### Main result -/

/-- What is left of a state after the late connections have ended: all that is not theirs. -/
structure WithoutLate (s : Server σ) (now : Nat) (t : Server σ) : Prop where
  /-- The late ones have gone, and no others. The records of these are what they were. -/
  clients : t.clients = s.clients.filter fun c => decide (¬ s.Late now c)
  others : ∀ id, id ∉ s.lateIds now → t.client? id = s.client? id
  waiting : t.waiting + s.clients.countP (fun c => decide (s.Late now c)) = s.waiting
  outbox : ∀ id, t.outbox id = s.outbox id
  /-- There are the ttys that there were, each in its place and with its focus. -/
  links : ∀ tty, t.tree.link? tty = s.tree.link? tty
  foci : ∀ tty, t.tree.focusOf tty = s.tree.focusOf tty
  seats : ∀ tty, tty ≠ TtyTree.lobby → t.tree.clientsOf tty = s.tree.clientsOf tty
  lobby : t.tree.clientsOf TtyTree.lobby =
    (s.tree.clientsOf TtyTree.lobby).filter fun id => decide (id ∉ s.lateIds now)
  rawHolder : t.rawHolder = s.rawHolder
  lastShown : t.lastShown = s.lastShown
  driver : t.driver = s.driver
  calls : t.calls = s.calls
  restarts : t.restarts = s.restarts

/-- After the late connections have ended, in whatever order, all that is not theirs is left. -/
theorem expireIn_withoutLate (hs : s.Consistent) (hr : s.roster.Sound) {order : List ClientId}
    (h : order.Perm (s.lateIds now)) : s.WithoutLate now (s.expireIn order) := by
  have hwait : ∀ id ∈ order, ∃ c, s.client? id = some c ∧ c.loggedIn = false :=
    fun id hid => hs.client?_of_mem_lateIds (h.mem_iff.1 hid)
  -- each of them leaves the lobby and nothing else, so all of them are one fold over the state
  have hends := unlogged_expireIn hs (h.nodup_iff.2 (hs.nodup_lateIds now)) hwait
  rw [foldl_dismiss] at hends
  have htree : (s.expireIn order).tree = order.foldl (fun tree id =>
      tree.detach TtyTree.lobby id) s.tree := congrArg Server.tree hends
  have hclients : (s.expireIn order).clients = s.clients.filter fun c => decide (c.id ∉ order) :=
    congrArg Server.clients hends
  have hwaiting : (s.expireIn order).waiting = s.waiting - order.length :=
    congrArg Server.waiting hends
  have heffects : (s.expireIn order).unlogged.effects = s.unlogged.effects := by rw [hends]
  have hmember : ∀ c ∈ s.clients, c.id ∈ order ↔ s.Late now c :=
    fun c hc => h.mem_iff.trans (hs.mem_lateIds_iff hc)
  have hpackets : (s.expireIn order).packets = s.packets := by
    rw [← packets_unlogged, packets, heffects, ← packets, packets_unlogged]
  constructor
  case clients =>
    rw [hclients]
    apply List.filter_congr
    intro c hc
    rw [decide_eq_decide, hmember c hc]
  case others =>
    intro id hid
    have hstays : id ∉ order := mt h.mem_iff.1 hid
    rw [client?, hclients, client?, List.find?_filter]
    congr 1
    funext c
    by_cases hc : c.id = id
    · simp [hc, hstays]
    · simp [hc]
  case waiting =>
    have hlength : order.length = s.clients.countP fun c => decide (s.Late now c) := by
      rw [h.length_eq, lateIds, List.length_map, List.countP_eq_length_filter]
    have hle : s.clients.countP (fun c => decide (s.Late now c)) ≤ s.waiting := by
      rw [waiting_eq_countP hr]
      apply List.countP_mono_left
      intro c _ hlate
      rw [(of_decide_eq_true hlate).1]
      rfl
    rw [hwaiting, hlength]
    exact Nat.sub_add_cancel hle
  case outbox =>
    intro id
    rw [outbox, hpackets, outbox]
  case links =>
    intro tty
    rw [htree]
    exact (foldl_detach s.tree order tty).1
  case foci =>
    intro tty
    rw [htree]
    exact (foldl_detach s.tree order tty).2.1
  case seats =>
    intro tty hne
    rw [htree, (foldl_detach s.tree order tty).2.2, if_neg hne]
  case lobby =>
    rw [htree, (foldl_detach s.tree order TtyTree.lobby).2.2, if_pos rfl]
    apply List.filter_congr
    intro id _
    rw [decide_eq_decide, h.mem_iff]
  case rawHolder => exact (congrArg Server.rawHolder hends).trans rfl
  case lastShown => exact (congrArg Server.lastShown hends).trans rfl
  case driver => exact (congrArg Server.driver hends).trans rfl
  case calls => rw [← calls_unlogged, calls, heffects, ← calls, calls_unlogged]
  case restarts => rw [← restarts_unlogged, restarts, heffects, ← restarts, restarts_unlogged]

/-- The late connections end, once each and in any order, and nothing else happens. -/
structure ExactExpiry (s : Server σ) (now : Nat) : Prop where
  number : (s.expire now).1 = s.clients.countP fun c => decide (s.Late now c)
  /-- The server itself ends them in one of the orders that there are. -/
  order : (s.expire now).2 = s.expireIn (s.lateIds now)
  withoutLate : ∀ order, order.Perm (s.lateIds now) → s.WithoutLate now (s.expireIn order)
  /-- Any other order leads to the same state but for the log. -/
  anyOrder : ∀ order, order.Perm (s.lateIds now) →
    (s.expireIn order).unlogged = (s.expire now).2.unlogged

/-- In every reachable state and at any time exactly the late connections are ended. -/
theorem expiry_is_exact (h : s.Reachable) (now : Nat) : s.ExactExpiry now := by
  obtain ⟨given, h⟩ := h
  have hs := h.consistent
  have hr : s.roster.Sound := by
    obtain ⟨settings, driver, console, table, events, rfl, -⟩ := h
    exact sound_run (sound_start settings driver console table) events
  have hexpire := expire_eq s now
  constructor
  · rw [hexpire, lateIds, List.length_map, List.countP_eq_length_filter]
  · rw [hexpire]
  · intro order horder
    exact expireIn_withoutLate hs hr horder
  · intro order horder
    rw [hexpire]
    exact unlogged_expireIn_perm hs horder

end driver

/-- Three more connections; one of them is made later than the time that is looked at. -/
def crowdedLobby : Server BareDriver :=
  rehearsed.run [.arrival "c" 50, .arrival "d" 40, .arrival "e" 100]

/-- Of five connections two are late: they end in either order, and the other three stay. -/
theorem expiry_is_exact_crowdedLobby : crowdedLobby.Reachable ∧
    crowdedLobby.lateIds 81 = [⟨3⟩, ⟨4⟩] ∧ (crowdedLobby.expire 81).1 = 2 ∧
    crowdedLobby.waiting = 3 ∧ (crowdedLobby.expire 81).2.waiting = 1 ∧
    (crowdedLobby.expire 81).2.clients.map (·.id) = [⟨1⟩, ⟨2⟩, ⟨5⟩] ∧
    crowdedLobby.WithoutLate 81 (crowdedLobby.expireIn [⟨4⟩, ⟨3⟩]) ∧
    (crowdedLobby.expireIn [⟨4⟩, ⟨3⟩]).unlogged = (crowdedLobby.expire 81).2.unlogged := by
  have hreach : crowdedLobby.Reachable := ⟨_, ((rehearsed_reachable.step (.arrival "c" 50)).step
    (.arrival "d" 40)).step (.arrival "e" 100)⟩
  have hlate : crowdedLobby.lateIds 81 = [⟨3⟩, ⟨4⟩] := by decide +kernel
  have horder : ([⟨4⟩, ⟨3⟩] : List ClientId).Perm (crowdedLobby.lateIds 81) := by
    rw [hlate]
    exact List.Perm.swap ..
  have hexact := expiry_is_exact hreach 81
  exact ⟨hreach, hlate, by decide +kernel, by decide +kernel, by decide +kernel, by decide +kernel,
    hexact.withoutLate _ horder, hexact.anyOrder _ horder⟩

end BrailleShare.Server
