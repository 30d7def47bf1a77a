import BrailleShare.Proofs.Server.KeyEvents
import BrailleShare.Proofs.Server.Roster

/-!
# Those who wait to log in

The count of the connections that have yet to log in is kept apart from the records of them, and it
is adjusted in three places: when a connection is let in, when it logs in, and when it ends before
that. A connection that waits takes a *slot*. Slots are given out and freed with the moves of the
roster, and a count that is one short or one over would show in who is let in.

Main statements: a move that the state allows keeps a roster sound, and never has to lower a count
of none (`Roster.Sound.move`, `Roster.Sound.move?_eq`); the moves of an event are allowed
(`moves_allowed`); so after any history the count is right, the limit is kept, each slot that was
given out has been freed once or is taken, and no number is used twice (`waiting_is_counted`).
-/

namespace BrailleShare

namespace Roster

variable {r : Roster} {m : Move} {id : ClientId} {b : Bool}

/-! ### Slots -/

/-- The connections that have yet to log in. -/
def waiters (r : Roster) : List ClientId :=
  (r.members.filter fun m => !m.2).map (·.1)

/-- The connection that is let in by a move. -/
def admitted (r : Roster) : Move → List ClientId
  | .enter => [⟨r.next⟩]
  | .logIn _ | .part _ | .close => []

/-- The connection whose slot is freed by a move: one that logs in, or that ends before it has. -/
def freed (r : Roster) : Move → List ClientId
  | .logIn id => [id]
  | .part id => if r.flag? id = some false then [id] else []
  | .enter | .close => []

/-- What the moves of a list give, one after the other. -/
def along (f : Roster → Move → List ClientId) (r : Roster) : List Move → List ClientId
  | [] => []
  | m :: ms => f r m ++ (r.move m).along f ms

/-- The roster after a move, unless a slot were to be freed while none is counted. -/
def move? (r : Roster) (m : Move) : Option Roster :=
  if r.freed m ≠ [] ∧ r.waiting = 0 then none else some (r.move m)

/-- A move that may be made: who is let in finds room, and who logs in has yet to. -/
def Allows (r : Roster) : Move → Prop
  | .enter => r.closed = false ∧ r.waiting < r.settings.maxWaiting
  | .logIn id => r.flag? id = some false
  | .part _ | .close => True

/-- Moves that may be made one after the other. -/
def AllowsAll (r : Roster) : List Move → Prop
  | [] => True
  | m :: ms => r.Allows m ∧ (r.move m).AllowsAll ms

/-- A roster with the right count. -/
structure Sound (r : Roster) : Prop where
  /-- Connections are numbered in the order in which they came. -/
  ids : r.members.Pairwise fun m n => m.1.val < n.1.val
  next : ∀ m ∈ r.members, m.1.val < r.next
  count : r.waiting = r.waiters.length
  limit : r.waiting ≤ r.settings.maxWaiting

/-- A connection is not known if it is not on the roster. -/
theorem flag?_eq_none_iff : r.flag? id = none ↔ ∀ m ∈ r.members, m.1 ≠ id := by
  simp [flag?]

namespace Sound

/-- A connection is found once. -/
theorem split (h : r.Sound) (hf : r.flag? id = some b) :
    ∃ before after, r.members = before ++ (id, b) :: after ∧ (∀ m ∈ before, m.1 ≠ id) ∧
      ∀ m ∈ after, m.1 ≠ id := by
  obtain ⟨m, hfind, rfl⟩ := Option.map_eq_some_iff.1 hf
  obtain ⟨hid, before, after, hmembers, hbefore⟩ := List.find?_eq_some_iff_append.1 hfind
  obtain rfl : m.1 = id := by simpa using hid
  refine ⟨before, after, hmembers, fun n hn => by simpa using hbefore n hn, fun n hn heq => ?_⟩
  have hids := h.ids
  rw [hmembers] at hids
  have hlt := (List.pairwise_cons.1 (List.pairwise_append.1 hids).2.1).1 n hn
  exact Nat.lt_irrefl _ (heq ▸ hlt)

/-- A connection is known, with its flag, if it is on the roster. -/
theorem flag?_eq_some_iff (h : r.Sound) : r.flag? id = some b ↔ (id, b) ∈ r.members := by
  constructor
  · intro hf
    obtain ⟨before, after, hmembers, -⟩ := h.split hf
    simp [hmembers]
  · intro hmem
    cases hf : r.flag? id with
    | none => exact absurd rfl (flag?_eq_none_iff.1 hf _ hmem)
    | some b' =>
      obtain ⟨before, after, hmembers, hbefore, hafter⟩ := h.split hf
      rw [hmembers, List.mem_append, List.mem_cons] at hmem
      rcases hmem with hmem | hmem | hmem
      · exact absurd rfl (hbefore _ hmem)
      · rw [(Prod.mk.inj hmem).2]
      · exact absurd rfl (hafter _ hmem)

end Sound

/-! ### The members after a move -/

/-- A login of somebody else leaves these entries. -/
theorem map_logIn {ms : List (ClientId × Bool)} (h : ∀ m ∈ ms, m.1 ≠ id) :
    (ms.map fun m => if m.1 = id then (m.1, true) else m) = ms :=
  (List.map_congr_left fun m hm => if_neg (h m hm)).trans (List.map_id ms)

/-- The end of another connection leaves these entries. -/
theorem filter_part {ms : List (ClientId × Bool)} (h : ∀ m ∈ ms, m.1 ≠ id) :
    (ms.filter fun m => m.1 != id) = ms :=
  List.filter_eq_self.2 fun m hm => by simpa using h m hm

namespace Sound

/-- Whoever logs in keeps its place. -/
theorem members_logIn (h : r.Sound) (hf : r.flag? id = some b) :
    ∃ before after, r.members = before ++ (id, b) :: after ∧
      (r.move (.logIn id)).members = before ++ (id, true) :: after := by
  obtain ⟨before, after, hmembers, hbefore, hafter⟩ := h.split hf
  refine ⟨before, after, hmembers, ?_⟩
  simp only [Roster.move, hmembers, List.map_append, List.map_cons, map_logIn hbefore,
    map_logIn hafter]
  simp

/-- Whoever parts leaves the others as they are. -/
theorem members_part (h : r.Sound) (hf : r.flag? id = some b) :
    ∃ before after, r.members = before ++ (id, b) :: after ∧
      (r.move (.part id)).members = before ++ after := by
  obtain ⟨before, after, hmembers, hbefore, hafter⟩ := h.split hf
  refine ⟨before, after, hmembers, ?_⟩
  simp only [Roster.move, hmembers, List.filter_append, List.filter_cons, filter_part hbefore,
    filter_part hafter]
  simp

/-- Those who wait and those who are let in are those whose slots are freed and those who wait
then. -/
theorem slots (h : r.Sound) (hm : r.Allows m) :
    (r.waiters ++ r.admitted m).Perm (r.freed m ++ (r.move m).waiters) := by
  cases m with
  | enter => simp [waiters, admitted, freed, Roster.move]
  | logIn id =>
    obtain ⟨before, after, hold, hnew⟩ := h.members_logIn hm
    simp [waiters, admitted, freed, hold, hnew]
  | part id =>
    cases hf : r.flag? id with
    | none =>
      have hsame : (r.move (.part id)).members = r.members := filter_part (flag?_eq_none_iff.1 hf)
      simp [waiters, admitted, freed, hf, hsame]
    | some b =>
      obtain ⟨before, after, hold, hnew⟩ := h.members_part hf
      cases b <;> simp [waiters, admitted, freed, hf, hold, hnew]
  | close => simp [waiters, admitted, freed, Roster.move]

/-- Where a slot is freed, one is counted. -/
theorem waiting_pos (h : r.Sound) (hm : r.Allows m) (hfreed : r.freed m ≠ []) : 0 < r.waiting := by
  obtain ⟨id, hid⟩ := List.exists_mem_of_ne_nil _ hfreed
  have hmem : id ∈ r.waiters ++ r.admitted m :=
    (h.slots hm).mem_iff.2 (List.mem_append_left _ hid)
  have hnone : r.admitted m = [] := by
    cases m with
    | enter => exact absurd rfl hfreed
    | logIn | part | close => rfl
  rw [hnone, List.append_nil] at hmem
  rw [h.count]
  exact List.length_pos_of_mem hmem

/-- A move that is allowed never has to lower a count of none. -/
theorem move?_eq (h : r.Sound) (hm : r.Allows m) : r.move? m = some (r.move m) := by
  refine if_neg ?_
  rintro ⟨hfreed, hnone⟩
  exact absurd (h.waiting_pos hm hfreed) (by omega)

/-- The count goes up by those who are let in, and down by those whose slots are freed. -/
theorem waiting_move (h : r.Sound) (hm : r.Allows m) :
    (r.move m).waiting + (r.freed m).length = r.waiting + (r.admitted m).length := by
  have hpos := h.waiting_pos hm
  cases m with
  | enter => simp [Roster.move, freed, admitted]
  | logIn id =>
    have := hpos (by simp [freed])
    simp only [Roster.move, freed, admitted, List.length_cons, List.length_nil]
    omega
  | part id =>
    by_cases hf : r.flag? id = some false
    · have := hpos (by simp [freed, hf])
      simp only [Roster.move, freed, admitted, hf, if_true, List.length_cons, List.length_nil]
      omega
    · simp [Roster.move, freed, admitted, hf]
  | close => simp [Roster.move, freed, admitted]

/-- A move that is allowed keeps a roster sound. -/
theorem move (h : r.Sound) (hm : r.Allows m) : (r.move m).Sound := by
  have hwaiting := h.waiting_move hm
  have hcount : (r.move m).waiting = (r.move m).waiters.length := by
    have hslots := (h.slots hm).length_eq
    simp only [List.length_append] at hslots
    have := h.count
    omega
  cases m with
  | enter =>
    refine ⟨?_, ?_, hcount, hm.2⟩
    · refine List.pairwise_append.2 ⟨h.ids, List.pairwise_singleton _ _, fun m hm n hn => ?_⟩
      rw [List.mem_singleton.1 hn]
      exact h.next m hm
    · intro m hm
      rcases List.mem_append.1 hm with hm | hm
      · exact Nat.lt_succ_of_lt (h.next m hm)
      · rw [List.mem_singleton.1 hm]
        exact Nat.lt_succ_self _
  | logIn id =>
    have hsame : ∀ m : ClientId × Bool, (if m.1 = id then (m.1, true) else m).1 = m.1 := by
      intro m
      split <;> rfl
    refine ⟨?_, ?_, hcount, Nat.le_trans (Nat.sub_le _ _) h.limit⟩
    · refine List.pairwise_map.2 (h.ids.imp fun hlt => ?_)
      rw [hsame, hsame]
      exact hlt
    · intro m hm
      obtain ⟨n, hn, rfl⟩ := List.mem_map.1 hm
      rw [hsame]
      exact h.next n hn
  | part id =>
    refine ⟨h.ids.filter _, fun m hm => h.next m (List.mem_filter.1 hm).1, hcount, ?_⟩
    have hle : (r.move (.part id)).waiting ≤ r.waiting := by
      simp only [admitted, List.length_nil] at hwaiting
      omega
    exact Nat.le_trans hle h.limit
  | close => exact ⟨h.ids, h.next, hcount, h.limit⟩

/-- Moves that are allowed one after the other keep a roster sound and never have to lower a count
of none. -/
theorem moves {ms : List Move} (h : r.Sound) (hms : r.AllowsAll ms) :
    (ms.foldl Roster.move r).Sound ∧ ms.foldlM move? r = some (ms.foldl Roster.move r) := by
  induction ms generalizing r with
  | nil => exact ⟨h, rfl⟩
  | cons m ms ih =>
    obtain ⟨hm, hms⟩ := hms
    obtain ⟨hsound, hreplay⟩ := ih (h.move hm) hms
    refine ⟨hsound, ?_⟩
    rw [List.foldlM_cons, h.move?_eq hm]
    exact hreplay

/-- The slots that moves give out are those that they free and those that are still taken. -/
theorem slots_along {ms : List Move} (h : r.Sound) (hms : r.AllowsAll ms) :
    (r.waiters ++ r.along admitted ms).Perm
      (r.along freed ms ++ (ms.foldl Roster.move r).waiters) := by
  induction ms generalizing r with
  | nil => simp [along]
  | cons m ms ih =>
    obtain ⟨hm, hms⟩ := hms
    have hrest := (ih (h.move hm) hms).append_left (r.freed m)
    have hfirst := (h.slots hm).append_right ((r.move m).along admitted ms)
    simp only [along, List.foldl_cons, List.append_assoc] at hfirst hrest ⊢
    exact hfirst.trans hrest

end Sound

/-! ### Numbers -/

/-- No move gives an id back. -/
theorem next_le_move (r : Roster) (m : Move) : r.next ≤ (r.move m).next := by
  cases m with
  | enter => exact Nat.le_succ _
  | logIn | part | close => exact Nat.le_refl _

/-- No moves give an id back. -/
theorem next_le_moves (r : Roster) (ms : List Move) : r.next ≤ (ms.foldl move r).next := by
  induction ms generalizing r with
  | nil => exact Nat.le_refl _
  | cons m ms ih => exact Nat.le_trans (next_le_move r m) (ih _)

/-- Moves leave the settings. -/
theorem settings_moves (r : Roster) (ms : List Move) : (ms.foldl move r).settings = r.settings := by
  induction ms generalizing r with
  | nil => rfl
  | cons m ms ih => exact (ih _).trans (by cases m <;> rfl)

/-- The roster is closed after some moves if it was before or one of them closed it. -/
theorem closed_moves (r : Roster) (ms : List Move) :
    (ms.foldl move r).closed = true ↔ r.closed = true ∨ .close ∈ ms := by
  induction ms generalizing r with
  | nil => simp
  | cons m ms ih =>
    rw [List.foldl_cons, ih]
    cases m <;> simp [move]

/-- The numbers that moves give out lie between the next number before and the next one then. -/
theorem bounds_of_mem_along {ms : List Move} (h : id ∈ r.along admitted ms) :
    r.next ≤ id.val ∧ id.val < (ms.foldl move r).next := by
  induction ms generalizing r with
  | nil => cases h
  | cons m ms ih =>
    rcases List.mem_append.1 h with h | h
    · cases m with
      | enter =>
        obtain rfl := List.mem_singleton.1 h
        exact ⟨Nat.le_refl _, next_le_moves (r.move .enter) ms⟩
      | logIn | part | close => cases h
    · exact ⟨Nat.le_trans (next_le_move r m) (ih h).1, (ih h).2⟩

/-- Numbers are given out in order. -/
theorem pairwise_along (r : Roster) (ms : List Move) :
    (r.along admitted ms).Pairwise fun x y => x.val < y.val := by
  induction ms generalizing r with
  | nil => exact .nil
  | cons m ms ih =>
    refine List.pairwise_append.2 ⟨?_, ih _, fun x hx y hy => ?_⟩
    · cases m with
      | enter => exact List.pairwise_singleton ..
      | logIn | part | close => exact .nil
    · have hle := (bounds_of_mem_along hy).1
      cases m with
      | enter =>
        obtain rfl := List.mem_singleton.1 hx
        exact hle
      | logIn | part | close => cases hx

/-- Who is on the roster after a move was there before or has just been let in. -/
theorem mem_of_move {n : ClientId × Bool} (h : n ∈ (r.move m).members) :
    n.1 ∈ r.members.map (·.1) ∨ n.1 ∈ r.admitted m := by
  cases m with
  | enter =>
    rcases List.mem_append.1 h with h | h
    · exact .inl (List.mem_map_of_mem h)
    · obtain rfl := List.mem_singleton.1 h
      exact .inr (List.mem_singleton.2 rfl)
  | logIn id =>
    obtain ⟨n, hn, rfl⟩ := List.mem_map.1 h
    refine .inl (List.mem_map.2 ⟨n, hn, ?_⟩)
    split <;> rfl
  | part id => exact .inl (List.mem_map_of_mem (List.mem_filter.1 h).1)
  | close => exact .inl (List.mem_map_of_mem h)

/-- Whoever is there was there before or has been let in since. -/
theorem mem_of_moves {ms : List Move} {n : ClientId × Bool} (h : n ∈ (ms.foldl move r).members) :
    n.1 ∈ r.members.map (·.1) ∨ n.1 ∈ r.along admitted ms := by
  induction ms generalizing r with
  | nil => exact .inl (List.mem_map_of_mem h)
  | cons m ms ih =>
    rcases ih h with hold | hnew
    · obtain ⟨k, hk, heq⟩ := List.mem_map.1 hold
      rcases mem_of_move hk with hold | hnew
      · exact .inl (heq ▸ hold)
      · exact .inr (List.mem_append_left _ (heq ▸ hnew))
    · exact .inr (List.mem_append_right _ hnew)

/-! ### Moves in a row -/

/-- Moves are allowed in two parts if they are allowed in one. -/
theorem allowsAll_append {ms ns : List Move} :
    r.AllowsAll (ms ++ ns) ↔ r.AllowsAll ms ∧ (ms.foldl move r).AllowsAll ns := by
  induction ms generalizing r with
  | nil => simp [AllowsAll]
  | cons m ms ih => simp only [List.cons_append, AllowsAll, ih, List.foldl_cons, and_assoc]

/-- What is seen along moves is seen in two parts. -/
theorem along_append (f : Roster → Move → List ClientId) (r : Roster) (ms ns : List Move) :
    r.along f (ms ++ ns) = r.along f ms ++ (ms.foldl move r).along f ns := by
  induction ms generalizing r with
  | nil => rfl
  | cons m ms ih => simp only [List.cons_append, along, ih, List.foldl_cons, List.append_assoc]

/-- Connections may end at any time. -/
theorem allowsAll_part {α : Type} (f : α → ClientId) (r : Roster) (as : List α) :
    r.AllowsAll (as.map fun a => .part (f a)) := by
  induction as generalizing r with
  | nil => trivial
  | cons a as ih => exact ⟨trivial, ih _⟩

/-- Nobody is let in by ends. -/
theorem along_part {α : Type} (f : α → ClientId) (r : Roster) (as : List α) :
    r.along admitted (as.map fun a => .part (f a)) = [] := by
  induction as generalizing r with
  | nil => rfl
  | cons a as ih => exact ih _

end Roster

namespace Server

variable {σ : Type} {s : Server σ} {c : Client} {id : ClientId}

/-! ### The moves of a history -/

/-- Those that wait are the clients that have not logged in. -/
theorem waiters_roster (s : Server σ) :
    s.roster.waiters = (s.clients.filter fun c => !c.loggedIn).map (·.id) := by
  simp only [Roster.waiters, roster, List.filter_map, List.map_map]
  rfl

/-- As many wait as have not logged in. -/
theorem length_waiters (s : Server σ) :
    s.roster.waiters.length = s.clients.countP fun c => !c.loggedIn := by
  rw [waiters_roster, List.length_map, List.countP_eq_length_filter]

/-- A connection is let in while there is room and the door is open. -/
theorem accept_fst (s : Server σ) (peer : String) (now : Nat) : (s.accept peer now).1.toOption =
    if s.closed = false ∧ s.waiting < s.settings.maxWaiting then some ⟨s.nextId⟩ else none := by
  unfold accept
  by_cases hc : s.closed
  · simp [hc, Except.toOption]
  · by_cases hw : s.settings.maxWaiting ≤ s.waiting
    · simp [hc, hw, Except.toOption]
    · simp [hc, hw, Nat.not_le.1 hw, Except.toOption]

/-- A connection is let in exactly if there is room and the door is open. -/
theorem accept_isOk_iff {peer : String} {now : Nat} : (s.accept peer now).1.isOk = true ↔
    s.closed = false ∧ s.waiting < s.settings.maxWaiting := by
  have hsome : (s.accept peer now).1.isOk = (s.accept peer now).1.toOption.isSome := by
    cases (s.accept peer now).1 <;> rfl
  rw [hsome, accept_fst]
  split <;> simp [*]

/-- Whoever is let in gets the next number. -/
theorem eq_of_accept {peer : String} {now : Nat} (h : (s.accept peer now).1 = .ok id) :
    ⟨s.nextId⟩ = id := by
  have hsome := accept_fst s peer now
  rw [h] at hsome
  split at hsome
  · exact (Option.some.inj hsome).symm
  · cases hsome

/-- The connection that an event lets in. -/
def letIn (s : Server σ) : Event σ → List ClientId
  | .arrival peer now => (s.accept peer now).1.toOption.toList
  | _ => []

/-- Those let in by an event are those let in by its moves. -/
theorem letIn_eq (s : Server σ) (e : Event σ) :
    s.letIn e = s.roster.along Roster.admitted (s.moves e) := by
  cases e with
  | arrival peer now =>
    simp only [letIn, moves, accept_fst]
    split <;> rfl
  | frame id f =>
    cases f with
    | packet p =>
      simp only [letIn, moves]
      split <;> rfl
    | oversized => rfl
  | clock | expiry | closing => exact (Roster.along_part Client.id _ _).symm
  | departure | console | ownerAsked | recipientAsked | cycle | hostWindow | hostStatus | hostReset
  | replacement | device => rfl

/-- An event makes no move that may not be made. -/
theorem moves_allowed (s : Server σ) (e : Event σ) : s.roster.AllowsAll (s.moves e) := by
  cases e with
  | arrival peer now =>
    simp only [moves]
    split
    · exact ⟨‹_›, trivial⟩
    · trivial
  | frame id f =>
    cases f with
    | packet p =>
      simp only [moves]
      split
      · rename_i h
        exact ⟨h.1, trivial⟩
      · trivial
    | oversized => trivial
  | departure id => exact ⟨trivial, trivial⟩
  | clock | expiry => exact Roster.allowsAll_part Client.id _ _
  | closing => exact ⟨trivial, Roster.allowsAll_part Client.id _ _⟩
  | console | ownerAsked | recipientAsked | cycle | hostWindow | hostStatus | hostReset
  | replacement | device => trivial

/-- Only one event closes the roster. -/
theorem close_mem_moves_iff (s : Server σ) (e : Event σ) : .close ∈ s.moves e ↔ e = .closing := by
  cases e with
  | arrival | departure | clock | expiry | closing | console | ownerAsked | recipientAsked | cycle
  | hostWindow | hostStatus | hostReset | replacement | device => simp [moves]
  | frame id f => cases f <;> simp [moves]

section driver

variable [Driver σ]

/-- The roster after a history is what the moves of its events make of the roster before it. -/
theorem roster_run (s : Server σ) (events : List (Event σ)) :
    (s.run events).roster = (s.along moves events).foldl Roster.move s.roster := by
  induction events generalizing s with
  | nil => rfl
  | cons e events ih => rw [run_cons, ih, along, List.foldl_append, roster_step]

/-- The moves of a history are allowed. -/
theorem allowsAll_along (s : Server σ) (events : List (Event σ)) :
    s.roster.AllowsAll (s.along moves events) := by
  induction events generalizing s with
  | nil => trivial
  | cons e events ih =>
    rw [along, Roster.allowsAll_append, ← roster_step]
    exact ⟨moves_allowed s e, ih _⟩

/-- Those let in by a history are those let in by its moves. -/
theorem along_letIn (s : Server σ) (events : List (Event σ)) :
    s.along letIn events = s.roster.along Roster.admitted (s.along moves events) := by
  induction events generalizing s with
  | nil => rfl
  | cons e events ih =>
    simp only [along, Roster.along_append, ← roster_step, letIn_eq, ih]

/-- A history closes the roster if it closes the server. -/
theorem close_mem_along_iff (s : Server σ) (events : List (Event σ)) :
    .close ∈ s.along moves events ↔ .closing ∈ events := by
  induction events generalizing s with
  | nil => simp [along]
  | cons e events ih =>
    simp only [along, List.mem_append, List.mem_cons, close_mem_moves_iff, ih, eq_comm]

/-- A server starts with a sound roster. -/
theorem sound_start (settings : Settings) (driver : σ) (console : UInt32) (table : DotTable) :
    ((start settings driver console).withTable table).roster.Sound :=
  ⟨.nil, nofun, rfl, Nat.zero_le _⟩

/-- An event keeps the roster sound. -/
theorem sound_step (h : s.roster.Sound) (e : Event σ) : (s.step e).roster.Sound :=
  roster_step s e ▸ (h.moves (moves_allowed s e)).1

/-- A history keeps the roster sound. -/
theorem sound_run (h : s.roster.Sound) (events : List (Event σ)) :
    (s.run events).roster.Sound :=
  roster_run s events ▸ (h.moves (allowsAll_along s events)).1

/-- A history leaves the settings. -/
theorem settings_run (s : Server σ) (events : List (Event σ)) :
    (s.run events).settings = s.settings := by
  have hsettings := Roster.settings_moves s.roster (s.along moves events)
  rwa [← roster_run] at hsettings

/-- A history gives no id back. -/
theorem nextId_le_run (s : Server σ) (events : List (Event σ)) :
    s.nextId ≤ (s.run events).nextId := by
  have hnext := Roster.next_le_moves s.roster (s.along moves events)
  rwa [← roster_run] at hnext

/-- A server has been closed after a history if it was before or in it. -/
theorem closed_run_iff (s : Server σ) (events : List (Event σ)) :
    (s.run events).closed = true ↔ s.closed = true ∨ .closing ∈ events := by
  have hclosed := Roster.closed_moves s.roster (s.along moves events)
  rwa [← roster_run, close_mem_along_iff] at hclosed

/-- Those who waited and those who have been let in since are those whose slots have been freed and
those who wait. -/
theorem slots_run (h : s.roster.Sound) (events : List (Event σ)) :
    (s.roster.waiters ++ s.along letIn events).Perm
      (s.roster.along Roster.freed (s.along moves events) ++ (s.run events).roster.waiters) := by
  rw [along_letIn, roster_run]
  exact h.slots_along (allowsAll_along s events)

/-- Whoever was let in has an id below the next one. -/
theorem val_lt_of_letIn {events : List (Event σ)} (hid : id ∈ s.along letIn events) :
    id.val < (s.run events).nextId := by
  rw [along_letIn] at hid
  have hlt := (Roster.bounds_of_mem_along hid).2
  rwa [← roster_run] at hlt

/-- Whoever is there was there before or has been let in since. -/
theorem mem_letIn_of_mem {events : List (Event σ)} (hc : c ∈ (s.run events).clients) :
    c.id ∈ s.roster.members.map (·.1) ∨ c.id ∈ s.along letIn events := by
  have hmem : (c.id, c.loggedIn) ∈ (s.run events).roster.members := List.mem_map.2 ⟨c, hc, rfl⟩
  rw [roster_run] at hmem
  rw [along_letIn]
  exact Roster.mem_of_moves hmem

omit [Driver σ] in
/-- The number of those that wait is that of the clients that have not logged in. -/
theorem waiting_eq_countP (h : s.roster.Sound) :
    s.waiting = s.clients.countP fun c => !c.loggedIn :=
  h.count.trans (length_waiters s)

omit [Driver σ] in
/-- Who is not on the roster is not known. -/
theorem flag?_eq_none_iff : s.roster.flag? id = none ↔ s.client? id = none := by
  simp [flag?_roster]

/-- A number that has been given out and whose connection has ended stands for nobody any more. -/
theorem client?_run_of_none (hid : id.val < s.nextId) (hc : s.client? id = none)
    (events : List (Event σ)) : (s.run events).client? id = none := by
  rw [← flag?_eq_none_iff, Roster.flag?_eq_none_iff, roster_run]
  rintro m hm rfl
  rcases Roster.mem_of_moves hm with hold | hnew
  · obtain ⟨n, hn, heq⟩ := List.mem_map.1 hold
    exact Roster.flag?_eq_none_iff.1 (flag?_eq_none_iff.2 hc) n hn heq
  · have hle := (Roster.bounds_of_mem_along hnew).1
    exact absurd hid (Nat.not_lt.2 hle)

/-- An unknown connection cannot be ended. -/
theorem disconnect_of_none (hc : s.client? id = none) : s.disconnect id = s := by
  simp [disconnect, hc]

/-! ### Main result -/

/-- What holds of those who wait after a history. -/
structure WaitingCounted (first : Server σ) (events : List (Event σ)) : Prop where
  /-- The count is the number of connections that have yet to log in. -/
  count : (first.run events).waiting = (first.run events).clients.countP fun c => !c.loggedIn
  limit : (first.run events).waiting ≤ first.settings.maxWaiting
  /-- Made with a count that cannot be lowered below none, the moves of the history lead to the same
  roster. -/
  replay : (first.along moves events).foldlM Roster.move? first.roster =
    some (first.run events).roster
  /-- Each slot that was given out has been freed once, or is taken by a connection that waits. -/
  slots : (first.along letIn events).Perm
    (first.roster.along Roster.freed (first.along moves events) ++
      ((first.run events).clients.filter fun c => !c.loggedIn).map (·.id))
  /-- Whoever arrives is let in unless the server has been closed or as many connections as may
  have yet to log in. -/
  room : ∀ peer now, ((first.run events).accept peer now).1.isOk = true ↔ .closing ∉ events ∧
    ((first.run events).clients.countP fun c => !c.loggedIn) < first.settings.maxWaiting
  /-- Numbers are given out in order. -/
  increasing : (first.along letIn events).Pairwise fun x y => x.val < y.val
  /-- The next number is above all of them. -/
  fresh : ∀ {peer now id}, ((first.run events).accept peer now).1 = .ok id →
    ∀ x ∈ first.along letIn events, x.val < id.val
  /-- Whoever is there has been let in. -/
  known : ∀ c ∈ (first.run events).clients, c.id ∈ first.along letIn events
  /-- A connection that has ended does not come back. -/
  gone : ∀ id ∈ first.along letIn events, (first.run events).client? id = none →
    ∀ more, (first.run (events ++ more)).client? id = none
  /-- Ending a connection again, or one that is not there, makes no difference. -/
  again : ∀ {id}, (first.run events).client? id = none →
    (first.run events).disconnect id = first.run events
  twice : ∀ id, ((first.run events).disconnect id).disconnect id = (first.run events).disconnect id

/-- After any history, whoever came, logged in or failed to, left, was ended or left again, the
count of those who wait is exact and has never been lowered below none, the limit is kept, no slot
has been lost or freed twice, and no number is given out twice. -/
theorem waiting_is_counted (settings : Settings) (driver : σ) (console : UInt32)
    (table : DotTable) (events : List (Event σ)) :
    WaitingCounted ((start settings driver console).withTable table) events := by
  have hstart := sound_start settings driver console table
  have hempty : ((start settings driver console).withTable table).roster =
    ⟨settings, false, 1, 0, []⟩ := rfl
  -- of the first state only its empty roster matters
  generalize (start settings driver console).withTable table = first at hstart hempty ⊢
  have hsound := sound_run hstart events
  have hcount := waiting_eq_countP hsound
  have hsettings := settings_run first events
  have hclosed : (first.run events).closed = true ↔ .closing ∈ events := by
    have hopen : first.closed = false := congrArg Roster.closed hempty
    simp [closed_run_iff, hopen]
  constructor
  case count => exact hcount
  case limit => exact hsettings ▸ hsound.limit
  case replay => exact roster_run first events ▸ (hstart.moves (allowsAll_along first events)).2
  case slots =>
    have hslots := slots_run hstart events
    rw [waiters_roster (first.run events)] at hslots
    rwa [hempty] at hslots ⊢
  case room =>
    intro peer now
    rw [accept_isOk_iff, hcount, hsettings, ← hclosed, Bool.not_eq_true]
  case increasing => exact along_letIn first events ▸ Roster.pairwise_along _ _
  case fresh =>
    intro peer now id hok x hx
    obtain rfl := eq_of_accept hok
    exact val_lt_of_letIn hx
  case known =>
    intro c hc
    refine (mem_letIn_of_mem hc).resolve_left ?_
    simp [hempty]
  case gone =>
    intro id hid hnone more
    rw [run_append]
    exact client?_run_of_none (val_lt_of_letIn hid) hnone more
  case again => exact fun hnone => disconnect_of_none hnone
  case twice => exact fun id => disconnect_of_none (by rw [client?_disconnect, if_pos rfl])

end driver

end Server

end BrailleShare
