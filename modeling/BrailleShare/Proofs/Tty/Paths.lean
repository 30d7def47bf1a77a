import BrailleShare.Proofs.Tty.Soundness

/-!
# Paths in a sound tree

The path of a tty is the list of numbers on the way down to it. In a sound tree the paths of the
ttys below the root are what following a path finds.

Main statements: following a path finds the tty that has it and no other (`lookup_eq_found_iff`),
the ttys above one are those that the beginnings of its path lead to (`exists_of_prefix_path`), each
tty has a client at or below it (`exists_client_below`), and a tree that keeps a tty and all above
it keeps its path (`path_congr`).
-/

namespace BrailleShare.TtyTree

variable {α : Type} {t t' : TtyTree α} {id p here spare : TtyId} {k : UInt32} {q : List UInt32}

/-- The numbers of the ttys from the top of the tree down to one, that of the top left out. -/
def path (t : TtyTree α) (id : TtyId) : List UInt32 :=
  match h : t.link? id with
  | some (some p, k) =>
    have := lt_of_link? h
    t.path p ++ [k]
  | _ => []
  termination_by id.val

/-- The path of a child is the path of its parent and its own number. -/
theorem path_of_link? (h : t.link? id = some (some p, k)) : t.path id = t.path p ++ [k] := by
  rw [path]
  split
  · rename_i p' k' h'
    rw [h] at h'
    cases h'
    rfl
  · simp_all

/-- The path of a tty at the top is empty. -/
theorem path_of_top (h : t.link? id = some (none, k)) : t.path id = [] := by
  rw [path]
  split
  · simp_all
  · rfl

/-- What is not there has the empty path. -/
theorem path_of_dead (h : t.link? id = none) : t.path id = [] := by
  rw [path]
  split
  · simp_all
  · rfl

/-- Where a tty hangs and what hangs above it is all that its path tells. -/
theorem path_eq_of_links (h : ∀ x, t'.link? x = t.link? x) (id : TtyId) :
    t'.path id = t.path id := by
  induction hv : id.val using Nat.strongRecOn generalizing id with
  | ind v ih =>
    match hl : t.link? id with
    | none => rw [path_of_dead hl, path_of_dead ((h id).trans hl)]
    | some (none, k) => rw [path_of_top hl, path_of_top ((h id).trans hl)]
    | some (some p, k) =>
      rw [path_of_link? hl, path_of_link? ((h id).trans hl), ih p.val (hv ▸ lt_of_link? hl) p rfl]

/-- Changing the focus or the clients of a tty leaves paths as they are. -/
@[simp] theorem path_adjust (t : TtyTree α) (id x : TtyId)
    (focus : Option UInt32 → Option UInt32) (clients : List α → List α) :
    (t.adjust id focus clients).path x = t.path x :=
  path_eq_of_links (fun y => link?_adjust t id y focus clients) x

/-- Letting a client in leaves paths as they are. -/
@[simp] theorem path_seat (t : TtyTree α) (id x : TtyId) (c : α) :
    (t.seat id c).path x = t.path x :=
  path_adjust ..

/-- Letting a client out leaves paths as they are. -/
@[simp] theorem path_detach [DecidableEq α] (t : TtyTree α) (id x : TtyId) (c : α) :
    (t.detach id c).path x = t.path x :=
  path_adjust ..

/-- A tree in which every tty hangs where it hangs in another gives it the same path. -/
theorem path_congr (hparent : ∀ {x p k}, t'.link? x = some (some p, k) → t'.live p)
    (hkeep : ∀ {x l}, t'.link? x = some l → t.link? x = some l) (hl : t'.live id) :
    t'.path id = t.path id := by
  induction hv : id.val using Nat.strongRecOn generalizing id with
  | ind v ih =>
    obtain ⟨⟨q, k⟩, h⟩ := live_iff.1 hl
    cases q with
    | none => rw [path_of_top h, path_of_top (hkeep h)]
    | some p =>
      have hlt := lt_of_link? h
      rw [path_of_link? h, path_of_link? (hkeep h), ih p.val (hv ▸ hlt) (hparent h) rfl]

/-- A tty that is still there after a clearing away has the path that it had. -/
theorem path_collect {x : TtyId} (h : (t.collect id).1.SoundBut spare)
    (hl : (t.collect id).1.live x) : (t.collect id).1.path x = t.path x :=
  path_congr (fun hy => (h.parent hy).1) link?_of_collect hl

/-! ### Following a path -/

/-- A path may be followed in two parts. -/
theorem lookupFrom_append (t : TtyTree α) (here : TtyId) (m : Nat) (q r : List UInt32) :
    t.lookupFrom here m (q ++ r) =
      match t.lookupFrom here m q with
      | .found x => t.lookupFrom x (m + q.length) r
      | .missing d n => .missing d n := by
  induction q generalizing here m with
  | nil => simp [lookupFrom]
  | cons k q ih =>
    simp only [List.cons_append, lookupFrom]
    split
    · rw [ih, List.length_cons, Nat.add_right_comm, Nat.add_assoc]
    · rfl

/-- Where a path leads no further, its next number is free. -/
theorem lookupFrom_eq_missing {m n : Nat} {d : TtyId} (h : t.lookupFrom here m q = .missing d n) :
    ∃ a k r, q = a ++ k :: r ∧ n = m + a.length ∧ t.lookupFrom here m a = .found d ∧
      t.child? d k = none := by
  induction q generalizing here m with
  | nil => simp [lookupFrom] at h
  | cons k q ih =>
    simp only [lookupFrom] at h
    split at h
    · rename_i c hc
      obtain ⟨a, k', r, rfl, rfl, ha, hk⟩ := ih h
      exact ⟨k :: a, k', r, rfl, by simp; omega, by simpa [lookupFrom, hc] using ha, hk⟩
    · rename_i hc
      cases h
      exact ⟨[], k, q, rfl, rfl, rfl, hc⟩

/-- A child that is found has the link that it was found by. -/
theorem Ordered.link?_of_child? (h : t.Ordered) {c : TtyId} (hc : t.child? p k = some c) :
    t.link? c = some (some p, k) := by
  obtain ⟨n, hn, rfl⟩ := Option.map_eq_some_iff.1 hc
  have hnum := List.find?_some hn
  simp only [Bool.and_eq_true, beq_iff_eq] at hnum
  rw [h.link?_of_mem (List.mem_of_find?_eq_some hn), hnum.1, hnum.2]

/-- Where no child is found by a number, none has a link with it. -/
theorem link?_ne_of_child? (h : t.child? p k = none) (c : TtyId) :
    t.link? c ≠ some (some p, k) := by
  intro hc
  obtain ⟨n, hn, hp, hk⟩ := find?_of_link? hc
  have hnone := List.find?_eq_none.1 (Option.map_eq_none_iff.1 h) n (mem_of_find? hn)
  simp [hp, hk] at hnone

namespace SoundBut

variable (h : t.SoundBut spare)
include h

/-- A child is found by a number exactly if it has the link with it. -/
theorem child?_eq_some_iff {c : TtyId} : t.child? p k = some c ↔ t.link? c = some (some p, k) := by
  refine ⟨h.ordered.link?_of_child?, fun hc => ?_⟩
  cases hd : t.child? p k with
  | none => exact absurd hc (link?_ne_of_child? hd c)
  | some d => rw [h.siblings (h.ordered.link?_of_child? hd) hc]

/-- The path of the root is empty. -/
theorem path_root : t.path root = [] :=
  path_of_top h.root_link

/-- Following a path from a tty leads to one whose path is longer by just that. -/
theorem path_of_lookupFrom {m : Nat} (hl : t.live here) (hne : here ≠ lobby)
    (e : t.lookupFrom here m q = .found id) :
    t.live id ∧ id ≠ lobby ∧ t.path id = t.path here ++ q := by
  induction q generalizing here m with
  | nil =>
    cases e
    exact ⟨hl, hne, (List.append_nil _).symm⟩
  | cons k q ih =>
    simp only [lookupFrom] at e
    split at e
    · rename_i c hc
      have hc := h.child?_eq_some_iff.1 hc
      have hcne : c ≠ lobby := by rintro rfl; simp [h.lobby_link] at hc
      obtain ⟨hlive, hnl, hpath⟩ := ih (live_of_link? hc) hcne e
      exact ⟨hlive, hnl, by rw [hpath, path_of_link? hc, List.append_assoc]; rfl⟩
    · cases e

/-- The path of a tty below the root leads to it. -/
theorem lookup_path (hl : t.live id) (hne : id ≠ lobby) :
    t.lookup (t.path id) = .found id := by
  induction hv : id.val using Nat.strongRecOn generalizing id with
  | ind v ih =>
    obtain ⟨⟨q, k⟩, hlink⟩ := live_iff.1 hl
    cases q with
    | none =>
      have hroot : id = root := by
        have := h.top hlink
        simp only [permanent, Bool.or_eq_true, beq_iff_eq] at this
        exact this.resolve_right hne
      rw [path_of_top hlink, hroot]
      rfl
    | some p =>
      obtain ⟨hpl, hpne⟩ := h.parent hlink
      have := ih p.val (hv ▸ lt_of_link? hlink) hpl hpne rfl
      rw [lookup] at this
      rw [path_of_link? hlink, lookup, lookupFrom_append, this]
      simp [lookupFrom, h.child?_eq_some_iff.2 hlink]

/-- A path leads to the tty that has it. -/
theorem lookup_eq_found_iff :
    t.lookup q = .found id ↔ t.live id ∧ id ≠ lobby ∧ t.path id = q := by
  constructor
  · intro e
    have hroot : root ≠ lobby := by decide
    obtain ⟨hl, hne, hp⟩ := h.path_of_lookupFrom h.live_root hroot e
    exact ⟨hl, hne, by rw [hp, h.path_root]; rfl⟩
  · rintro ⟨hl, hne, rfl⟩
    exact h.lookup_path hl hne

/-- No two ttys below the root have the same path. -/
theorem path_injective {a b : TtyId} (ha : t.live a) (ha' : a ≠ lobby) (hb : t.live b)
    (hb' : b ≠ lobby) (e : t.path a = t.path b) : a = b := by
  have h1 := h.lookup_path ha ha'
  rw [e, h.lookup_path hb hb'] at h1
  exact (Lookup.found.inj h1).symm

/-- The root alone has the empty path. -/
theorem path_eq_nil_iff (hl : t.live id) (hne : id ≠ lobby) :
    t.path id = [] ↔ id = root := by
  constructor
  · intro e
    exact h.path_injective hl hne h.live_root (by decide) (e.trans h.path_root.symm)
  · rintro rfl
    exact h.path_root

/-- The beginnings of a tty's path are the paths of the ttys above it. -/
theorem exists_of_prefix_path (hl : t.live id) (hne : id ≠ lobby) (hq : q <+: t.path id) :
    ∃ a, t.live a ∧ a ≠ lobby ∧ t.path a = q := by
  obtain ⟨r, hr⟩ := hq
  have hlook := h.lookup_path hl hne
  rw [← hr, lookup, lookupFrom_append] at hlook
  split at hlook
  · rename_i a ha
    exact ⟨a, h.lookup_eq_found_iff.1 ha⟩
  · cases hlook

end SoundBut

/-- A tty that is not permanent has a client, or one of the ttys below it has. -/
theorem SoundBut.exists_client_below (h : t.Sound) (hl : t.live id) (hperm : permanent id = false) :
    ∃ d, t.clientsOf d ≠ [] ∧ permanent d = false ∧ t.path id <+: t.path d := by
  -- ids grow downwards and stay below the next one
  induction hv : t.nextId - id.val using Nat.strongRecOn generalizing id with
  | ind v ih =>
    have hroot := (permanent_eq_false_iff.1 hperm).1
    obtain hc | ⟨c, k, hc⟩ := h.used hl hperm hroot
    · exact ⟨id, hc, hperm, List.prefix_refl _⟩
    · have hlt := lt_of_link? hc
      have hcl := live_of_link? hc
      have := lt_nextId_of_live hcl
      obtain ⟨d, hd, hdp, hpre⟩ := ih (t.nextId - c.val) (by omega) hcl (h.not_permanent hc) rfl
      rw [path_of_link? hc] at hpre
      exact ⟨d, hd, hdp, (List.prefix_append _ _).trans hpre⟩

end BrailleShare.TtyTree
