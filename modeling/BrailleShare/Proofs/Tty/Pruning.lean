import BrailleShare.Proofs.Tty.Paths
import Mathlib.Data.List.Sort

/-!
# Pruned trees

When clients get up one after the other, the ttys that are of no use any more are cleared away each
time, and who is the last to leave a branch decides when it goes. What is left in the end does not
depend on that: it is the only sound tree that keeps those who have stayed where they sit.

Main statements: clearing away only prunes a tree (`PrunedFrom.collect`), a tree has at most one
sound pruning (`PrunedFrom.unique`), and so two clients may leave in either order (`vacate_comm`);
when nobody is left, nothing is left but the permanent ttys (`ids_of_deserted`).
-/

namespace BrailleShare.TtyTree

variable {α : Type} {t t' t'' : TtyTree α} {id x : TtyId} {c : α}

/-! ### Trees with the same ttys -/

/-- Ascending lists with the same members are the same. -/
theorem eq_of_ascending {β : Type} {f : β → Nat} {xs ys : List β}
    (hx : xs.Pairwise fun a b => f a < f b) (hy : ys.Pairwise fun a b => f a < f b)
    (h : ∀ b, b ∈ xs ↔ b ∈ ys) : xs = ys := by
  have : Std.Irrefl fun a b => f a < f b := ⟨fun a => Nat.lt_irrefl (f a)⟩
  have : Std.Antisymm fun a b => f a < f b :=
    ⟨fun a b hab hba => absurd hab (Nat.not_lt.2 (Nat.le_of_lt hba))⟩
  exact hx.eq_of_mem_iff hy h

/-- In a tree in order, the ttys that are found are all that there is. -/
theorem Ordered.ttys_eq (h : t.Ordered) (h' : t'.Ordered) (hfind : ∀ x, t.find? x = t'.find? x) :
    t.ttys = t'.ttys := by
  refine eq_of_ascending (f := fun n : Tty α => n.id.val) h h' fun n => ⟨fun hn => ?_, fun hn => ?_⟩
  · exact mem_of_find? ((hfind n.id).symm.trans (h.find?_of_mem hn))
  · exact mem_of_find? ((hfind n.id).trans (h'.find?_of_mem hn))

/-! ### Prunings -/

/-- One tree is what is left of another: its ttys are what they were, and nobody has gone with those
that are missing. -/
structure PrunedFrom (t' t : TtyTree α) : Prop where
  find? : ∀ {x n}, t'.find? x = some n → t.find? x = some n
  clients : ∀ x, t'.clientsOf x = t.clientsOf x
  nextId : t'.nextId = t.nextId
  limit : t'.limit = t.limit

namespace PrunedFrom

/-- A tree is pruned from itself. -/
theorem refl (t : TtyTree α) : t.PrunedFrom t :=
  ⟨fun h => h, fun _ => rfl, rfl, rfl⟩

/-- A tree that is pruned twice is pruned. -/
theorem trans (h : t''.PrunedFrom t') (h' : t'.PrunedFrom t) : t''.PrunedFrom t :=
  ⟨fun hx => h'.find? (h.find? hx), fun x => (h.clients x).trans (h'.clients x),
    h.nextId.trans h'.nextId, h.limit.trans h'.limit⟩

/-- A tty in which nobody sits may be taken away. -/
theorem unlink (h : t.clientsOf id = []) : (t.unlink id).PrunedFrom t where
  find? {x n} hx := by
    rw [find?_unlink] at hx
    split at hx
    · cases hx
    · exact hx
  clients := clientsOf_unlink h
  nextId := rfl
  limit := rfl

/-- Clearing prunes a tree. -/
theorem collect (t : TtyTree α) (id : TtyId) : (t.collect id).1.PrunedFrom t := by
  refine collect_induction (motive := fun t _ r => r.1.PrunedFrom t) ?_ ?_ ?_ t id
  · exact fun t id _ => refl t
  · exact fun t id k _ hc _ _ => unlink hc
  · exact fun t id p k r _ hc _ _ hr => hr.trans (unlink hc)

/-- A client may get up before or after the pruning. -/
theorem detach [DecidableEq α] (h : t'.PrunedFrom t) (id : TtyId) (c : α) :
    (t'.detach id c).PrunedFrom (t.detach id c) where
  find? {x n} hx := by
    rw [TtyTree.detach, find?_adjust] at hx ⊢
    obtain ⟨m, hm, rfl⟩ := Option.map_eq_some_iff.1 hx
    rw [h.find? hm]
    rfl
  clients x := by simp only [clientsOf_detach, h.clients]
  nextId := h.nextId
  limit := h.limit

/-- What is left by pruning has the link that it had. -/
theorem link? {l : Option TtyId × UInt32} (h : t'.PrunedFrom t) (hx : t'.link? x = some l) :
    t.link? x = some l := by
  obtain ⟨n, hn, rfl⟩ := Option.map_eq_some_iff.1 hx
  exact link?_of_find? (h.find? hn)

/-- Of two sound prunings, the second has every tty that the first has: a tty is of use for a
client, who is in both, or for a tty below it. -/
theorem live_of_live (h : t'.PrunedFrom t) (h' : t''.PrunedFrom t) (hs : t'.Sound)
    (hs' : t''.Sound) (hx : t'.live x) : t''.live x := by
  -- ids grow downwards and stay below the next one
  induction hv : t'.nextId - x.val using Nat.strongRecOn generalizing x with
  | ind v ih =>
    by_cases hperm : permanent x = true
    · simp only [permanent, Bool.or_eq_true, beq_iff_eq] at hperm
      rcases hperm with rfl | rfl
      · exact hs'.live_root
      · exact hs'.live_lobby
    · have hperm : permanent x = false := by simpa using hperm
      have hroot := (permanent_eq_false_iff.1 hperm).1
      rcases hs.used hx hperm hroot with hclients | ⟨d, k, hlink⟩
      · rw [h.clients, ← h'.clients] at hclients
        obtain ⟨e, he⟩ := List.exists_mem_of_ne_nil _ hclients
        exact live_of_mem_clientsOf he
      · have hd := live_of_link? hlink
        have hlt := lt_of_link? hlink
        have hnext := lt_nextId_of_live hd
        obtain ⟨l, hl⟩ := live_iff.1 (ih (t'.nextId - d.val) (by omega) hd rfl)
        -- the tty below hangs in both where it hung before
        have hsame : l = (some x, k) :=
          Option.some.inj ((h'.link? hl).symm.trans (h.link? hlink))
        exact (hs'.parent (hsame ▸ hl)).1

/-- There is at most one sound pruning of a tree. -/
theorem unique (h : t'.PrunedFrom t) (h' : t''.PrunedFrom t) (hs : t'.Sound) (hs' : t''.Sound) :
    t' = t'' := by
  have hfind : ∀ x, t'.find? x = t''.find? x := by
    intro x
    cases hx : t'.find? x with
    | none =>
      have hnot : ¬ t''.live x := fun hl => by
        simpa [live, hx] using live_of_live h' h hs' hs hl
      exact (find?_eq_none_of_not_live (by simpa using hnot)).symm
    | some n =>
      have hl : t'.live x := by simp [live, hx]
      obtain ⟨m, hm⟩ := Option.isSome_iff_exists.1 (live_of_live h h' hs hs' hl)
      rw [hm, ← h.find? hx, ← h'.find? hm]
  have httys := hs.ordered.ttys_eq hs'.ordered hfind
  have hnext := h.nextId.trans h'.nextId.symm
  have hlimit := h.limit.trans h'.limit.symm
  cases t'
  cases t''
  simp_all

end PrunedFrom

/-! ### Leaving -/

section leaving

variable [DecidableEq α]

/-- A client leaves the tree, and what is of no use any more is cleared away. -/
def vacate (t : TtyTree α) (id : TtyId) (c : α) : TtyTree α :=
  ((t.detach id c).collect id).1

/-- A tree stays sound when a client leaves it and it is cleared. -/
theorem vacate_sound (h : t.Sound) (id : TtyId) (c : α) : (t.vacate id c).Sound :=
  (h.detach id c).collect

/-- Two clients may be let out in either order. -/
theorem detach_comm (t : TtyTree α) (a b : TtyId) (c d : α) :
    (t.detach a c).detach b d = (t.detach b d).detach a c := by
  by_cases hab : a = b
  · subst hab
    simp only [detach, adjust, TtyTree.mk.injEq, and_true, List.map_map]
    refine List.map_congr_left fun n _ => ?_
    by_cases ha : n.id = a <;> simp [ha, List.filter_filter, Bool.and_comm]
  · exact adjust_comm t hab _ _ _ _

/-- Two who leave one after the other leave what is left when both have got up. -/
theorem vacate_vacate_pruned (t : TtyTree α) (a b : TtyId) (c d : α) :
    ((t.vacate a c).vacate b d).PrunedFrom ((t.detach a c).detach b d) :=
  (PrunedFrom.collect _ b).trans ((PrunedFrom.collect _ a).detach b d)

/-- Two may leave in either order. -/
theorem vacate_comm (h : t.Sound) (a b : TtyId) (c d : α) :
    (t.vacate a c).vacate b d = (t.vacate b d).vacate a c := by
  have hfirst := vacate_vacate_pruned t a b c d
  have hsecond := vacate_vacate_pruned t b a d c
  rw [detach_comm] at hsecond
  exact hfirst.unique hsecond (vacate_sound (vacate_sound h a c) b d)
    (vacate_sound (vacate_sound h b d) a c)

end leaving

/-- Where nobody sits, only the permanent ttys are left. -/
theorem ids_of_deserted (h : t.Sound) (hnone : ∀ x, t.clientsOf x = []) :
    t.ttys.map (·.id) = [root, lobby] := by
  refine eq_of_ascending (f := TtyId.val) (List.pairwise_map.2 h.ordered)
    (by simp [root, lobby]) fun x => ?_
  rw [← live_iff_mem_ids]
  constructor
  · intro hx
    by_contra hperm
    have hperm : permanent x = false := by simpa [permanent] using hperm
    obtain ⟨d, hd, -, -⟩ := h.exists_client_below hx hperm
    exact hd (hnone d)
  · intro hx
    simp only [List.mem_cons, List.not_mem_nil, or_false] at hx
    rcases hx with rfl | rfl
    · exact h.live_root
    · exact h.live_lobby

end BrailleShare.TtyTree
