import BrailleShare.Proofs.RangeSet.Calls

/-!
# One list for each set

In a canonical list the ranges are the longest runs of members: what comes right before or right
after a range is no member. So the members tell the ranges, and it does not show in a set how it was
made, whether ranges were joined at once or piece by piece, or were split and bridged again.

Main statements: canonical lists with the same members are the same (`Canonical.spans_unique`), so
that what is known of the members of two sets decides whether they are equal (`Represents.unique`);
two calls may change places if and only if they agree about the words that both affect
(`Call.after_comm_iff`); all this for whatever is made of the empty set (`members_tell_ranges`).
-/

namespace BrailleShare.RangeSet

variable {s t : RangeSet} {x y : Span} {xs ys : List Span} {v : UInt32} {P Q : UInt32 → Prop}

/-! ### Members tell the ranges -/

/-- No member lies below the first range. -/
theorem Canonical.lo_le_of_has (h : Canonical ⟨x :: xs⟩) (hy : y ∈ x :: xs) (hv : y.Has v) :
    x.lo ≤ v := by
  rcases List.mem_cons.1 hy with rfl | hy
  · exact hv.1
  · have hgap := h.head_apart hy
    have hle := (h.ordered x List.mem_cons_self).toNat_le
    unfold Span.Apart at hgap
    rw [Span.has_iff] at hv
    rw [UInt32.le_iff_toNat_le]
    omega

/-- Between the end of the first range and any member of a later one a word is absent. -/
theorem Canonical.succ_lt_of_has (h : Canonical ⟨x :: xs⟩) (hy : y ∈ xs) (hv : y.Has v) :
    x.hi.toNat + 1 < v.toNat := by
  have hgap := h.head_apart hy
  unfold Span.Apart at hgap
  rw [Span.has_iff] at hv
  omega

/-- A first range reaches as far as another with the same lower end if it is one of a list that
has all the members of the other's. -/
theorem Canonical.hi_le_of_subset (h : Canonical ⟨x :: xs⟩) (hlo : x.lo = y.lo)
    (hsub : ∀ v, (∃ z ∈ y :: ys, z.Has v) → ∃ z ∈ x :: xs, z.Has v) :
    y.hi ≤ x.hi := by
  refine UInt32.not_lt.1 fun hlt => ?_
  have hsucc := Span.toNat_succ hlt
  have hx := (h.ordered x List.mem_cons_self).toNat_le
  rw [UInt32.lt_iff_toNat_lt] at hlt
  -- the word right after the shorter range is a member of the longer one
  have hmember : y.Has (x.hi + 1) := by
    rw [Span.has_iff, hsucc, ← hlo]
    omega
  obtain ⟨z, hz, hhas⟩ := hsub _ ⟨y, List.mem_cons_self, hmember⟩
  rcases List.mem_cons.1 hz with rfl | hz
  · rw [Span.has_iff, hsucc] at hhas
    omega
  · have hgap := h.succ_lt_of_has hz hhas
    omega

/-- Lists with the same members begin with the same range. -/
theorem Canonical.head_unique (h : Canonical ⟨x :: xs⟩) (h' : Canonical ⟨y :: ys⟩)
    (hsame : ∀ v, (∃ z ∈ x :: xs, z.Has v) ↔ ∃ z ∈ y :: ys, z.Has v) : x = y := by
  have hlow : x.Has x.lo := ⟨UInt32.le_refl _, h.ordered x List.mem_cons_self⟩
  have hlow' : y.Has y.lo := ⟨UInt32.le_refl _, h'.ordered y List.mem_cons_self⟩
  obtain ⟨z, hz, hhas⟩ := (hsame _).1 ⟨x, List.mem_cons_self, hlow⟩
  obtain ⟨z', hz', hhas'⟩ := (hsame _).2 ⟨y, List.mem_cons_self, hlow'⟩
  have hlo : x.lo = y.lo :=
    UInt32.le_antisymm (h.lo_le_of_has hz' hhas') (h'.lo_le_of_has hz hhas)
  have hhi : x.hi = y.hi :=
    UInt32.le_antisymm (h'.hi_le_of_subset hlo.symm fun v => (hsame v).1)
      (h.hi_le_of_subset hlo fun v => (hsame v).2)
  cases x
  cases y
  simp_all

/-- Behind the first range the members are those above it. -/
theorem Canonical.exists_tail_iff (h : Canonical ⟨x :: xs⟩) :
    (∃ z ∈ xs, z.Has v) ↔ x.hi < v ∧ ∃ z ∈ x :: xs, z.Has v := by
  constructor
  · rintro ⟨z, hz, hhas⟩
    have hgap := h.succ_lt_of_has hz hhas
    refine ⟨?_, z, List.mem_cons_of_mem x hz, hhas⟩
    rw [UInt32.lt_iff_toNat_lt]
    omega
  · rintro ⟨hlt, z, hz, hhas⟩
    rcases List.mem_cons.1 hz with rfl | hz
    · exact absurd hlt (UInt32.not_lt.2 hhas.2)
    · exact ⟨z, hz, hhas⟩

/-- Canonical lists with the same members are the same. -/
theorem Canonical.spans_unique (h : Canonical ⟨xs⟩) (h' : Canonical ⟨ys⟩)
    (hsame : ∀ v, (∃ z ∈ xs, z.Has v) ↔ ∃ z ∈ ys, z.Has v) : xs = ys := by
  induction xs generalizing ys with
  | nil =>
    cases ys with
    | nil => rfl
    | cons y ys =>
      have hlow : y.Has y.lo := ⟨UInt32.le_refl _, h'.ordered y List.mem_cons_self⟩
      obtain ⟨z, hz, -⟩ := (hsame _).2 ⟨y, List.mem_cons_self, hlow⟩
      cases hz
  | cons x xs ih =>
    cases ys with
    | nil =>
      have hlow : x.Has x.lo := ⟨UInt32.le_refl _, h.ordered x List.mem_cons_self⟩
      obtain ⟨z, hz, -⟩ := (hsame _).1 ⟨x, List.mem_cons_self, hlow⟩
      cases hz
    | cons y ys =>
      obtain rfl := h.head_unique h' hsame
      have htail : ∀ v, (∃ z ∈ xs, z.Has v) ↔ ∃ z ∈ ys, z.Has v := fun v => by
        rw [h.exists_tail_iff, h'.exists_tail_iff, hsame v]
      rw [ih h.tail h'.tail htail]

/-- Sets that hold the same words are equal. -/
theorem Represents.unique (h : s.Represents P) (h' : t.Represents Q) (hPQ : ∀ v, P v ↔ Q v) :
    s = t := by
  have hsame : ∀ v, (∃ z ∈ s.spans, z.Has v) ↔ ∃ z ∈ t.spans, z.Has v := fun v => by
    rw [← RangeSet.contains_iff h.canonical, ← RangeSet.contains_iff h'.canonical, h.contains_iff,
      h'.contains_iff, hPQ v]
  obtain ⟨xs⟩ := s
  obtain ⟨ys⟩ := t
  rw [h.canonical.spans_unique h'.canonical hsame]

/-- A canonical list holds the words that are found in it. -/
theorem Canonical.represents (h : s.Canonical) : s.Represents fun v => s.contains v = true :=
  ⟨h, fun _ => Iff.rfl⟩

/-- A set is the empty one if no word is found in it. -/
theorem Canonical.isEmpty_iff (h : s.Canonical) :
    s.isEmpty = true ↔ ∀ v, s.contains v = false := by
  constructor
  · intro hs v
    obtain ⟨xs⟩ := s
    obtain rfl : xs = [] := List.isEmpty_iff.1 hs
    rfl
  · intro hnone
    rw [h.represents.unique Represents.empty fun v => by simp [hnone v]]
    rfl

/-! ### Calls that change places -/

namespace Call

variable {c d : Call}

/-- No word is made a member by one call and taken out by the other. -/
def Agree (c d : Call) : Prop :=
  ∀ v, c.Affects v → d.Affects v → (c.Adds ↔ d.Adds)

/-- A call that removes a range adds nothing. -/
theorem not_adds_remove (lo hi : UInt32) : ¬ (remove lo hi).Adds := by
  rintro ⟨a, b, h⟩
  cases h

/-- Two calls may change places if and only if they agree. -/
theorem after_comm_iff (h : s.Canonical) :
    d.after (c.after s) = c.after (d.after s) ↔ c.Agree d := by
  have hfirst := d.represents_after (c.represents_after h.represents)
  have hsecond := c.represents_after (d.represents_after h.represents)
  constructor
  · intro heq v hc hd
    have hv := hfirst.contains_iff v
    rw [heq, hsecond.contains_iff v, if_pos hc, if_pos hd] at hv
    exact hv
  · intro hagree
    refine hfirst.unique hsecond fun v => ?_
    by_cases hc : c.Affects v <;> by_cases hd : d.Affects v
    · rw [if_pos hd, if_pos hc]
      exact (hagree v hc hd).symm
    · rw [if_neg hd, if_pos hc, if_pos hc]
    · rw [if_pos hd, if_neg hc, if_pos hd]
    · rw [if_neg hd, if_neg hc, if_neg hc, if_neg hd]

/-- A call that is made again makes no difference. -/
theorem after_idem (h : s.Canonical) (c : Call) : c.after (c.after s) = c.after s := by
  have hfirst := c.represents_after h.represents
  refine (c.represents_after hfirst).unique hfirst fun v => ?_
  by_cases hc : c.Affects v
  · rw [if_pos hc, if_pos hc]
  · rw [if_neg hc]

end Call

/-! ### Main result -/

/-- Two more calls are made one after the other. -/
theorem made_pair (calls : List Call) (c d : Call) :
    made (calls ++ [c, d]) = d.after (c.after (made calls)) := by
  rw [List.append_cons, made_concat, made_concat]

/-- What the members of two sets that were made by calls tell of their ranges, and of further
calls. -/
structure TellRanges (calls others : List Call) : Prop where
  /-- The same members come with the same list of ranges. -/
  same : (∀ v, (made calls).contains v = true ↔ (made others).contains v = true) →
    (made calls).spans = (made others).spans
  /-- Sets are equal if they have the same members. -/
  eq_iff : made calls = made others ↔ ∀ v, (made calls).contains v = (made others).contains v
  isEmpty_iff : (made calls).isEmpty = true ↔ ∀ v, (made calls).contains v = false
  adds_comm : ∀ a b lo hi, made (calls ++ [.add a b, .add lo hi]) =
    made (calls ++ [.add lo hi, .add a b])
  add_again : ∀ lo hi, made (calls ++ [.add lo hi, .add lo hi]) = made (calls ++ [.add lo hi])
  removes_comm : ∀ a b lo hi, made (calls ++ [.remove a b, .remove lo hi]) =
    made (calls ++ [.remove lo hi, .remove a b])
  remove_again : ∀ lo hi,
    made (calls ++ [.remove lo hi, .remove lo hi]) = made (calls ++ [.remove lo hi])
  /-- A range may be added before or after another is removed that has no word of it. -/
  add_remove_comm : ∀ a b lo hi, (∀ v, ¬ ((a ≤ v ∧ v ≤ b) ∧ lo ≤ v ∧ v ≤ hi)) →
    made (calls ++ [.add a b, .remove lo hi]) = made (calls ++ [.remove lo hi, .add a b])

/-- However two sets were made, they are equal if they have the same members; and the ranges do not
show in which order calls were made that do not contradict each other, or how often. -/
theorem members_tell_ranges (calls others : List Call) : TellRanges calls others := by
  have hmade := (represents_made calls).canonical
  have hothers := (represents_made others).canonical
  have hcomm : ∀ c d : Call, c.Agree d → made (calls ++ [c, d]) = made (calls ++ [d, c]) := by
    intro c d hagree
    rw [made_pair, made_pair]
    exact (Call.after_comm_iff hmade).2 hagree
  have hagain : ∀ c : Call, made (calls ++ [c, c]) = made (calls ++ [c]) := fun c => by
    rw [made_pair, made_concat, Call.after_idem hmade]
  constructor
  case same => exact fun hsame => congrArg spans (hmade.represents.unique hothers.represents hsame)
  case eq_iff =>
    constructor
    · exact fun heq v => by rw [heq]
    · exact fun hsame => hmade.represents.unique hothers.represents fun v => by rw [hsame v]
  case isEmpty_iff => exact hmade.isEmpty_iff
  case adds_comm =>
    exact fun a b lo hi => hcomm _ _ fun _ _ _ => iff_of_true ⟨a, b, rfl⟩ ⟨lo, hi, rfl⟩
  case add_again => exact fun lo hi => hagain _
  case removes_comm =>
    exact fun a b lo hi => hcomm _ _ fun _ _ _ =>
      iff_of_false (Call.not_adds_remove a b) (Call.not_adds_remove lo hi)
  case remove_again => exact fun lo hi => hagain _
  case add_remove_comm =>
    exact fun a b lo hi hdisjoint => hcomm _ _ fun v hadd hremove =>
      absurd ⟨hadd, hremove⟩ (hdisjoint v)

/-- A range with a hole that is filled from both sides is the range again. -/
example :
    made [.add 1 9, .remove 4 7, .add 7 7, .add 4 4, .add 5 6] = made [.add 5 9, .add 1 4] := by
  decide

end BrailleShare.RangeSet
