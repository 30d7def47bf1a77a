import BrailleShare.RangeSet
import Mathlib.Data.List.Basic

/-!
# Range sets are sets

A list of ranges is *canonical* if each range has its lower end first and there is a gap between
neighbours. Then a search finds the only range that can hold a word.

Main statements: in a canonical list a word is found if some range holds it (`contains_iff`);
inserting and erasing a range keep a list canonical (`Canonical.insert`, `Canonical.erase`) and do
to its members what they should (`contains_insert`, `contains_erase`), so that it is known of a set
what it holds (`Represents.insert`, `Represents.erase`).
-/

namespace BrailleShare

namespace Span

variable {r x y : Span} {v : UInt32}

/-- To lie in a span is to lie between its ends. -/
theorem has_iff : r.Has v ↔ r.lo.toNat ≤ v.toNat ∧ v.toNat ≤ r.hi.toNat := by
  simp only [Has, UInt32.le_iff_toNat_le]

/-- Moving a bound up is no trouble below the greatest word. -/
theorem toNat_succ {a b : UInt32} (h : a < b) : (a + 1).toNat = a.toNat + 1 := by
  rw [UInt32.lt_iff_toNat_lt] at h
  have hb := b.toNat_lt
  rw [UInt32.toNat_add, UInt32.toNat_one]
  exact Nat.mod_eq_of_lt (by omega)

/-- Moving a bound down is no trouble above the least word. -/
theorem toNat_pred {a b : UInt32} (h : a < b) : (b - 1).toNat = b.toNat - 1 := by
  rw [UInt32.lt_iff_toNat_lt] at h
  have hb := b.toNat_lt
  have hone : (1 : UInt32) ≤ b := by
    rw [UInt32.le_iff_toNat_le, UInt32.toNat_one]
    omega
  rw [UInt32.toNat_sub_of_le _ _ hone, UInt32.toNat_one]

/-- A span ends before a value if there is one more value between them. -/
theorem endsBefore_iff : r.EndsBefore v ↔ r.hi.toNat + 1 < v.toNat := by
  unfold EndsBefore
  constructor
  · rintro ⟨hlt, hlt'⟩
    rwa [UInt32.lt_iff_toNat_lt, toNat_succ hlt] at hlt'
  · intro h
    have hlt : r.hi < v := UInt32.lt_iff_toNat_lt.2 (by omega)
    refine ⟨hlt, ?_⟩
    rwa [UInt32.lt_iff_toNat_lt, toNat_succ hlt]

/-- A span starts after a value if there is one more value between them. -/
theorem startsAfter_iff : r.StartsAfter v ↔ v.toNat + 1 < r.lo.toNat := by
  unfold StartsAfter
  constructor
  · rintro ⟨hlt, hlt'⟩
    rwa [UInt32.lt_iff_toNat_lt, toNat_succ hlt] at hlt'
  · intro h
    have hlt : v < r.lo := UInt32.lt_iff_toNat_lt.2 (by omega)
    refine ⟨hlt, ?_⟩
    rwa [UInt32.lt_iff_toNat_lt, toNat_succ hlt]

/-- There is a gap between the end of one range and the start of the next. -/
def Apart (x y : Span) : Prop :=
  x.hi.toNat + 1 < y.lo.toNat

/-- The lower end comes first. -/
def Ordered (r : Span) : Prop :=
  r.lo ≤ r.hi

instance (r : Span) : Decidable r.Ordered :=
  inferInstanceAs (Decidable (_ ≤ _))

/-- In numbers, the ends of a span are in order. -/
theorem Ordered.toNat_le (h : r.Ordered) : r.lo.toNat ≤ r.hi.toNat :=
  UInt32.le_iff_toNat_le.1 h

/-- The lesser of two words is the lesser number. -/
theorem toNat_min (a b : UInt32) : (min a b).toNat = min a.toNat b.toNat := by
  show (if a ≤ b then a else b).toNat = _
  simp only [UInt32.le_iff_toNat_le]
  split <;> omega

/-- The greater of two words is the greater number. -/
theorem toNat_max (a b : UInt32) : (max a b).toNat = max a.toNat b.toNat := by
  show (if a ≤ b then b else a).toNat = _
  simp only [UInt32.le_iff_toNat_le]
  split <;> omega

/-- The lesser of two words is one of them. -/
theorem min_cases (a b : UInt32) : min a b = a ∨ min a b = b := by
  show (if a ≤ b then a else b) = a ∨ (if a ≤ b then a else b) = b
  split
  · exact .inl rfl
  · exact .inr rfl

/-- Two ranges joined. -/
def join (r x : Span) : Span :=
  ⟨min r.lo x.lo, max r.hi x.hi⟩

/-- Two spans joined are a span again. -/
theorem Ordered.join (hr : r.Ordered) (hx : x.Ordered) : (r.join x).Ordered := by
  have hr := hr.toNat_le
  have hx := hx.toNat_le
  rw [Ordered, UInt32.le_iff_toNat_le, Span.join, toNat_min, toNat_max]
  omega

/-- Ranges that overlap or touch have nothing between them. -/
theorem has_join (hr : r.Ordered) (hx : x.Ordered) (hbefore : ¬ x.EndsBefore r.lo)
    (hafter : ¬ x.StartsAfter r.hi) : (r.join x).Has v ↔ r.Has v ∨ x.Has v := by
  have hr := hr.toNat_le
  have hx := hx.toNat_le
  rw [endsBefore_iff] at hbefore
  rw [startsAfter_iff] at hafter
  simp only [has_iff, join, toNat_min, toNat_max]
  omega

end Span

namespace RangeSet

variable {s : RangeSet} {r x y : Span} {xs : List Span} {v : UInt32}

/-! ### Canonical lists -/

/-- Each range has its lower end first, and there is a gap between neighbours. -/
structure Canonical (s : RangeSet) : Prop where
  ordered : ∀ x ∈ s.spans, x.Ordered
  apart : s.spans.Pairwise Span.Apart

/-- No span at all is canonical. -/
theorem canonical_empty : empty.Canonical :=
  ⟨by simp [empty], .nil⟩

/-- Of a canonical list the rest is canonical too. -/
theorem Canonical.tail (h : Canonical ⟨x :: xs⟩) : Canonical ⟨xs⟩ :=
  ⟨fun y hy => h.ordered y (List.mem_cons_of_mem x hy), h.apart.tail⟩

/-- Every later range starts after the first one ends. -/
theorem Canonical.head_apart (h : Canonical ⟨x :: xs⟩) (hy : y ∈ xs) : x.Apart y :=
  List.rel_of_pairwise_cons h.apart hy

/-- A word is found in a canonical list if some range holds it. -/
theorem contains_iff (h : s.Canonical) : s.contains v = true ↔ ∃ x ∈ s.spans, x.Has v := by
  obtain ⟨xs⟩ := s
  induction xs with
  | nil => simp [contains]
  | cons x xs ih =>
    have hrest := ih h.tail
    unfold contains at hrest ⊢
    by_cases hv : v ≤ x.hi
    · -- the search ends here, and every later range starts above the word
      have hlater : ∀ y ∈ xs, ¬ y.Has v := fun y hy hhas => by
        have hgap := h.head_apart hy
        rw [UInt32.le_iff_toNat_le] at hv
        rw [Span.has_iff] at hhas
        unfold Span.Apart at hgap
        omega
      simp only [List.find?_cons, hv, decide_true, decide_eq_true_eq, List.mem_cons]
      constructor
      · exact fun hlo => ⟨x, .inl rfl, hlo, hv⟩
      · rintro ⟨y, rfl | hy, hhas⟩
        · exact hhas.1
        · exact absurd hhas (hlater y hy)
    · have hnot : ¬ x.Has v := fun hhas => hv hhas.2
      simp only [List.find?_cons, hv, decide_false, List.mem_cons, exists_eq_or_imp, hnot, false_or]
      exact hrest

/-! ### Inserting -/

/-- A span is put where it belongs: after those that end before it, before those that start after
it, and joined with those it meets. -/
theorem insertSpan_cons (r x : Span) (xs : List Span) : insertSpan r (x :: xs) =
    if x.EndsBefore r.lo then x :: insertSpan r xs
    else if x.StartsAfter r.hi then r :: x :: xs
    else insertSpan (r.join x) xs :=
  rfl

/-- After a span has been put in, its values are there and those that were there before. -/
theorem exists_mem_insertSpan (hr : r.Ordered) (hxs : ∀ x ∈ xs, x.Ordered) :
    (∃ y ∈ insertSpan r xs, y.Has v) ↔ r.Has v ∨ ∃ x ∈ xs, x.Has v := by
  induction xs generalizing r with
  | nil => simp [insertSpan]
  | cons x xs ih =>
    have hx := hxs x List.mem_cons_self
    have hrest : ∀ y ∈ xs, y.Ordered := fun y hy => hxs y (List.mem_cons_of_mem x hy)
    rw [insertSpan_cons]
    split
    · simp only [List.mem_cons, exists_eq_or_imp, ih hr hrest]
      exact or_left_comm
    · split
      · simp only [List.mem_cons, exists_eq_or_imp]
      · rename_i hbefore hafter
        rw [ih (hr.join hx) hrest, Span.has_join hr hx hbefore hafter]
        simp only [List.mem_cons, exists_eq_or_imp, or_assoc]

/-- A range starts where the new one or an old one did. -/
theorem lo_of_mem_insertSpan (hy : y ∈ insertSpan r xs) : y.lo = r.lo ∨ ∃ x ∈ xs, y.lo = x.lo := by
  induction xs generalizing r with
  | nil =>
    rw [insertSpan, List.mem_singleton] at hy
    exact .inl (congrArg Span.lo hy)
  | cons x xs ih =>
    rw [insertSpan_cons] at hy
    split at hy
    · rcases List.mem_cons.1 hy with rfl | hy
      · exact .inr ⟨y, List.mem_cons_self, rfl⟩
      · exact (ih hy).imp_right fun ⟨z, hz, hlo⟩ => ⟨z, List.mem_cons_of_mem x hz, hlo⟩
    · split at hy
      · rcases List.mem_cons.1 hy with rfl | hy
        · exact .inl rfl
        · exact .inr ⟨y, hy, rfl⟩
      · rcases ih hy with hlo | ⟨z, hz, hlo⟩
        · rcases Span.min_cases r.lo x.lo with hmin | hmin
          · exact .inl (hlo.trans hmin)
          · exact .inr ⟨x, List.mem_cons_self, hlo.trans hmin⟩
        · exact .inr ⟨z, List.mem_cons_of_mem x hz, hlo⟩

/-- Spans stay apart and in order when one is put in. -/
theorem canonical_insertSpan (hr : r.Ordered) (h : Canonical ⟨xs⟩) :
    Canonical ⟨insertSpan r xs⟩ := by
  induction xs generalizing r with
  | nil => exact ⟨by simpa [insertSpan] using hr, by simp [insertSpan]⟩
  | cons x xs ih =>
    have hx := h.ordered x List.mem_cons_self
    rw [insertSpan_cons]
    split
    · rename_i hbefore
      have hrest := ih hr h.tail
      rw [Span.endsBefore_iff] at hbefore
      refine ⟨List.forall_mem_cons.2 ⟨hx, hrest.ordered⟩, List.pairwise_cons.2 ⟨?_, hrest.apart⟩⟩
      intro y hy
      -- whatever follows begins where the new one does or where an old one did
      rcases lo_of_mem_insertSpan hy with hlo | ⟨z, hz, hlo⟩
      · rwa [Span.Apart, hlo]
      · rw [Span.Apart, hlo]
        exact h.head_apart hz
    · split
      · rename_i hafter
        rw [Span.startsAfter_iff] at hafter
        refine ⟨List.forall_mem_cons.2 ⟨hr, h.ordered⟩, List.pairwise_cons.2 ⟨?_, h.apart⟩⟩
        intro y hy
        rcases List.mem_cons.1 hy with rfl | hy
        · exact hafter
        · have hgap := h.head_apart hy
          have hle := hx.toNat_le
          unfold Span.Apart at hgap ⊢
          omega
      · exact ih (hr.join hx) h.tail

/-- A set stays canonical when a span is added. -/
theorem Canonical.insert (h : s.Canonical) (hr : r.Ordered) : (s.insert r).Canonical :=
  canonical_insertSpan hr h

/-- Adding a span adds its values and no others. -/
theorem contains_insert (h : s.Canonical) (hr : r.Ordered) :
    (s.insert r).contains v = true ↔ r.Has v ∨ s.contains v = true := by
  rw [contains_iff (h.insert hr), contains_iff h]
  exact exists_mem_insertSpan hr h.ordered

/-! ### Erasing -/

/-- There is left what lies below and what lies above. -/
theorem mem_residue {lo hi : UInt32} : y ∈ residue lo hi x ↔
    (x.lo < lo ∧ y = ⟨x.lo, min x.hi (lo - 1)⟩) ∨ (hi < x.hi ∧ y = ⟨max x.lo (hi + 1), x.hi⟩) := by
  simp only [residue, List.mem_append]
  split <;> split <;> simp [*]

/-- What is left of a range lies within it, in order. -/
theorem bounds_of_mem_residue {lo hi : UInt32} (hx : x.Ordered) (hy : y ∈ residue lo hi x) :
    x.lo.toNat ≤ y.lo.toNat ∧ y.lo.toNat ≤ y.hi.toNat ∧ y.hi.toNat ≤ x.hi.toNat := by
  have hle := hx.toNat_le
  rcases mem_residue.1 hy with ⟨hlt, rfl⟩ | ⟨hlt, rfl⟩
  · simp only [Span.toNat_min, Span.toNat_pred hlt]
    rw [UInt32.lt_iff_toNat_lt] at hlt
    omega
  · simp only [Span.toNat_max, Span.toNat_succ hlt]
    rw [UInt32.lt_iff_toNat_lt] at hlt
    omega

/-- Of a range there is left what lies outside the range that is erased. -/
theorem exists_mem_residue {lo hi : UInt32} :
    (∃ y ∈ residue lo hi x, y.Has v) ↔ x.Has v ∧ ¬ (Span.mk lo hi).Has v := by
  simp only [mem_residue, Span.has_iff]
  constructor
  · rintro ⟨y, ⟨hlt, rfl⟩ | ⟨hlt, rfl⟩, hhas⟩
    · simp only [Span.toNat_min, Span.toNat_pred hlt] at hhas
      rw [UInt32.lt_iff_toNat_lt] at hlt
      omega
    · simp only [Span.toNat_max, Span.toNat_succ hlt] at hhas
      rw [UInt32.lt_iff_toNat_lt] at hlt
      omega
  · rintro ⟨hhas, hout⟩
    by_cases hbelow : v.toNat < lo.toNat
    · have hlt : x.lo < lo := UInt32.lt_iff_toNat_lt.2 (by omega)
      refine ⟨_, .inl ⟨hlt, rfl⟩, ?_⟩
      simp only [Span.toNat_min, Span.toNat_pred hlt]
      omega
    · have hlt : hi < x.hi := UInt32.lt_iff_toNat_lt.2 (by omega)
      refine ⟨_, .inr ⟨hlt, rfl⟩, ?_⟩
      simp only [Span.toNat_max, Span.toNat_succ hlt]
      omega

/-- The two pieces that are left of a range are apart. -/
theorem apart_residue {lo hi : UInt32} (h : lo ≤ hi) (x : Span) :
    (residue lo hi x).Pairwise Span.Apart := by
  unfold residue
  split
  · rename_i hbelow
    split
    · rename_i habove
      have hpred := Span.toNat_pred hbelow
      have hsucc := Span.toNat_succ habove
      rw [UInt32.le_iff_toNat_le] at h
      rw [UInt32.lt_iff_toNat_lt] at hbelow
      refine List.pairwise_pair.2 ?_
      simp only [Span.Apart, Span.toNat_min, Span.toNat_max, hpred, hsucc]
      omega
    · exact List.pairwise_singleton ..
  · split
    · exact List.pairwise_singleton ..
    · exact .nil

/-- A set stays canonical when a span is taken away. -/
theorem Canonical.erase (h : s.Canonical) (hr : r.Ordered) : (s.erase r).Canonical := by
  constructor
  · intro y hy
    obtain ⟨x, hx, hy⟩ := List.mem_flatMap.1 hy
    exact UInt32.le_iff_toNat_le.2 (bounds_of_mem_residue (h.ordered x hx) hy).2.1
  · refine List.pairwise_flatMap.2 ⟨fun x _ => apart_residue hr x, ?_⟩
    refine h.apart.imp_of_mem fun {x x'} hx hx' hgap y hy y' hy' => ?_
    have hbelow := bounds_of_mem_residue (h.ordered x hx) hy
    have habove := bounds_of_mem_residue (h.ordered x' hx') hy'
    unfold Span.Apart at hgap ⊢
    omega

/-- Taking a span away takes its values and no others. -/
theorem contains_erase (h : s.Canonical) (hr : r.Ordered) :
    (s.erase r).contains v = true ↔ s.contains v = true ∧ ¬ r.Has v := by
  rw [contains_iff (h.erase hr), contains_iff h]
  simp only [RangeSet.erase, eraseSpan, List.mem_flatMap]
  constructor
  · rintro ⟨y, ⟨x, hx, hy⟩, hhas⟩
    obtain ⟨hxv, hout⟩ := exists_mem_residue.1 ⟨y, hy, hhas⟩
    exact ⟨⟨x, hx, hxv⟩, hout⟩
  · rintro ⟨⟨x, hx, hxv⟩, hout⟩
    obtain ⟨y, hy, hhas⟩ := exists_mem_residue.2 ⟨hxv, hout⟩
    exact ⟨y, ⟨x, hx, hy⟩, hhas⟩

/-! ### What a set holds -/

/-- A canonical list that holds the words with a property. -/
structure Represents (s : RangeSet) (P : UInt32 → Prop) : Prop where
  canonical : s.Canonical
  contains_iff : ∀ v, s.contains v = true ↔ P v

namespace Represents

variable {P Q : UInt32 → Prop}

/-- The empty set has no values. -/
theorem empty : RangeSet.empty.Represents fun _ => False :=
  ⟨canonical_empty, fun v => by simp [RangeSet.empty, contains]⟩

/-- A set that has such values has the values of any other such description. -/
theorem congr (h : s.Represents P) (hPQ : ∀ v, P v ↔ Q v) : s.Represents Q :=
  ⟨h.canonical, fun v => (h.contains_iff v).trans (hPQ v)⟩

/-- After a span is added, its values are there too. -/
theorem insert (h : s.Represents P) (hr : r.Ordered) :
    (s.insert r).Represents fun v => r.Has v ∨ P v :=
  ⟨h.canonical.insert hr, fun v => by rw [contains_insert h.canonical hr, h.contains_iff]⟩

/-- After a span is taken away, its values are gone. -/
theorem erase (h : s.Represents P) (hr : r.Ordered) :
    (s.erase r).Represents fun v => P v ∧ ¬ r.Has v :=
  ⟨h.canonical.erase hr, fun v => by rw [contains_erase h.canonical hr, h.contains_iff]⟩

end Represents

end RangeSet

end BrailleShare
