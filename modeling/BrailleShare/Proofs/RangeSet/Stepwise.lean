import BrailleShare.Proofs.RangeSet
import BrailleShare.Proofs.Window.Bounds

/-!
# Range sets step by step

Ranges are inserted, erased and looked up by functions on lists, and bounds are moved where there is
room. A machine looks for the place in question by halving, works from there on until a range lies
beyond the one in question, and has no answer where a bound moves out of the words. This file says
what such a machine does, and that on canonical lists it comes to the same.

Main statements: halving finds where the ranges that end early stop (`partitionPoint_eq`), so that
a word is found by it (`Canonical.search_eq`); inserting and erasing step by step go well and give
what they should (`Canonical.insert?_eq`, `Canonical.erase?_eq`).
-/

namespace BrailleShare

/-! ### Words with a neighbour -/

namespace Word

variable {a b : UInt32}

/-- The word after this one, if there is one. -/
def next? (a : UInt32) : Option UInt32 :=
  if a.toNat + 1 < UInt32.size then some (a + 1) else none

/-- The word before this one, if there is one. -/
def previous? (a : UInt32) : Option UInt32 :=
  if 0 < a.toNat then some (a - 1) else none

/-- The word before this one, or the least word if there is none. -/
def below (a : UInt32) : UInt32 :=
  (previous? a).getD 0

/-- Below another value there is room for the next one. -/
theorem next?_of_lt (h : a < b) : next? a = some (a + 1) := by
  rw [UInt32.lt_iff_toNat_lt] at h
  have hb := b.toNat_lt
  exact if_pos (Nat.lt_of_le_of_lt h hb)

/-- Above another value there is room for the one before. -/
theorem previous?_of_lt (h : a < b) : previous? b = some (b - 1) := by
  rw [UInt32.lt_iff_toNat_lt] at h
  exact if_pos (Nat.zero_lt_of_lt h)

/-- The value below is one less, or nothing at all below the least. -/
theorem toNat_below (a : UInt32) : (below a).toNat = a.toNat - 1 := by
  by_cases ha : (0 : UInt32) < a
  · rw [below, previous?_of_lt ha, Option.getD_some, Span.toNat_pred ha]
  · rw [UInt32.lt_iff_toNat_lt, UInt32.toNat_zero] at ha
    rw [below, previous?, if_neg ha, Option.getD_none, UInt32.toNat_zero]
    omega

/-- As a size of 64 bits every word has a successor. -/
theorem add?_one (a : UInt32) : Size.add? a.toNat 1 = some (a.toNat + 1) := by
  have ha := a.toNat_lt
  exact if_pos (by unfold Size.limit; omega)

end Word

namespace RangeSet

variable {s : RangeSet} {r x y : Span} {xs front back : List Span} {v w : UInt32}

/-! ### Halving -/

section Halving

variable {α : Type} {p : α → Bool}

/-- Where in a list the entries with a property stop, between two places: the middle entry tells in
which half that is. -/
def partitionPoint (p : α → Bool) (xs : List α) (lo hi : Nat) (hlen : hi ≤ xs.length) : Nat :=
  if h : lo < hi then
    have : lo + (hi - lo) / 2 < xs.length := by omega
    if p xs[lo + (hi - lo) / 2] then partitionPoint p xs (lo + (hi - lo) / 2 + 1) hi hlen
    else partitionPoint p xs lo (lo + (hi - lo) / 2) (by omega)
  else lo
  termination_by hi - lo

/-- The search finds the only place that has the property before it and none behind it. -/
theorem partitionPoint_eq {front back : List α} (hfront : ∀ x ∈ front, p x = true)
    (hback : ∀ x ∈ back, p x = false) {lo hi : Nat} (hlen : hi ≤ (front ++ back).length)
    (hlo : lo ≤ front.length) (hhi : front.length ≤ hi) :
    partitionPoint p (front ++ back) lo hi hlen = front.length := by
  fun_induction partitionPoint p (front ++ back) lo hi hlen with
  | case1 lo hi hlen hlt hmid hp ih =>
    refine ih (Nat.succ_le_of_lt (Nat.lt_of_not_le fun hle => ?_)) hhi
    rw [List.getElem_append_right hle, hback _ (List.getElem_mem _)] at hp
    cases hp
  | case2 lo hi hlen hlt hmid hp ih =>
    refine ih hlo (Nat.le_of_not_lt fun hlt => hp ?_)
    rw [List.getElem_append_left hlt]
    exact hfront _ (List.getElem_mem _)
  | case3 lo hi hlen hnot => omega

end Halving

/-- Where the ranges stop that end before a word. -/
def place (xs : List Span) (w : UInt32) : Nat :=
  partitionPoint (fun x => decide (x.hi < w)) xs 0 xs.length xs.length.le_refl

/-- In a canonical list the ranges that end before a word stand in front of the others. -/
theorem Canonical.exists_split (h : Canonical ⟨xs⟩) (w : UInt32) :
    ∃ front back, xs = front ++ back ∧ (∀ x ∈ front, x.hi < w) ∧ ∀ x ∈ back, ¬ x.hi < w := by
  induction xs with
  | nil => exact ⟨[], [], rfl, by simp, by simp⟩
  | cons x xs ih =>
    by_cases hx : x.hi < w
    · obtain ⟨front, back, rfl, hfront, hback⟩ := ih h.tail
      exact ⟨x :: front, back, rfl, List.forall_mem_cons.2 ⟨hx, hfront⟩, hback⟩
    · refine ⟨[], x :: xs, rfl, by simp, List.forall_mem_cons.2 ⟨hx, fun y hy => ?_⟩⟩
      have hgap := h.head_apart hy
      have hle := (h.ordered y (List.mem_cons_of_mem x hy)).toNat_le
      unfold Span.Apart at hgap
      rw [UInt32.lt_iff_toNat_lt] at hx ⊢
      omega

/-- Of a canonical list what stands from a place on is canonical too. -/
theorem Canonical.right (h : Canonical ⟨front ++ back⟩) : Canonical ⟨back⟩ :=
  ⟨fun x hx => h.ordered x (List.mem_append_right front hx), (List.pairwise_append.1 h.apart).2.1⟩

/-- The place of a value is after all spans that end before it. -/
theorem place_append (hfront : ∀ x ∈ front, x.hi < w) (hback : ∀ x ∈ back, ¬ x.hi < w) :
    place (front ++ back) w = front.length := by
  apply partitionPoint_eq _ _ _ (Nat.zero_le _) (by simp)
  · intro x hx
    exact decide_eq_true (hfront x hx)
  · intro x hx
    exact decide_eq_false (hback x hx)

/-! ### Looking up -/

/-- Whether a word is a member: by halving there is found the first range that does not end below
it. -/
def search (s : RangeSet) (v : UInt32) : Bool :=
  match s.spans[place s.spans v]? with
  | some x => decide (x.lo ≤ v)
  | none => false

/-- Searching by halves finds what reading from the front finds. -/
theorem Canonical.search_eq (h : s.Canonical) (v : UInt32) : s.search v = s.contains v := by
  obtain ⟨xs⟩ := s
  obtain ⟨front, back, rfl, hfront, hback⟩ := h.exists_split v
  have hplace : (front ++ back)[place (front ++ back) v]? = back.head? := by
    rw [place_append hfront hback, List.getElem?_append_right front.length.le_refl,
      Nat.sub_self, List.head?_eq_getElem?]
  have hfind : (front ++ back).find? (fun x => decide (v ≤ x.hi)) = back.head? := by
    have hnone : front.find? (fun x => decide (v ≤ x.hi)) = none := by
      apply List.find?_eq_none.2
      intro x hx
      simpa using hfront x hx
    rw [List.find?_append, hnone, Option.none_or]
    cases back with
    | nil => rfl
    | cons x back =>
      apply List.find?_cons_of_pos
      simpa using hback x List.mem_cons_self
  cases hfirst : back.head? with
  | none => simp only [search, contains, hplace, hfind, hfirst]
  | some x => simp only [search, contains, hplace, hfind, hfirst]

/-! ### Inserting -/

/-- Joins a range with the ranges that it touches, up to the first that starts two or more words
above `hi`: the joined range, and those that are left. -/
def absorb? (hi : UInt32) (r : Span) : List Span → Option (Span × List Span)
  | [] => some (r, [])
  | x :: xs => do
    let bound ← Size.add? hi.toNat 1
    if bound < x.lo.toNat then some (r, x :: xs) else absorb? hi (r.join x) xs

/-- Inserts a range step by step, if no step fails. -/
def insert? (s : RangeSet) (r : Span) : Option RangeSet := do
  let start := place s.spans (Word.below r.lo)
  let (joined, rest) ← absorb? r.hi r (s.spans.drop start)
  some ⟨s.spans.take start ++ joined :: rest⟩

/-- Ranges that end before the new one, with a gap, stay where they are. -/
theorem insertSpan_append (hfront : ∀ x ∈ front, x.EndsBefore r.lo) (back : List Span) :
    insertSpan r (front ++ back) = front ++ insertSpan r back := by
  induction front with
  | nil => rfl
  | cons x front ih =>
    obtain ⟨hx, hfront⟩ := List.forall_mem_cons.1 hfront
    rw [List.cons_append, insertSpan_cons, if_pos hx, ih hfront]
    rfl

/-- Joining stops where it should although it compares with the upper end that the range had at
first. -/
theorem absorb?_eq {hi : UInt32} (h : Canonical ⟨xs⟩) (hreach : ∀ x ∈ xs, ¬ x.EndsBefore r.lo)
    (hbound : ∀ x ∈ xs, x.StartsAfter r.hi ↔ hi.toNat + 1 < x.lo.toNat) :
    ∃ joined rest, absorb? hi r xs = some (joined, rest) ∧ insertSpan r xs = joined :: rest := by
  induction xs generalizing r with
  | nil => exact ⟨r, [], rfl, rfl⟩
  | cons x xs ih =>
    obtain ⟨hx, hxs⟩ := List.forall_mem_cons.1 hreach
    obtain ⟨hxhi, hxshi⟩ := List.forall_mem_cons.1 hbound
    rw [insertSpan_cons, if_neg hx, absorb?, Word.add?_one]
    by_cases hafter : x.StartsAfter r.hi
    · refine ⟨r, x :: xs, ?_, if_pos hafter⟩
      exact if_pos (hxhi.1 hafter)
    · have hreach' : ∀ y ∈ xs, ¬ y.EndsBefore (r.join x).lo := by
        intro y hy
        have hy := hxs y hy
        rw [Span.endsBefore_iff] at hy ⊢
        simp only [Span.join, Span.toNat_min]
        omega
      -- what was joined ends at least two words below whatever comes next
      have hbound' : ∀ y ∈ xs, y.StartsAfter (r.join x).hi ↔ hi.toNat + 1 < y.lo.toNat := by
        intro y hy
        have hgap := h.head_apart hy
        have hy := hxshi y hy
        unfold Span.Apart at hgap
        rw [Span.startsAfter_iff] at hy ⊢
        simp only [Span.join, Span.toNat_max]
        omega
      obtain ⟨joined, rest, habsorb, hinsert⟩ := ih h.tail hreach' hbound'
      refine ⟨joined, rest, ?_, ?_⟩
      · rw [← habsorb]
        exact if_neg fun hlt => hafter (hxhi.2 hlt)
      · rw [if_neg hafter, hinsert]

/-- A span ends before a value with one more between them if its end is before the one below. -/
theorem endsBefore_iff_hi_lt_below : x.EndsBefore w ↔ x.hi < Word.below w := by
  rw [Span.endsBefore_iff, UInt32.lt_iff_toNat_lt, Word.toNat_below]
  omega

/-- Into a canonical list a range is inserted without a failure. -/
theorem Canonical.insert?_eq (h : s.Canonical) (r : Span) : s.insert? r = some (s.insert r) := by
  obtain ⟨xs⟩ := s
  obtain ⟨front, back, rfl, hfront, hback⟩ := h.exists_split (Word.below r.lo)
  obtain ⟨joined, rest, habsorb, hinsert⟩ := absorb?_eq h.right
    (fun x hx => mt endsBefore_iff_hi_lt_below.1 (hback x hx)) fun x _ => Span.startsAfter_iff
  have hsplit := insertSpan_append (fun x hx => endsBefore_iff_hi_lt_below.2 (hfront x hx)) back
  simp only [insert?, place_append hfront hback, List.drop_left, List.take_left, habsorb,
    RangeSet.insert, hsplit, hinsert]
  rfl

/-! ### Erasing -/

/-- Takes a range out of those ranges that it overlaps, up to the first that starts above it, if no
bound moves out of the words. -/
def trim? (r : Span) : List Span → Option (List Span)
  | [] => some []
  | x :: xs =>
    if r.hi < x.lo then some (x :: xs)
    else match decide (x.lo < r.lo), decide (r.hi < x.hi) with
      | true, true => do
        let below ← Word.previous? r.lo
        let above ← Word.next? r.hi
        some (⟨x.lo, below⟩ :: ⟨above, x.hi⟩ :: xs)
      | true, false => do
        let below ← Word.previous? r.lo
        let rest ← trim? r xs
        some (⟨x.lo, below⟩ :: rest)
      | false, true => do
        let above ← Word.next? r.hi
        some (⟨above, x.hi⟩ :: xs)
      | false, false => trim? r xs

/-- Erases a range step by step, if no step fails. -/
def erase? (s : RangeSet) (r : Span) : Option RangeSet := do
  let start := place s.spans r.lo
  let rest ← trim? r (s.spans.drop start)
  some ⟨s.spans.take start ++ rest⟩

/-- Of a range that lies above nothing is taken. -/
theorem residue_of_above (hr : r.Ordered) (hx : x.Ordered) (h : r.hi < x.lo) :
    residue r.lo r.hi x = [x] := by
  have hsucc := Span.toNat_succ h
  have hr := hr.toNat_le
  have hx := hx.toNat_le
  have hlt := UInt32.lt_iff_toNat_lt.1 h
  have hbelow : ¬ x.lo < r.lo := by rw [UInt32.lt_iff_toNat_lt]; omega
  have habove : r.hi < x.hi := by rw [UInt32.lt_iff_toNat_lt]; omega
  have hlo : max x.lo (r.hi + 1) = x.lo := by
    rw [← UInt32.toNat_inj, Span.toNat_max, hsucc]
    omega
  rw [residue, if_neg hbelow, if_pos habove, hlo, List.nil_append]

/-- Nor of one that lies below. -/
theorem residue_of_below (hr : r.Ordered) (hx : x.Ordered) (h : x.hi < r.lo) :
    residue r.lo r.hi x = [x] := by
  have hpred := Span.toNat_pred h
  have hr := hr.toNat_le
  have hx := hx.toNat_le
  have hlt := UInt32.lt_iff_toNat_lt.1 h
  have hbelow : x.lo < r.lo := by rw [UInt32.lt_iff_toNat_lt]; omega
  have habove : ¬ r.hi < x.hi := by rw [UInt32.lt_iff_toNat_lt]; omega
  have hhi : min x.hi (r.lo - 1) = x.hi := by
    rw [← UInt32.toNat_inj, Span.toNat_min, hpred]
    omega
  rw [residue, if_pos hbelow, if_neg habove, hhi, List.append_nil]

/-- What is left of a range that lies neither below nor above ends where the one that is taken
begins, or begins where it ends. -/
theorem residue_of_overlap (hbelow : ¬ x.hi < r.lo) (habove : ¬ r.hi < x.lo) :
    residue r.lo r.hi x =
      (if x.lo < r.lo then [⟨x.lo, r.lo - 1⟩] else []) ++
        (if r.hi < x.hi then [⟨r.hi + 1, x.hi⟩] else []) := by
  rw [UInt32.lt_iff_toNat_lt] at hbelow habove
  have hmin (h : x.lo < r.lo) : min x.hi (r.lo - 1) = r.lo - 1 := by
    rw [← UInt32.toNat_inj, Span.toNat_min, Span.toNat_pred h]
    omega
  have hmax (h : r.hi < x.hi) : max x.lo (r.hi + 1) = r.hi + 1 := by
    rw [← UInt32.toNat_inj, Span.toNat_max, Span.toNat_succ h]
    omega
  unfold residue
  congr 1
  · split
    · rw [hmin ‹_›]
    · rfl
  · split
    · rw [hmax ‹_›]
    · rfl

/-- Ranges of which nothing is taken stay as they are. -/
theorem eraseSpan_of_apart (h : ∀ x ∈ xs, residue r.lo r.hi x = [x]) : eraseSpan r xs = xs := by
  induction xs with
  | nil => rfl
  | cons x xs ih =>
    obtain ⟨hx, hxs⟩ := List.forall_mem_cons.1 h
    rw [eraseSpan, List.flatMap_cons, hx]
    exact congrArg (x :: ·) (ih hxs)

/-- Behind a range that reaches above the one that is taken, nothing is taken. -/
theorem Canonical.eraseSpan_tail (h : Canonical ⟨x :: xs⟩) (hr : r.Ordered) (hlt : r.hi < x.hi) :
    eraseSpan r xs = xs := by
  apply eraseSpan_of_apart
  intro y hy
  have hgap := h.head_apart hy
  apply residue_of_above hr (h.tail.ordered y hy)
  unfold Span.Apart at hgap
  rw [UInt32.lt_iff_toNat_lt] at hlt ⊢
  omega

/-- Taking a range out of those that do not end below it fails nowhere. -/
theorem trim?_eq (h : Canonical ⟨xs⟩) (hr : r.Ordered) (hreach : ∀ x ∈ xs, ¬ x.hi < r.lo) :
    trim? r xs = some (eraseSpan r xs) := by
  induction xs with
  | nil => rfl
  | cons x xs ih =>
    have hx := h.ordered x List.mem_cons_self
    obtain ⟨hbelow, hxs⟩ := List.forall_mem_cons.1 hreach
    have hrest := ih h.tail hxs
    have hsplit : eraseSpan r (x :: xs) = residue r.lo r.hi x ++ eraseSpan r xs :=
      List.flatMap_cons
    rw [hsplit, trim?]
    split
    · rename_i habove
      have hlt : r.hi < x.hi := UInt32.lt_of_lt_of_le habove hx
      rw [residue_of_above hr hx habove, h.eraseSpan_tail hr hlt]
      rfl
    · rename_i habove
      rw [residue_of_overlap hbelow habove]
      by_cases hlo : x.lo < r.lo <;> by_cases hhi : r.hi < x.hi
      · simp only [hlo, hhi, decide_true, Word.previous?_of_lt hlo, Word.next?_of_lt hhi,
          h.eraseSpan_tail hr hhi]
        rfl
      · simp only [hlo, hhi, decide_true, decide_false, Word.previous?_of_lt hlo, hrest]
        rfl
      · simp only [hlo, hhi, decide_true, decide_false, Word.next?_of_lt hhi,
          h.eraseSpan_tail hr hhi]
        rfl
      · simp only [hlo, hhi, decide_false, hrest]
        rfl

/-- From a canonical list a range is erased without a failure. -/
theorem Canonical.erase?_eq (h : s.Canonical) (hr : r.Ordered) :
    s.erase? r = some (s.erase r) := by
  obtain ⟨xs⟩ := s
  obtain ⟨front, back, rfl, hfront, hback⟩ := h.exists_split r.lo
  have hkept : eraseSpan r front = front := eraseSpan_of_apart fun x hx =>
    residue_of_below hr (h.ordered x (List.mem_append_left back hx)) (hfront x hx)
  have hsplit : eraseSpan r (front ++ back) = front ++ eraseSpan r back := by
    rw [eraseSpan, List.flatMap_append]
    exact congrArg (· ++ _) hkept
  simp only [erase?, place_append hfront hback, List.drop_left, List.take_left,
    trim?_eq h.right hr hback, RangeSet.erase, hsplit]
  rfl

end RangeSet

end BrailleShare
