import BrailleShare.Proofs.RangeSet.Stepwise
import Mathlib.Data.List.Induction

/-!
# Calls on a range set

A range set is made from the empty one by calls that add a range, remove one, or clear the set. A
call whose bounds are reversed is refused. Of any other the last one about a word decides whether
the word is a member.

Main statements: a call decides about the words that it affects and about no others
(`Call.represents_after`), and carried out step by step it fails nowhere (`Call.stepwise?_eq`); so
whatever calls are made, their ranges are a set (`calls_act_as_set`).
-/

namespace BrailleShare.RangeSet

variable {s : RangeSet} {v : UInt32} {P : UInt32 → Prop}

/-! ### Single calls -/

/-- A call that may change a set. -/
inductive Call where
  /-- Adds every word from `lo` to `hi`. -/
  | add (lo hi : UInt32)
  /-- Removes every word from `lo` to `hi`. -/
  | remove (lo hi : UInt32)
  /-- Removes every word. -/
  | clear
  deriving DecidableEq, Repr

namespace Call

/-- What a call makes of a set, if it is not refused. -/
def answer (s : RangeSet) : Call → Except RangeError RangeSet
  | add lo hi => s.add lo hi
  | remove lo hi => s.remove lo hi
  | clear => .ok .empty

/-- What a call returns. -/
def returned (s : RangeSet) (c : Call) : Except RangeError Unit :=
  (c.answer s).map fun _ => ()

/-- The set after a call, which is the one before it if the call is refused. -/
def after (s : RangeSet) (c : Call) : RangeSet :=
  match c.answer s with
  | .ok s' => s'
  | .error _ => s

/-- The call is about a word. -/
def Affects : Call → UInt32 → Prop
  | add lo hi, v => lo ≤ v ∧ v ≤ hi
  | remove lo hi, v => lo ≤ v ∧ v ≤ hi
  | clear, _ => True

instance (c : Call) (v : UInt32) : Decidable (c.Affects v) :=
  match c with
  | add _ _ => inferInstanceAs (Decidable (_ ∧ _))
  | remove _ _ => inferInstanceAs (Decidable (_ ∧ _))
  | clear => inferInstanceAs (Decidable True)

/-- The call makes members of the words that it is about. -/
def Adds (c : Call) : Prop :=
  ∃ lo hi, c = add lo hi

/-- The bounds that a call names. -/
def bounds? : Call → Option (UInt32 × UInt32)
  | add lo hi => some (lo, hi)
  | remove lo hi => some (lo, hi)
  | clear => none

/-- A call carried out step by step, if no step fails: what it returns, and the set after it. -/
def stepwise? (s : RangeSet) : Call → Option (Except RangeError Unit × RangeSet)
  | add lo hi =>
    if hi < lo then some (.error (.reversed lo hi), s)
    else (s.insert? ⟨lo, hi⟩).map fun s' => (.ok (), s')
  | remove lo hi =>
    if hi < lo then some (.error (.reversed lo hi), s)
    else (s.erase? ⟨lo, hi⟩).map fun s' => (.ok (), s')
  | clear => some (.ok (), .empty)

variable {c : Call} {lo hi : UInt32}

/-- A call with reversed bounds is refused, whatever the set holds. -/
theorem answer_of_lt (hc : c.bounds? = some (lo, hi)) (h : hi < lo) (s : RangeSet) :
    c.answer s = .error (.reversed lo hi) := by
  cases c with
  | add a b =>
    obtain ⟨rfl, rfl⟩ := Prod.mk.inj (Option.some.inj hc)
    exact if_pos h
  | remove a b =>
    obtain ⟨rfl, rfl⟩ := Prod.mk.inj (Option.some.inj hc)
    exact if_pos h
  | clear => cases hc

/-- A call to add a range that is in order is carried out. -/
theorem answer_add (h : ¬ hi < lo) (s : RangeSet) :
    (add lo hi).answer s = .ok (s.insert ⟨lo, hi⟩) :=
  if_neg h

/-- A call to remove a range that is in order is carried out. -/
theorem answer_remove (h : ¬ hi < lo) (s : RangeSet) :
    (remove lo hi).answer s = .ok (s.erase ⟨lo, hi⟩) :=
  if_neg h

/-- With reversed bounds a call is about no word. -/
theorem not_affects_of_lt (hc : c.bounds? = some (lo, hi)) (h : hi < lo) (v : UInt32) :
    ¬ c.Affects v := by
  cases c with
  | add a b =>
    obtain ⟨rfl, rfl⟩ := Prod.mk.inj (Option.some.inj hc)
    exact fun hv => UInt32.not_lt.2 (UInt32.le_trans hv.1 hv.2) h
  | remove a b =>
    obtain ⟨rfl, rfl⟩ := Prod.mk.inj (Option.some.inj hc)
    exact fun hv => UInt32.not_lt.2 (UInt32.le_trans hv.1 hv.2) h
  | clear => cases hc

/-- A call whose bounds are in order, or that names none, is carried out. -/
theorem returned_of_le (hc : ∀ lo hi, c.bounds? = some (lo, hi) → lo ≤ hi) (s : RangeSet) :
    c.returned s = .ok () := by
  unfold returned
  cases c with
  | add lo hi => rw [answer_add (UInt32.not_lt.2 (hc lo hi rfl)), Except.map]
  | remove lo hi => rw [answer_remove (UInt32.not_lt.2 (hc lo hi rfl)), Except.map]
  | clear => rfl

/-- A call that is refused leaves the set alone. -/
theorem after_of_error {e : RangeError} (h : c.answer s = .error e) : c.after s = s := by
  rw [after, h]

/-- A call that is carried out leaves what it has made. -/
theorem after_of_ok {s' : RangeSet} (h : c.answer s = .ok s') : c.after s = s' := by
  rw [after, h]

/-- A call decides about the words that it affects, and about no others. -/
theorem represents_after (h : s.Represents P) (c : Call) :
    (c.after s).Represents fun v => if c.Affects v then c.Adds else P v := by
  cases c with
  | add lo hi =>
    by_cases hlt : hi < lo
    · rw [after_of_error (answer_of_lt rfl hlt s)]
      exact h.congr fun v => by rw [if_neg (not_affects_of_lt rfl hlt v)]
    · rw [after_of_ok (answer_add hlt s)]
      refine (h.insert (UInt32.not_lt.1 hlt)).congr fun v => ?_
      by_cases hv : lo ≤ v ∧ v ≤ hi <;> simp [Span.Has, Affects, Adds, hv]
  | remove lo hi =>
    by_cases hlt : hi < lo
    · rw [after_of_error (answer_of_lt rfl hlt s)]
      exact h.congr fun v => by rw [if_neg (not_affects_of_lt rfl hlt v)]
    · rw [after_of_ok (answer_remove hlt s)]
      refine (h.erase (UInt32.not_lt.1 hlt)).congr fun v => ?_
      by_cases hv : lo ≤ v ∧ v ≤ hi <;> simp [Span.Has, Affects, Adds, hv]
  | clear =>
    refine Represents.empty.congr fun v => ?_
    simp [Affects, Adds]

/-- On a canonical list no step of a call fails, and the steps come to what the call is to do. -/
theorem stepwise?_eq (h : s.Canonical) (c : Call) :
    c.stepwise? s = some (c.returned s, c.after s) := by
  cases c with
  | add lo hi =>
    by_cases hlt : hi < lo
    · have hanswer := answer_of_lt (c := add lo hi) rfl hlt s
      rw [stepwise?, if_pos hlt, returned, after_of_error hanswer, hanswer]
      rfl
    · have hanswer := answer_add hlt s
      rw [stepwise?, if_neg hlt, h.insert?_eq, returned, after_of_ok hanswer, hanswer]
      rfl
  | remove lo hi =>
    by_cases hlt : hi < lo
    · have hanswer := answer_of_lt (c := remove lo hi) rfl hlt s
      rw [stepwise?, if_pos hlt, returned, after_of_error hanswer, hanswer]
      rfl
    · have hanswer := answer_remove hlt s
      rw [stepwise?, if_neg hlt, h.erase?_eq (UInt32.not_lt.1 hlt), returned,
        after_of_ok hanswer, hanswer]
      rfl
  | clear => rfl

end Call

/-! ### Calls in a row -/

/-- The set that calls make of the empty one. -/
def made (calls : List Call) : RangeSet :=
  calls.foldl (fun s c => c.after s) .empty

/-- The last call that is about a word. -/
def lastAbout (calls : List Call) (v : UInt32) : Option Call :=
  calls.reverse.find? fun c => decide (c.Affects v)

/-- The last call about a word has added it. -/
def Added (calls : List Call) (v : UInt32) : Prop :=
  ∃ lo hi, lastAbout calls v = some (.add lo hi)

/-- The last call works on what the others have made. -/
theorem made_concat (calls : List Call) (c : Call) : made (calls ++ [c]) = c.after (made calls) :=
  List.foldl_concat ..

/-- What a value owes to some calls is decided by the last one that affects it. -/
theorem added_concat (calls : List Call) (c : Call) :
    Added (calls ++ [c]) v ↔ if c.Affects v then c.Adds else Added calls v := by
  by_cases hv : c.Affects v <;> simp [Added, lastAbout, Call.Adds, hv]

/-- What was made holds the words that were added last. -/
theorem represents_made (calls : List Call) : (made calls).Represents (Added calls) := by
  induction calls using List.reverseRecOn with
  | nil => exact Represents.empty.congr fun v => by simp [Added, lastAbout]
  | append_singleton calls c ih =>
    rw [made_concat]
    exact (c.represents_after ih).congr fun v => (added_concat calls c).symm

/-- Calls carried out step by step, one after the other, up to the first step that fails. -/
def madeStepwise? (calls : List Call) : Option RangeSet :=
  calls.foldlM (fun s c => (c.stepwise? s).map Prod.snd) .empty

/-- Made step by step, no step fails, and the outcome is the same. -/
theorem madeStepwise?_eq (calls : List Call) : madeStepwise? calls = some (made calls) := by
  induction calls using List.reverseRecOn with
  | nil => rfl
  | append_singleton calls c ih =>
    have hstep := c.stepwise?_eq (represents_made calls).canonical
    rw [madeStepwise?] at ih ⊢
    rw [List.foldlM_append, ih, made_concat]
    simp [hstep]

/-! ### Main result -/

/-- After calls the ranges that were made are a set, and the next call finds them so. -/
structure ActsAsSet (calls : List Call) : Prop where
  /-- The calls went well step by step, and came to what they were to do. -/
  made_stepwise : madeStepwise? calls = some (made calls)
  /-- By halving a word is found if the last call about it has added it. -/
  member : ∀ v, (made calls).search v = true ↔ Added calls v
  /-- Halving finds what a search from the front would find. -/
  halving : ∀ v, (made calls).search v = (made calls).contains v
  ordered : ∀ x ∈ (made calls).spans, x.lo ≤ x.hi
  /-- Between the end of a range and the start of any later one a word is absent. -/
  apart : (made calls).spans.Pairwise fun x y => x.hi.toNat + 1 < y.lo.toNat
  /-- With reversed bounds a call is refused, and the ranges stay as they are. -/
  refused : ∀ (c : Call) (lo hi : UInt32), c.bounds? = some (lo, hi) → hi < lo →
    c.returned (made calls) = .error (.reversed lo hi) ∧ c.after (made calls) = made calls
  /-- Any other call is carried out. -/
  carried_out : ∀ c : Call, (∀ lo hi, c.bounds? = some (lo, hi) → lo ≤ hi) →
    c.returned (made calls) = .ok ()
  /-- Whatever the next call is, no bound moves out of the words by it. -/
  stepwise : ∀ c : Call,
    c.stepwise? (made calls) = some (c.returned (made calls), c.after (made calls))

/-- Whatever calls are made on an empty set, the set holds the words whose last call has added
them. -/
theorem calls_act_as_set (calls : List Call) : ActsAsSet calls := by
  have hmade := represents_made calls
  have hcanonical := hmade.canonical
  constructor
  case made_stepwise => exact madeStepwise?_eq calls
  case member =>
    intro v
    rw [hcanonical.search_eq v]
    exact hmade.contains_iff v
  case halving => exact hcanonical.search_eq
  case ordered => exact hcanonical.ordered
  case apart => exact hcanonical.apart
  case refused =>
    intro c lo hi hc hlt
    have hanswer := Call.answer_of_lt hc hlt (made calls)
    refine ⟨?_, Call.after_of_error hanswer⟩
    rw [Call.returned, hanswer, Except.map]
  case carried_out => exact fun c hc => Call.returned_of_le hc (made calls)
  case stepwise => exact fun c => c.stepwise?_eq hcanonical

/-- At both ends of the words bounds are moved inwards only. -/
example : madeStepwise? [.add 0 0xFFFFFFFF, .remove 0 0, .remove 0xFFFFFFFF 0xFFFFFFFF] =
    some ⟨[⟨1, 0xFFFFFFFE⟩]⟩ := by
  decide +kernel

end BrailleShare.RangeSet
