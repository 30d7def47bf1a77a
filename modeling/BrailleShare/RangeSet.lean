/-!
# Range sets

A set of words kept as a list of closed ranges, in ascending order, with at least one absent word
between neighbours. Adding a range joins it with every range that it overlaps or touches; erasing
one trims or splits the ranges that it overlaps.

A range whose lower end lies above its upper end is refused and leaves the set alone. Where a
bound has to move by one it does so only with room to move: a range that touches `lo` from below
ends under it, so `lo` is not the least word, and the same holds above.

An allocation that fails is left out: there is always memory for one more range.
-/

namespace BrailleShare

/-- A closed range of words, from its lower to its upper end. -/
structure Span where
  lo : UInt32
  hi : UInt32
  deriving DecidableEq, Repr

namespace Span

/-- The range holds the word. -/
def Has (r : Span) (v : UInt32) : Prop :=
  r.lo ≤ v ∧ v ≤ r.hi

instance (r : Span) (v : UInt32) : Decidable (r.Has v) :=
  inferInstanceAs (Decidable (_ ∧ _))

/-- Every word of the range, and the one after it, lies below `v`. -/
def EndsBefore (r : Span) (v : UInt32) : Prop :=
  r.hi < v ∧ r.hi + 1 < v

instance (r : Span) (v : UInt32) : Decidable (r.EndsBefore v) :=
  inferInstanceAs (Decidable (_ ∧ _))

/-- Every word of the range, and the one before it, lies above `v`. -/
def StartsAfter (r : Span) (v : UInt32) : Prop :=
  v < r.lo ∧ v + 1 < r.lo

instance (r : Span) (v : UInt32) : Decidable (r.StartsAfter v) :=
  inferInstanceAs (Decidable (_ ∧ _))

end Span

/-- Why a change to a range set was refused. -/
inductive RangeError where
  /-- The lower end lies above the upper end. -/
  | reversed (lo hi : UInt32)
  deriving DecidableEq, Repr

/-- The refusal in words. -/
def RangeError.message : RangeError → String
  | .reversed lo hi => s!"invalid range {lo}..={hi}"

/-- A set of words as ranges in ascending order. -/
structure RangeSet where
  spans : List Span
  deriving DecidableEq, Repr

namespace RangeSet

/-- The set without members. -/
def empty : RangeSet := ⟨[]⟩

/-- Whether the set has no members. -/
def isEmpty (s : RangeSet) : Bool :=
  s.spans.isEmpty

/-- Puts a range into a list of ranges: those that end before it stay, those that it overlaps or
touches are joined with it, and it comes to stand before the first that starts after it. -/
def insertSpan (r : Span) : List Span → List Span
  | [] => [r]
  | x :: xs =>
    if x.EndsBefore r.lo then x :: insertSpan r xs
    else if x.StartsAfter r.hi then r :: x :: xs
    else insertSpan ⟨min r.lo x.lo, max r.hi x.hi⟩ xs

/-- What is left of a range below `lo` and above `hi`. -/
def residue (lo hi : UInt32) (x : Span) : List Span :=
  (if x.lo < lo then [⟨x.lo, min x.hi (lo - 1)⟩] else []) ++
    (if hi < x.hi then [⟨max x.lo (hi + 1), x.hi⟩] else [])

/-- Takes a range out of a list of ranges: each keeps what lies below and above. -/
def eraseSpan (r : Span) (xs : List Span) : List Span :=
  xs.flatMap (residue r.lo r.hi)

/-- The set with every word of a range. -/
def insert (s : RangeSet) (r : Span) : RangeSet :=
  ⟨insertSpan r s.spans⟩

/-- The set without any word of a range. -/
def erase (s : RangeSet) (r : Span) : RangeSet :=
  ⟨eraseSpan r s.spans⟩

/-- Adds every word from `lo` to `hi`. -/
def add (s : RangeSet) (lo hi : UInt32) : Except RangeError RangeSet :=
  if hi < lo then .error (.reversed lo hi) else .ok (s.insert ⟨lo, hi⟩)

/-- Removes every word from `lo` to `hi`. -/
def remove (s : RangeSet) (lo hi : UInt32) : Except RangeError RangeSet :=
  if hi < lo then .error (.reversed lo hi) else .ok (s.erase ⟨lo, hi⟩)

/-- Whether a word is a member: the only range that can hold it is the first that does not end
below it. -/
def contains (s : RangeSet) (v : UInt32) : Bool :=
  match s.spans.find? fun r => decide (v ≤ r.hi) with
  | some r => decide (r.lo ≤ v)
  | none => false

end RangeSet

end BrailleShare
