import BrailleShare.Proofs.Tty.Operations

/-!
# Following a path and making the rest of it

Whatever has been done to a tree, following a path means to go from the root to the first child with
the next number as often as there is one. What is missing at the end can be made if there is room
for all of it, although it is made tty by tty and the room is looked at each time.

Main statements: a path is found or missed as the walk says (`Ordered.lookup_eq_found_iff`,
`Ordered.lookup_eq_missing_iff`); making the rest succeeds if and only if it fits
(`Rooted.create_isOk_iff`), and then it leaves alone what was there (`Rooted.prolonged`); all this
for any tree that operations lead to (`opening_is_exact`).
-/

namespace BrailleShare.TtyTree

variable {α : Type} {t t' : TtyTree α} {id p c d here : TtyId} {k : UInt32} {q r : List UInt32}
  {m : Nat}

/-! ### Walks -/

/-- The first of a tty's children that has a number. -/
def FirstChild (t : TtyTree α) (p : TtyId) (k : UInt32) (c : TtyId) : Prop :=
  t.numberOf? c = some k ∧ ∃ before after, t.children p = before ++ c :: after ∧
    ∀ d ∈ before, t.numberOf? d ≠ some k

/-- None of a tty's children has a number. -/
def NoChild (t : TtyTree α) (p : TtyId) (k : UInt32) : Prop :=
  ∀ c ∈ t.children p, t.numberOf? c ≠ some k

/-- A walk from one tty to another, by first children with the numbers of a path. -/
inductive Walk (t : TtyTree α) : TtyId → List UInt32 → TtyId → Prop
  | stay (id : TtyId) : Walk t id [] id
  | down {p c id : TtyId} {k : UInt32} {q : List UInt32} (h : t.FirstChild p k c)
      (hw : Walk t c q id) : Walk t p (k :: q) id

/-- The child that is found by a number is the first that has it. -/
theorem Ordered.child?_eq_some_iff (h : t.Ordered) :
    t.child? p k = some c ↔ t.FirstChild p k c := by
  rw [h.child?_eq_find?, List.find?_eq_some_iff_append]
  simp [FirstChild]

/-- No child is found by a number that none has. -/
theorem Ordered.child?_eq_none_iff (h : t.Ordered) : t.child? p k = none ↔ t.NoChild p k := by
  rw [h.child?_eq_find?, List.find?_eq_none]
  simp [NoChild]

/-- Following a path finds the tty to which the walk leads. -/
theorem Ordered.lookupFrom_eq_found_iff (h : t.Ordered) :
    t.lookupFrom here m q = .found id ↔ t.Walk here q id := by
  induction q generalizing here m with
  | nil =>
    constructor
    · rintro ⟨⟩
      exact .stay _
    · rintro ⟨⟩
      rfl
  | cons k q ih =>
    rw [lookupFrom]
    constructor
    · intro e
      split at e
      · exact .down (h.child?_eq_some_iff.1 ‹_›) (ih.1 e)
      · cases e
    · intro hw
      cases hw with
      | down hc hw =>
        rw [h.child?_eq_some_iff.2 hc]
        exact ih.2 hw

/-- A path is found if the walk uses it up. -/
theorem Ordered.lookup_eq_found_iff (h : t.Ordered) :
    t.lookup q = .found id ↔ t.Walk root q id :=
  h.lookupFrom_eq_found_iff

/-- A path is missed if the walk comes to a tty that has no child with the next number. -/
theorem Ordered.lookup_eq_missing_iff (h : t.Ordered) : t.lookup q = .missing d m ↔
    ∃ k, q[m]? = some k ∧ t.Walk root (q.take m) d ∧ t.NoChild d k := by
  constructor
  · intro e
    obtain ⟨a, k, r, rfl, rfl, ha, hk⟩ := lookupFrom_eq_missing e
    refine ⟨k, by simp, ?_, h.child?_eq_none_iff.1 hk⟩
    simpa using h.lookupFrom_eq_found_iff.1 ha
  · rintro ⟨k, hk, hw, hnone⟩
    obtain ⟨hlt, hk⟩ := List.getElem?_eq_some_iff.1 hk
    have hsplit : q = q.take m ++ k :: q.drop (m + 1) := by
      rw [← hk, List.getElem_cons_drop, List.take_append_drop]
    have hfront := h.lookup_eq_found_iff.2 hw
    rw [lookup] at hfront
    rw [hsplit, lookup, lookupFrom_append, hfront]
    simp [lookupFrom, h.child?_eq_none_iff.2 hnone, Nat.le_of_lt hlt]

/-! ### Longer lists of ttys -/

section prolonged

variable (h : t.ttys <+: t'.ttys)
include h

/-- A tty is what it was where others have been made behind it. -/
theorem find?_of_longer {x : TtyId} {n : Tty α} (hx : t.find? x = some n) :
    t'.find? x = some n :=
  h.find?_eq_some hx

/-- A child is found in a longer tree as well. -/
theorem child?_of_longer (hc : t.child? p k = some c) : t'.child? p k = some c := by
  obtain ⟨n, hn, rfl⟩ := Option.map_eq_some_iff.1 hc
  rw [child?, h.find?_eq_some hn, Option.map_some]

/-- A path that leads to a tty leads to it in a longer tree as well. -/
theorem lookupFrom_of_longer {x : TtyId} (e : t.lookupFrom here m r = .found x) :
    t'.lookupFrom here m r = .found x := by
  induction r generalizing here m with
  | nil => exact e
  | cons k r ih =>
    rw [lookupFrom] at e ⊢
    split at e
    · rw [child?_of_longer h ‹_›]
      exact ih e
    · cases e

end prolonged

/-- Nothing hangs below the tty that was made last. -/
theorem child?_of_next_le (h : t.nextId ≤ p.val + 1) : t.child? p k = none := by
  refine Option.eq_none_iff_forall_ne_some.2 fun c hc => ?_
  have hlt := lt_of_child? hc
  omega

/-- A new child is found by its number, if no other has it. -/
theorem child?_of_addChild (e : t.addChild p k = .ok (t', id)) (hfree : t.child? p k = none) :
    t'.child? p k = some id := by
  obtain ⟨-, -, -, htt, -, -⟩ := addChild_eq_ok_iff.1 e
  rw [child?, Option.map_eq_none_iff] at hfree
  simp [child?, htt, hfree]

/-! ### Chains of new ttys -/

/-- Making a path adds ttys at the end. -/
theorem longer_extend (t : TtyTree α) (here : TtyId) (q : List UInt32) :
    t.ttys <+: (t.extend here q).tree.ttys := by
  obtain ⟨made, htt, -⟩ := extend_ttys t here q
  exact ⟨made, htt.symm⟩

/-- A tree grows by the making of a path. -/
theorem GrownFrom.of_extend (t : TtyTree α) (here : TtyId) (q : List UInt32) :
    (t.extend here q).tree.GrownFrom t :=
  extend_invariant (P := (·.GrownFrom t)) (.refl t) fun e h => (GrownFrom.of_addChild e).trans h

/-- A chain that could be made leads to its last tty, if the first number was free. -/
theorem lookupFrom_extend (hfree : ∀ k, q.head? = some k → t.child? here k = none)
    (e : (t.extend here q).result = .ok id) :
    (t.extend here q).tree.lookupFrom here m q = .found id := by
  induction q generalizing t here m with
  | nil =>
    cases e
    rfl
  | cons k q ih =>
    simp only [extend] at e ⊢
    split at e
    · cases e
    · rename_i t₁ c hc
      obtain ⟨-, -, hid, -, hnext, -⟩ := addChild_eq_ok_iff.1 hc
      have hbelow : ∀ k, t₁.child? c k = none := fun k =>
        child?_of_next_le (by rw [hnext, hid])
      have hchild := child?_of_addChild hc (hfree k rfl)
      rw [lookupFrom, child?_of_longer (longer_extend t₁ c q) hchild]
      exact ih (fun k _ => hbelow k) e

/-! ### Making what is missing -/

/-- What becomes of a tree in which a path is opened by so many new ttys. -/
structure Prolonged (t : TtyTree α) (q : List UInt32) (count : Nat) (id : TtyId)
    (t' : TtyTree α) : Prop where
  /-- The path leads to the last of them. -/
  lookup_eq : t'.lookup q = .found id
  size_eq : t'.size = t.size + count
  /-- Every path that led to a tty leads there still. -/
  found : ∀ {r x}, t.lookup r = .found x → t'.lookup r = .found x
  /-- Every tty has the number, the focus, the parent and the clients that it had. -/
  kept : ∀ {x n}, t.find? x = some n → t'.find? x = some n
  /-- There are no clients where there were none before. -/
  clients : ∀ x, t'.clientsOf x = t.clientsOf x

/-- Making what is missing of a path prolongs the tree by just this. -/
theorem Rooted.prolonged (h : t.Rooted) (hm : t.lookup q = .missing d m)
    (e : (t.create d (q.drop m)).result = .ok id) :
    t.Prolonged q (q.length - m) id (t.create d (q.drop m)).tree := by
  have hex := create_of_ok e
  rw [hex] at e ⊢
  obtain ⟨a, k, r, rfl, rfl, ha, hk⟩ := lookupFrom_eq_missing hm
  simp only [Nat.zero_add, List.drop_left, List.length_append, Nat.add_sub_cancel_left] at e ⊢
  have hlonger := longer_extend t d (k :: r)
  constructor
  case lookup_eq =>
    have hfree : ∀ k', (k :: r).head? = some k' → t.child? d k' = none := by
      rintro _ ⟨⟩
      exact hk
    rw [lookup, lookupFrom_append, lookupFrom_of_longer hlonger ha]
    exact lookupFrom_extend hfree e
  case size_eq =>
    have htwo := h.two_le_length
    rw [size, length_of_extend e, size]
    omega
  case found => exact lookupFrom_of_longer hlonger
  case kept => exact find?_of_longer hlonger
  case clients => exact (GrownFrom.of_extend t d (k :: r)).clients

/-- From a tty that is there a path leads to ttys that are there. -/
theorem Rooted.live_of_lookupFrom (h : t.Rooted) (hl : t.live here)
    (e : t.lookupFrom here m r = .found id) : t.live id := by
  induction r generalizing here m with
  | nil =>
    cases e
    exact hl
  | cons k r ih =>
    rw [lookupFrom] at e
    split at e
    · exact ih (live_of_link? (h.ordered.link?_of_child? ‹_›)) e
    · cases e

/-- Following a path ends at a tty that is there. -/
theorem Rooted.live_of_missing (h : t.Rooted) (hm : t.lookup q = .missing d m) : t.live d := by
  obtain ⟨a, k, r, -, -, ha, -⟩ := lookupFrom_eq_missing hm
  exact h.live_of_lookupFrom h.live_root ha

/-- What is missing of a path can be made if and only if there is room for all of it. -/
theorem Rooted.create_isOk_iff (h : t.Rooted) (hm : t.lookup q = .missing d m) :
    (∃ id, (t.create d (q.drop m)).result = .ok id) ↔ t.size + (q.length - m) ≤ t.limit := by
  constructor
  · rintro ⟨id, e⟩
    have hsize := (h.create (p := d) (q := q.drop m)).size_le
    rwa [limit_create, (h.prolonged hm e).size_eq] at hsize
  · intro hroom
    refine create_of_room (h.live_of_missing hm) ?_
    rwa [List.length_drop]

/-! ### Any tree -/

/-- How a path is followed in a tree, and what comes of an attempt to make what is missing of it. -/
structure OpenedExactly (limit : Nat) (t : TtyTree α) (q : List UInt32) : Prop where
  /-- The path is found if the walk uses it up. -/
  found_iff : ∀ id, t.lookup q = .found id ↔ t.Walk root q id
  /-- It is missed after some of its numbers if the walk over these comes to a tty without a child
  that has the next. -/
  missing_iff : ∀ d m, t.lookup q = .missing d m ↔
    ∃ k, q[m]? = some k ∧ t.Walk root (q.take m) d ∧ t.NoChild d k
  /-- The rest can be made if and only if there is room for all of it. -/
  made_iff : ∀ d m, t.lookup q = .missing d m →
    ((∃ id, (t.create d (q.drop m)).result = .ok id) ↔ t.size + (q.length - m) ≤ limit)
  /-- Then the path leads to the last tty made, and the tree is otherwise what it was. -/
  made : ∀ d m id, t.lookup q = .missing d m → (t.create d (q.drop m)).result = .ok id →
    t.Prolonged q (q.length - m) id (t.create d (q.drop m)).tree
  /-- If it cannot be made, that is for want of room, and every tty is what and where it was. -/
  refused : ∀ d m e, t.lookup q = .missing d m → (t.create d (q.drop m)).result = .error e →
    e = .limitReached limit ∧ (t.create d (q.drop m)).tree.ttys = t.ttys

/-- In every tree that operations lead to, a path is followed as far as it goes, child by child;
what is missing of it can be made if and only if there is room for all of it, and if it cannot every
tty stays what and where it is. -/
theorem opening_is_exact [DecidableEq α] {limit : Nat} (h : t.Reached limit) (q : List UInt32) :
    OpenedExactly limit t q := by
  have hroot := h.rooted
  have hlimit := h.limit_eq
  constructor
  case found_iff => exact fun id => hroot.ordered.lookup_eq_found_iff
  case missing_iff => exact fun d m => hroot.ordered.lookup_eq_missing_iff
  case made_iff =>
    intro d m hm
    rw [hroot.create_isOk_iff hm, hlimit]
  case made => exact fun d m id hm e => hroot.prolonged hm e
  case refused =>
    intro d m e hm he
    exact ⟨hlimit ▸ create_error_eq (hroot.live_of_missing hm) he, (create_of_error he).1⟩

/-- A tree with room for five ttys: two siblings have the number one, a client sits in the younger,
and the path of one tty that had gone before has left no trace. -/
def twins : TtyTree Nat :=
  ([.create root [7], .collect ⟨2⟩, .create root [1, 2], .create root [1, 5], .attach ⟨6⟩ 9,
    .setFocus ⟨3⟩ (some 2)] : List (Operation Nat)).foldl after (withLimit 5)

/-- Of the two siblings the elder is followed. One more tty fits below its child; two do not, and
the attempt fails at the second. -/
theorem opening_is_exact_twins :
    (twins.lookup [1, 5] = .missing ⟨3⟩ 1 ∧ twins.lookup [1, 2, 8] = .missing ⟨4⟩ 2 ∧
      twins.lookup [1, 2, 8, 9] = .missing ⟨4⟩ 2 ∧
      (twins.create ⟨4⟩ [8]).result = .ok ⟨7⟩ ∧
      (twins.create ⟨4⟩ [8, 9]).result = .error (.limitReached 5)) ∧
      ∀ q, OpenedExactly 5 twins q :=
  ⟨by decide +kernel, fun q => opening_is_exact ⟨_, rfl⟩ q⟩

end BrailleShare.TtyTree
