import BrailleShare.Proofs.Tty.Linked
import Mathlib.Logic.Relation

/-!
# The shape of a tree

A tree is told what to do by ids, and an id may have been given back long ago or may never have been
handed out. Neither matters to how the ttys hang together: from every tty one comes to a permanent
one by going from parent to parent, and a tty is listed by its parent, once, and by no other.

Main statements: a tree that has come of another has no tty of an id that the other one had handed
out and no longer used (`LaterThan.dead`, `laterThan_run`); an operation is told that there is no
such tty if and only if its target is not there, and then it does nothing (`noSuchTty_iff`); both,
with the shape, after any operations in a row (`operations_keep_shape`).
-/

namespace BrailleShare.TtyTree

variable {α : Type} {t t' t'' : TtyTree α} {id p : TtyId} {k : UInt32} {q : List UInt32}

/-! ### Going up -/

/-- From every tty one comes to a permanent one by going from parent to parent. -/
theorem Rooted.climbs (h : t.Rooted) (hl : t.live id) :
    ∃ top, permanent top ∧ Relation.ReflTransGen (fun c p => t.parentOf? c = some p) id top := by
  -- on the id, since a parent is older than its child
  induction hval : id.val using Nat.strongRecOn generalizing id with
  | ind val ih =>
    cases hperm : permanent id with
    | true => exact ⟨id, hperm, .refl⟩
    | false =>
      obtain ⟨p, hp, hlive⟩ := h.exists_parent hl hperm
      have hlt := lt_of_parentOf? hp
      obtain ⟨top, htop, hup⟩ := ih p.val (hval ▸ hlt) hlive rfl
      exact ⟨top, htop, .head hp hup⟩

/-! ### Ids are handed out once -/

/-- One tree may have come of another: each tty that the other one did not have bears an id that it
had still to hand out. -/
structure LaterThan (t' t : TtyTree α) : Prop where
  nextId_le : t.nextId ≤ t'.nextId
  fresh : ∀ {id}, t'.live id → t.live id ∨ t.nextId ≤ id.val

namespace LaterThan

/-- A tree may have come of itself. -/
theorem refl (t : TtyTree α) : t.LaterThan t :=
  ⟨Nat.le_refl _, .inl⟩

/-- What comes of a tree in two steps has come of it. -/
theorem trans (h : t''.LaterThan t') (h' : t'.LaterThan t) : t''.LaterThan t := by
  refine ⟨Nat.le_trans h'.nextId_le h.nextId_le, fun hl => ?_⟩
  rcases h.fresh hl with hl | hle
  · exact h'.fresh hl
  · exact .inr (Nat.le_trans h'.nextId_le hle)

/-- An id that had been handed out and was in use no longer is not in use again. -/
theorem dead (h : t'.LaterThan t) (hid : id.val < t.nextId) (hdead : t.live id = false) :
    t'.live id = false := by
  refine Bool.eq_false_iff.2 fun hl => ?_
  rcases h.fresh hl with hl | hle
  · simp [hl] at hdead
  · omega

/-- A child is a tty with a new id. -/
theorem of_addChild (e : t.addChild p k = .ok (t', id)) : t'.LaterThan t := by
  obtain ⟨-, -, hid, -, hnext, -⟩ := addChild_eq_ok_iff.1 e
  refine ⟨by omega, fun {x} hx => ?_⟩
  rw [live_iff, link?_of_addChild e] at hx
  split at hx
  · rename_i hnew
    right
    rw [hnew, hid]
  · exact .inl (live_iff.2 hx)

/-- Taking ttys out brings no new ones. -/
theorem without (t : TtyTree α) (gone : Tty α → Bool) : (t.without gone).LaterThan t := by
  refine ⟨Nat.le_refl _, fun hl => .inl ?_⟩
  rw [live_iff_mem_ids] at hl ⊢
  exact (List.filter_sublist.map _).subset hl

/-- A path that is made is made of ttys with new ids, taken back or not. -/
theorem create (t : TtyTree α) (p : TtyId) (q : List UInt32) :
    (t.create p q).tree.LaterThan t := by
  have hextend : (t.extend p q).tree.LaterThan t :=
    extend_invariant (P := (·.LaterThan t)) (.refl t) fun e h => (of_addChild e).trans h
  rw [TtyTree.create]
  split
  · dsimp only
    split
    · exact hextend
    · exact (without _ _).trans hextend
  · exact .refl t

/-- Clearing brings no new ttys. -/
theorem collect (t : TtyTree α) (id : TtyId) : (t.collect id).1.LaterThan t := by
  refine collect_induction (motive := fun t _ r => r.1.LaterThan t) ?_ ?_ ?_ t id
  · exact fun t id _ => .refl t
  · exact fun t id k _ _ _ _ => without t _
  · exact fun t id p k r _ _ _ _ hr => hr.trans (without t _)

/-- Changing the focus or the clients of a tty brings no new ones. -/
theorem adjust (t : TtyTree α) (id : TtyId) (focus : Option UInt32 → Option UInt32)
    (clients : List α → List α) : (t.adjust id focus clients).LaterThan t :=
  ⟨Nat.le_refl _, fun hl => .inl (by rwa [live_adjust] at hl)⟩

variable [DecidableEq α]

/-- No operation brings back an id that was given out. -/
theorem after (t : TtyTree α) (op : Operation α) : (t.after op).LaterThan t :=
  after_invariant (P := (·.LaterThan t)) (.refl t) (fun p q => create t p q)
    (fun id => collect t id) (fun id focus clients h => (adjust _ id focus clients).trans h) op

end LaterThan

/-- The ids of the ttys that were made on the way have been handed out, and were not before. -/
theorem id_of_made {m : UInt32 × TtyId} (hm : m ∈ (t.create p q).made) :
    t.nextId ≤ m.2.val ∧ m.2.val < (t.create p q).tree.nextId := by
  have hl : t.live p := by
    by_contra hdead
    rw [create_of_dead (Bool.eq_false_iff.2 hdead)] at hm
    cases hm
  obtain ⟨hmade, hnext⟩ := made_of_live (q := q) hl
  obtain ⟨made, htt, hids, hle, -⟩ := extend_ttys t p q
  have hid : m.2 ∈ made.map (·.id) := by
    rw [hids, ← hmade]
    exact List.mem_map_of_mem hm
  obtain ⟨n, hn, he⟩ := List.mem_map.1 hid
  rw [hnext, ← he]
  exact ⟨hle n hn, (t.extend p q).tree.issued n (htt ▸ List.mem_append_right _ hn)⟩

section operations

variable [DecidableEq α] {op : Operation α}

/-- Nor do several, one after the other. -/
theorem laterThan_run (t : TtyTree α) (ops : List (Operation α)) :
    (ops.foldl after t).LaterThan t := by
  induction ops generalizing t with
  | nil => exact .refl t
  | cons op ops ih => exact (ih _).trans (.after t op)

/-- A tty that has gone does not come back. -/
theorem not_live_again (hl : t.live id) {more : List (Operation α)}
    (hgone : (more.foldl after t).live id = false) (later : List (Operation α)) :
    (later.foldl after (more.foldl after t)).live id = false := by
  have hnext := (laterThan_run t more).nextId_le
  have hlt := lt_nextId_of_live hl
  exact (laterThan_run _ later).dead (by omega) hgone

/-- The ttys that an attempt made and took away again do not come back. -/
theorem not_live_after_error {e : TtyError} (he : (t.create p q).result = .error e)
    {m : UInt32 × TtyId} (hm : m ∈ (t.create p q).made) (later : List (Operation α)) :
    (later.foldl after (t.create p q).tree).live m.2 = false := by
  obtain ⟨hle, hlt⟩ := id_of_made hm
  refine (laterThan_run _ later).dead hlt (Bool.eq_false_iff.2 fun hl => ?_)
  have hold : t.live m.2 := by
    rw [live_iff_mem_ids, (create_of_error he).1] at hl
    exact live_iff_mem_ids.2 hl
  have hnext := lt_nextId_of_live hold
  omega

/-! ### Operations on ttys that are not there -/

/-- The tty that an operation cannot do without. -/
def Operation.target? : Operation α → Option TtyId
  | .create parent _ => some parent
  | .attach id _ => some id
  | .detach _ _ => none
  | .move _ _ target => some target
  | .setFocus id _ => some id
  | .collect _ => none

/-- An operation on a tty that is not there is refused, and does nothing. -/
theorem refused_of_dead (hop : op.target? = some id) (hdead : t.live id = false) :
    t.answer op = .error (.noSuchTty id) ∧ t.after op = t := by
  have hnot : ¬ t.live id := by simp [hdead]
  cases op with
  | create parent path =>
    obtain rfl := Option.some.inj hop
    rw [answer, after, create_of_dead hdead]
    exact ⟨rfl, rfl⟩
  | attach x c =>
    obtain rfl := Option.some.inj hop
    simp only [answer, after, attach, if_neg hnot]
    exact ⟨rfl, rfl⟩
  | detach x c => cases hop
  | move c source target =>
    obtain rfl := Option.some.inj hop
    simp only [answer, after, move, if_neg hnot]
    exact ⟨rfl, rfl⟩
  | setFocus x focus =>
    obtain rfl := Option.some.inj hop
    simp only [answer, after, setFocus, if_neg hnot]
    exact ⟨rfl, rfl⟩
  | collect x => cases hop

/-- An operation on a tty that is there is not told that there is no such tty. -/
theorem answer_ne_noSuchTty (hop : ∀ x, op.target? = some x → t.live x) :
    t.answer op ≠ .error (.noSuchTty id) := by
  intro h
  cases op with
  | create parent path =>
    have hl := hop parent rfl
    cases hr : (t.create parent path).result with
    | ok x => simp [answer, hr, Except.map] at h
    | error e => simp [answer, hr, Except.map, create_error_eq hl hr] at h
  | attach x c => simp [answer, attach, hop x rfl, Except.map] at h
  | detach x c => simp [answer] at h
  | move c source target => simp [answer, move_of_live (hop target rfl), Except.map] at h
  | setFocus x focus => simp [answer, setFocus_of_live (hop x rfl), Except.map] at h
  | collect x => simp [answer] at h

/-- An operation is refused for want of a tty exactly if its target is not there. -/
theorem noSuchTty_iff :
    t.answer op = .error (.noSuchTty id) ↔ op.target? = some id ∧ t.live id = false := by
  constructor
  · intro h
    obtain ⟨x, hop, hdead⟩ : ∃ x, op.target? = some x ∧ t.live x = false := by
      by_contra hnone
      push Not at hnone
      exact answer_ne_noSuchTty (fun x hx => by simpa using hnone x hx) h
    obtain rfl : x = id := by simpa [(refused_of_dead hop hdead).1] using h
    exact ⟨hop, hdead⟩
  · rintro ⟨hop, hdead⟩
    exact (refused_of_dead hop hdead).1

/-! ### Any operations -/

/-- How the ttys of a tree hang together. -/
structure Shaped (t : TtyTree α) (limit : Nat) : Prop where
  /-- The permanent ttys are there, and hang nowhere. -/
  top : ∀ id, permanent id → t.live id ∧ t.parentOf? id = none
  /-- No two ttys have the same id. -/
  nodup : (t.ttys.map (·.id)).Nodup
  /-- Any other tty has a parent that is there and lists it once. -/
  parent : ∀ id, t.live id → permanent id = false →
    ∃ p, t.parentOf? id = some p ∧ t.live p ∧ (t.children p).count id = 1
  /-- What is listed is there, and has the tty that lists it as its parent. -/
  child : ∀ p, ∀ c ∈ t.children p, t.live p ∧ t.live c ∧ t.parentOf? c = some p
  climbs : ∀ id, t.live id →
    ∃ top, permanent top ∧ Relation.ReflTransGen (fun c p => t.parentOf? c = some p) id top
  older : ∀ id p, t.parentOf? id = some p → p.val < id.val
  issued : ∀ id, t.live id → id.val < t.nextId
  size_eq : t.size = t.inner.card
  size_le : t.size ≤ limit

/-- Operations lead to trees of this shape. -/
theorem Reached.shaped {limit : Nat} (h : t.Reached limit) : t.Shaped limit := by
  have hroot := h.rooted
  have hord := hroot.ordered
  constructor
  case top => exact fun id hperm => hroot.of_permanent hperm
  case nodup => exact hord.nodup_ids
  case parent =>
    intro id hl hperm
    obtain ⟨p, hp, hlive⟩ := hroot.exists_parent hl hperm
    have hmem := hord.mem_children_iff_parentOf?.2 hp
    exact ⟨p, hp, hlive, List.count_eq_one_of_mem (hord.nodup_children p) hmem⟩
  case child =>
    intro p c hc
    have hp := hord.mem_children_iff_parentOf?.1 hc
    obtain ⟨k, hlink⟩ := parentOf?_eq_some_iff.1 hp
    exact ⟨hroot.parent hlink, live_of_parentOf? hp, hp⟩
  case climbs => exact fun id hl => hroot.climbs hl
  case older => exact fun id p hp => lt_of_parentOf? hp
  case issued => exact fun id hl => lt_nextId_of_live hl
  case size_eq => exact hroot.card_inner.symm
  case size_le => exact h.limit_eq ▸ hroot.size_le

/-- What may be relied on in a tree and in one whose ttys list their children, now and after any
further operations. -/
structure KeepsShape (limit : Nat) (t : TtyTree α) (a : LinkedTree α) : Prop where
  shaped : t.Shaped limit
  /-- The lists are those of the children, and all else is the same. -/
  linked : a = t.linked
  /-- That is so after one more operation too, and both give the same answer to it. -/
  performs : ∀ op, a.perform op = ((t.after op).linked, t.answer op)
  /-- A tty that goes does not come back. -/
  removed : ∀ (id : TtyId) (more : List (Operation α)), t.live id →
    (more.foldl after t).live id = false → ∀ later, ((more ++ later).foldl after t).live id = false
  /-- Nor do the ttys of a path that could not be made. -/
  unmade : ∀ p q e, (t.create p q).result = .error e → ∀ m ∈ (t.create p q).made,
    ∀ later, ((.create p q :: later).foldl after t).live m.2 = false
  /-- There is no such tty if and only if the target is not there. -/
  refused : ∀ op id,
    t.answer op = .error (.noSuchTty id) ↔ op.target? = some id ∧ t.live id = false
  /-- What is refused for that reason changes nothing. -/
  unchanged : ∀ op id, t.answer op = .error (.noSuchTty id) → t.after op = t

/-- Whatever the operations, the tree keeps its shape: every tty hangs below the root or the lobby,
parents are older than their children, no id comes back, and no more ttys are there than the limit
allows. The tree whose ttys list their children goes along with it, operation by operation, and
gives the same answers. -/
theorem operations_keep_shape (limit : Nat) (ops : List (Operation α)) :
    KeepsShape limit (ops.foldl after (withLimit limit))
      (ops.foldl (fun a op => (a.perform op).1) (LinkedTree.withLimit limit)) := by
  have hreached : (ops.foldl after (withLimit limit)).Reached limit := ⟨ops, rfl⟩
  rw [linked_run]
  constructor
  case shaped => exact hreached.shaped
  case linked => rfl
  case performs => exact fun op => hreached.rooted.ordered.linked_perform op
  case removed =>
    intro id more hl hgone later
    rw [List.foldl_append]
    exact not_live_again hl hgone later
  case unmade => exact fun p q e he m hm later => not_live_after_error he hm later
  case refused => exact fun op id => noSuchTty_iff
  case unchanged =>
    intro op id h
    obtain ⟨hop, hdead⟩ := noSuchTty_iff.1 h
    exact (refused_of_dead hop hdead).2

end operations

end BrailleShare.TtyTree
