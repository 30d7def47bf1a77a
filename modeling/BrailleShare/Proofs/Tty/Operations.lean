import BrailleShare.Proofs.Tty.Creation
import Mathlib.Data.List.Find
import Mathlib.Data.List.Induction
import Mathlib.Data.List.Nodup

/-!
# Any operations on a tree

A server works on its tree with care: it makes ttys only where a path leads no further, and clears
away what it leaves. This file asks what holds of a tree without such care, when ttys are made,
clients moved and ttys cleared away under any ids, those included that are not there any more or
that have never been. Siblings may then share a number, ttys may hang below the lobby, and ttys may
be of no use.

Main statements: whatever is done, every tty hangs where it should and the limit is kept
(`Rooted.after`, `Reached.rooted`); so the child that a number leads to is the first of the children
that has it (`Ordered.child?_eq_find?`).
-/

namespace BrailleShare.TtyTree

variable {α : Type} {t t' : TtyTree α} {id p here : TtyId} {k : UInt32} {q : List UInt32}

/-! ### Operations -/

/-- Something that may be done to a tree. -/
inductive Operation (α : Type) where
  | create (parent : TtyId) (path : List UInt32)
  | attach (id : TtyId) (client : α)
  | detach (id : TtyId) (client : α)
  | move (client : α) (source target : TtyId)
  | setFocus (id : TtyId) (focus : Option UInt32)
  | collect (id : TtyId)
  deriving DecidableEq, Repr

section operations

variable [DecidableEq α]

/-- The tree after an operation, which is the one before it if the operation is refused. -/
def after (t : TtyTree α) : Operation α → TtyTree α
  | .create parent path => (t.create parent path).tree
  | .attach id client => (t.attach id client).toOption.getD t
  | .detach id client => t.detach id client
  | .move client source target => (t.move client source target).toOption.getD t
  | .setFocus id focus => (t.setFocus id focus).toOption.getD t
  | .collect id => (t.collect id).1

/-- The answer to an operation: why it is refused, or the tty at the end of the path, or the ttys
that were cleared away. -/
def answer (t : TtyTree α) : Operation α → Except TtyError (List TtyId)
  | .create parent path => (t.create parent path).result.map ([·])
  | .attach id client => (t.attach id client).map fun _ => []
  | .detach _ _ => .ok []
  | .move client source target => (t.move client source target).map fun _ => []
  | .setFocus id focus => (t.setFocus id focus).map fun _ => []
  | .collect id => .ok ((t.collect id).2.map (·.2))

/-- Some operations lead to the tree from the one that has the permanent ttys alone. -/
def Reached (t : TtyTree α) (limit : Nat) : Prop :=
  ∃ ops : List (Operation α), t = ops.foldl after (withLimit limit)

/-- An operation that is refused leaves the tree alone. -/
theorem move_getD (t : TtyTree α) (c : α) (source target : TtyId) :
    (t.move c source target).toOption.getD t =
      if t.live target then (t.detach source c).seat target c else t := by
  split
  · rw [move_of_live ‹_›]
    rfl
  · rw [move, if_neg ‹_›]
    rfl

end operations

/-- A client is let in where there is a tty. -/
theorem attach_getD (t : TtyTree α) (id : TtyId) (c : α) :
    (t.attach id c).toOption.getD t = if t.live id then t.seat id c else t := by
  unfold attach
  split <;> rfl

/-- A focus is set where there is a tty. -/
theorem setFocus_getD (t : TtyTree α) (id : TtyId) (focus : Option UInt32) :
    (t.setFocus id focus).toOption.getD t =
      if t.live id then t.adjust id (fun _ => focus) (fun cs => cs) else t := by
  unfold setFocus
  split <;> rfl

/-- An operation makes ttys, clears ttys away, or changes the focus and the clients of some ttys one
after the other. -/
theorem after_invariant [DecidableEq α] {P : TtyTree α → Prop} (h : P t)
    (create : ∀ p q, P (t.create p q).tree) (collect : ∀ id, P (t.collect id).1)
    (adjust : ∀ {t : TtyTree α} id focus clients, P t → P (t.adjust id focus clients))
    (op : Operation α) : P (t.after op) := by
  cases op with
  | create parent path => exact create parent path
  | attach id c =>
    rw [after, attach_getD]
    split
    · exact adjust id _ _ h
    · exact h
  | detach id c => exact adjust id (fun f => f) _ h
  | move c source target =>
    rw [after, move_getD]
    split
    · exact adjust target _ _ (adjust source _ _ h)
    · exact h
  | setFocus id focus =>
    rw [after, setFocus_getD]
    split
    · exact adjust id _ _ h
    · exact h
  | collect id => exact collect id

/-! ### Rooted trees -/

/-- The permanent ttys are there, every other tty hangs below one that is there, and the limit is
kept. -/
structure Rooted (t : TtyTree α) : Prop where
  ordered : t.Ordered
  root_link : t.link? root = some (none, 0)
  lobby_link : t.link? lobby = some (none, 0)
  /-- A tty without a parent is permanent. -/
  top : ∀ {id k}, t.link? id = some (none, k) → permanent id
  parent : ∀ {id p k}, t.link? id = some (some p, k) → t.live p
  size_le : t.size ≤ t.limit

/-- A new tree is rooted. -/
theorem rooted_withLimit (limit : Nat) : (withLimit limit : TtyTree α).Rooted :=
  have h := withLimit_sound limit
  ⟨h.ordered, h.root_link, h.lobby_link, h.top, fun hx => (h.parent hx).1, h.size_le⟩

namespace Rooted

/-- The root is there. -/
theorem live_root (h : t.Rooted) : t.live root :=
  live_of_link? h.root_link

/-- The lobby is there. -/
theorem live_lobby (h : t.Rooted) : t.live lobby :=
  live_of_link? h.lobby_link

/-- There are at least two ttys. -/
theorem two_le_length (h : t.Rooted) : 2 ≤ t.ttys.length :=
  two_le_length_of_live h.live_root h.live_lobby

/-- The size counts the ttys but for the permanent two. -/
theorem card_inner (h : t.Rooted) : t.inner.card = t.size :=
  h.ordered.card_inner h.live_root h.live_lobby

/-- It does not matter which id comes next. -/
theorem of_ttys_eq (h : t.Rooted) (htt : t'.ttys = t.ttys) (hlimit : t'.limit = t.limit) :
    t'.Rooted := by
  have hfind : t'.find? = t.find? := by funext x; simp only [find?, htt]
  have hlink : t'.link? = t.link? := by funext x; simp only [link?, hfind]
  have hlive : t'.live = t.live := by funext x; simp only [live, hfind]
  have hsize : t'.size = t.size := by simp only [size, htt]
  constructor
  · rw [Ordered, htt]; exact h.ordered
  · rw [hlink]; exact h.root_link
  · rw [hlink]; exact h.lobby_link
  · rw [hlink]; exact h.top
  · rw [hlink, hlive]; exact h.parent
  · rw [hsize, hlimit]; exact h.size_le

/-- Clients and focus are not what a tty hangs by. -/
theorem adjust (h : t.Rooted) (id : TtyId) (focus : Option UInt32 → Option UInt32)
    (clients : List α → List α) : (t.adjust id focus clients).Rooted := by
  constructor
  · exact h.ordered.adjust focus clients
  · rw [link?_adjust]; exact h.root_link
  · rw [link?_adjust]; exact h.lobby_link
  · intro x k; rw [link?_adjust]; exact h.top
  · intro x p k; rw [link?_adjust, live_adjust]; exact h.parent
  · rw [size_adjust]; exact h.size_le

/-- A new tty hangs below the one that it was made in. -/
theorem addChild (h : t.Rooted) (e : t.addChild p k = .ok (t', id)) : t'.Rooted := by
  obtain ⟨hroom, hlive, -, -, -, hlimit⟩ := addChild_eq_ok_iff.1 e
  have hlink := link?_of_addChild e
  have hgrown := GrownFrom.of_addChild e
  constructor
  · exact h.ordered.addChild e
  · exact hgrown.links h.root_link
  · exact hgrown.links h.lobby_link
  · intro x k' hx
    rw [hlink] at hx
    split at hx
    · simp at hx
    · exact h.top hx
  · intro x p' k' hx
    rw [hlink] at hx
    split at hx
    · simp only [Option.some.injEq, Prod.mk.injEq] at hx
      exact hx.1 ▸ hgrown.live hlive
    · exact hgrown.live (h.parent hx)
  · have hsize := size_of_addChild e
    omega

/-- A rooted tree stays so when a path is made. -/
theorem extend (h : t.Rooted) : (t.extend here q).tree.Rooted :=
  extend_invariant h fun e h => h.addChild e

/-- An attempt makes a chain of ttys, or leaves the ttys as they were. -/
theorem create (h : t.Rooted) : (t.create p q).tree.Rooted := by
  cases he : (t.create p q).result with
  | ok id => exact create_of_ok he ▸ h.extend
  | error e =>
    obtain ⟨htt, hlimit⟩ := create_of_error he
    exact h.of_ttys_eq htt hlimit

/-- Where a childless tty is taken away, no parent is lost. -/
theorem unlink (h : t.Rooted) (hperm : permanent id = false) (hch : t.children id = []) :
    (t.unlink id).Rooted := by
  have hlink := link?_unlink t id
  obtain ⟨hroot, hlobby⟩ := permanent_eq_false_iff.1 hperm
  have hkept : ∀ {x l}, (t.unlink id).link? x = some l → t.link? x = some l := by
    intro x l hx
    rw [hlink] at hx
    split at hx
    · cases hx
    · exact hx
  constructor
  · exact h.ordered.unlink id
  · rw [hlink, if_neg hroot.symm]; exact h.root_link
  · rw [hlink, if_neg hlobby.symm]; exact h.lobby_link
  · exact fun hx => h.top (hkept hx)
  · intro x p' k' hx
    have hne : p' ≠ id := by
      rintro rfl
      have hmem : x ∈ t.children p' := h.ordered.mem_children_iff.2 ⟨k', hkept hx⟩
      simp [hch] at hmem
    rw [live_iff, hlink, if_neg hne]
    exact live_iff.1 (h.parent (hkept hx))
  · exact Nat.le_trans (size_unlink_le t id) h.size_le

/-- A rooted tree stays so when it is cleared. -/
theorem collect (h : t.Rooted) (id : TtyId) : (t.collect id).1.Rooted := by
  revert h
  refine collect_induction (motive := fun t _ r => t.Rooted → r.1.Rooted) ?_ ?_ ?_ t id
  · exact fun t id _ h => h
  · exact fun t id k hperm _ hch _ h => h.unlink hperm hch
  · exact fun t id p k r hperm _ hch _ hr h => hr (h.unlink hperm hch)

/-- Whatever is done to a tree, it stays rooted. -/
theorem after [DecidableEq α] (h : t.Rooted) (op : Operation α) : (t.after op).Rooted :=
  after_invariant h (fun _ _ => h.create) h.collect (fun id f cs h => h.adjust id f cs) op

end Rooted

/-- Making a path leaves the limit as it is. -/
theorem limit_create (t : TtyTree α) (p : TtyId) (q : List UInt32) :
    (t.create p q).tree.limit = t.limit := by
  cases he : (t.create p q).result with
  | ok id =>
    obtain ⟨made, -, -, -, hlimit⟩ := extend_ttys t p q
    rw [create_of_ok he, hlimit]
  | error e => exact (create_of_error he).2

section operations

variable [DecidableEq α]

/-- No operation changes the limit. -/
theorem limit_after (t : TtyTree α) (op : Operation α) : (t.after op).limit = t.limit :=
  after_invariant (P := fun t' => t'.limit = t.limit) rfl (limit_create t) (limit_collect t)
    (fun _ _ _ h => h) op

/-- What holds at the start and survives each operation holds of every tree that operations lead
to. -/
theorem Reached.invariant {P : TtyTree α → Prop} {limit : Nat} (h : t.Reached limit)
    (begins : P (withLimit limit)) (keeps : ∀ t op, P t → P (t.after op)) : P t := by
  obtain ⟨ops, rfl⟩ := h
  induction ops using List.reverseRecOn with
  | nil => exact begins
  | append_singleton ops op ih => rw [List.foldl_concat]; exact keeps _ op ih

/-- Operations lead to rooted trees. -/
theorem Reached.rooted {limit : Nat} (h : t.Reached limit) : t.Rooted :=
  h.invariant (rooted_withLimit limit) fun _ op h => h.after op

/-- Operations leave the limit as it is. -/
theorem Reached.limit_eq {limit : Nat} (h : t.Reached limit) : t.limit = limit :=
  h.invariant (P := fun t => t.limit = limit) rfl fun t op h => (limit_after t op).trans h

end operations

/-! ### Parents, and children by their numbers -/

/-- The tty that a tty hangs below, if it hangs below one. -/
def parentOf? (t : TtyTree α) (id : TtyId) : Option TtyId :=
  (t.find? id).bind (·.parent)

/-- The parent is told by the link. -/
theorem parentOf?_eq_some_iff : t.parentOf? id = some p ↔ ∃ k, t.link? id = some (some p, k) := by
  cases h : t.find? id <;> simp [parentOf?, link?, h]

/-- A tty with a link to a parent has this parent. -/
theorem parentOf?_of_link? (h : t.link? id = some (some p, k)) : t.parentOf? id = some p :=
  parentOf?_eq_some_iff.2 ⟨k, h⟩

/-- A parent is older than its children. -/
theorem lt_of_parentOf? (h : t.parentOf? id = some p) : p.val < id.val := by
  obtain ⟨k, hk⟩ := parentOf?_eq_some_iff.1 h
  exact lt_of_link? hk

/-- What has a parent is there. -/
theorem live_of_parentOf? (h : t.parentOf? id = some p) : t.live id := by
  obtain ⟨k, hk⟩ := parentOf?_eq_some_iff.1 h
  exact live_of_link? hk

/-- The children of a tty are those that hang below it. -/
theorem Ordered.mem_children_iff_parentOf? (h : t.Ordered) {c : TtyId} :
    c ∈ t.children p ↔ t.parentOf? c = some p :=
  h.mem_children_iff.trans parentOf?_eq_some_iff.symm

/-- Taking a tty out takes it from the children of its parent. -/
theorem Ordered.children_unlink_eq_erase {x : TtyId} (h : t.Ordered) :
    (t.unlink id).children x = (t.children x).erase id := by
  rw [children_unlink, (h.nodup_children x).erase_eq_filter]
  rfl

/-- A tty that goes is no child of any but its parent. -/
theorem Ordered.children_unlink_of_ne {x : TtyId} (h : t.Ordered) (hx : t.parentOf? id ≠ some x) :
    (t.unlink id).children x = t.children x := by
  rw [h.children_unlink_eq_erase]
  exact List.erase_of_not_mem fun hmem => hx (h.mem_children_iff_parentOf?.1 hmem)

/-- A permanent tty is there, and hangs nowhere. -/
theorem Rooted.of_permanent (h : t.Rooted) (hperm : permanent id) :
    t.live id ∧ t.parentOf? id = none := by
  have hlink : t.link? id = some (none, 0) := by
    simp only [permanent, Bool.or_eq_true, beq_iff_eq] at hperm
    rcases hperm with rfl | rfl
    · exact h.root_link
    · exact h.lobby_link
  obtain ⟨n, hn, hparent, -⟩ := find?_of_link? hlink
  exact ⟨live_of_link? hlink, by simp [parentOf?, hn, hparent]⟩

/-- A tty that is not permanent hangs below one that is there. -/
theorem Rooted.exists_parent (h : t.Rooted) (hl : t.live id) (hperm : permanent id = false) :
    ∃ p, t.parentOf? id = some p ∧ t.live p := by
  obtain ⟨⟨parent, k⟩, hlink⟩ := live_iff.1 hl
  cases parent with
  | none => simp [h.top hlink] at hperm
  | some p => exact ⟨p, parentOf?_of_link? hlink, h.parent hlink⟩

/-- The number of a tty, if it is there. -/
def numberOf? (t : TtyTree α) (id : TtyId) : Option UInt32 :=
  (t.find? id).map (·.number)

/-- A number leads to the first of the children that has it. -/
theorem Ordered.child?_eq_find? (h : t.Ordered) (p : TtyId) (k : UInt32) :
    t.child? p k = (t.children p).find? fun c => decide (t.numberOf? c = some k) := by
  have hnumber : ∀ n ∈ t.ttys, t.numberOf? n.id = some n.number := fun n hn => by
    rw [numberOf?, h.find?_of_mem hn, Option.map_some]
  rw [child?, TtyTree.children, List.find?_map, List.find?_filter]
  congr 1
  refine List.find?_congr fun n hn => ?_
  simp [hnumber n hn, Bool.beq_eq_decide_eq]

end BrailleShare.TtyTree
