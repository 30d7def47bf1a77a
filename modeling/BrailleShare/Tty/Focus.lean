import BrailleShare.Tty

/-!
# Focus

Every tty leads to at most one of its children: the one that its focus names, or, with focus unset,
the one numbered like the host's active console, or else the oldest. The *focus path* follows this
from the root as far as it goes. A search along it asks the deepest tty first, so that a client
further in comes before the clients around it.
-/

namespace BrailleShare.TtyTree

variable {α β : Type}

/-- The child that focus leads to. -/
def inFocus? (t : TtyTree α) (id : TtyId) (active : UInt32) : Option TtyId :=
  match t.find? id with
  | none => none
  | some n =>
    match n.focus with
    | some number => t.child? id number
    | none => t.child? id active <|> (t.children id).head?

/-- The child that focus leads to lies between its parent and the next id. -/
theorem lt_of_inFocus? {t : TtyTree α} {id c : TtyId} {active : UInt32}
    (h : t.inFocus? id active = some c) : id.val < c.val ∧ c.val < t.nextId := by
  unfold inFocus? at h
  split at h
  · cases h
  · split at h
    · exact lt_of_child? h
    · cases hc : t.child? id active with
      | some d =>
        rw [hc] at h
        cases h
        exact lt_of_child? hc
      | none =>
        rw [hc] at h
        exact lt_of_mem_children (List.mem_of_mem_head? h)

/-- The ttys from one on along focus. -/
def focusChainFrom (t : TtyTree α) (active : UInt32) (id : TtyId) : List TtyId :=
  match h : t.inFocus? id active with
  | none => [id]
  | some c =>
    have := lt_of_inFocus? h
    id :: t.focusChainFrom active c
  termination_by t.nextId - id.val

/-- The ttys from the root on along focus. -/
def focusChain (t : TtyTree α) (active : UInt32) : List TtyId :=
  t.focusChainFrom active root

/-- Asks one list after the other until an answer comes. Gives the answer and the lists that were
asked. -/
def firstAnswer (pick : List α → Option β) : List (List α) → Option β × List (List α)
  | [] => (none, [])
  | clients :: rest =>
    match pick clients with
    | some b => (some b, [clients])
    | none =>
      let r := firstAnswer pick rest
      (r.1, clients :: r.2)

/-- Asks the clients along focus, the deepest tty first. -/
def search (t : TtyTree α) (active : UInt32) (pick : List α → Option β) :
    Option β × List (List α) :=
  firstAnswer pick ((t.focusChain active).reverse.filterMap fun id => (t.find? id).map (·.clients))

/-- The answer of the deepest tty along focus that gives one. -/
def firstAlongFocus (t : TtyTree α) (active : UInt32) (pick : List α → Option β) : Option β :=
  (t.search active pick).1

end BrailleShare.TtyTree
