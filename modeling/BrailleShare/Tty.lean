/-!
# The tree of ttys

A tty is a virtual console; ttys lie inside each other, so a tty is reached by a path of numbers
from the root. Clients sit in a tty, in the order in which they came. Beside the root there is a
*lobby*, a second permanent tty without children, for the clients that hold none.

The tree is a list of ttys, oldest first, each naming its parent: the children of a tty are the
ttys that name it, oldest first. Ids are handed out in ascending order and never again, so a tty's
id is greater than its parent's (`TtyTree.older`); every walk downwards ends for that reason. A tty
other than the two permanent ones goes away when neither clients nor children are left in it.

For want of room a tty is refused at the limit only: an allocation that fails is left out, and so
are ids beyond 64 bits.
-/

namespace BrailleShare

/-- What a tty is known by inside the tree. -/
structure TtyId where
  val : Nat
  deriving DecidableEq, Repr

/-- One tty. -/
structure Tty (α : Type) where
  id : TtyId
  /-- The number it has among its parent's children. -/
  number : UInt32
  /-- The number of the child that has focus; if none is set the active console decides. -/
  focus : Option UInt32
  parent : Option TtyId
  /-- The clients in this very tty, in the order in which they came. -/
  clients : List α
  deriving DecidableEq, Repr

/-- Why the tree refused an operation. -/
inductive TtyError where
  /-- There are as many ttys as there may be. -/
  | limitReached (limit : Nat)
  /-- No tty has this id any more, or yet. -/
  | noSuchTty (id : TtyId)
  deriving DecidableEq, Repr

/-- The refusal in words. -/
def TtyError.message : TtyError → String
  | .limitReached limit => s!"tty limit of {limit} nodes reached"
  | .noSuchTty id => s!"no such tty TtyId({id.val})"

/-- The ttys there are. -/
structure TtyTree (α : Type) where
  /-- The ttys, oldest first. -/
  ttys : List (Tty α)
  /-- The id that the next tty gets. -/
  nextId : Nat
  /-- How many ttys there may be beside the permanent two. -/
  limit : Nat
  /-- Every id has been handed out. -/
  issued : ∀ n ∈ ttys, n.id.val < nextId
  /-- A parent is older than its child. -/
  older : ∀ n ∈ ttys, ∀ p, n.parent = some p → p.val < n.id.val

namespace TtyTree

variable {α : Type}

/-- Where every path starts. -/
def root : TtyId := ⟨0⟩

/-- Where the clients without a tty are. -/
def lobby : TtyId := ⟨1⟩

/-- The tree of the permanent ttys. -/
def withLimit (limit : Nat) : TtyTree α where
  ttys := [⟨root, 0, none, none, []⟩, ⟨lobby, 0, none, none, []⟩]
  nextId := 2
  limit := limit
  issued n hn := by
    rcases List.mem_cons.1 hn with rfl | hn
    · exact Nat.zero_lt_two
    · cases List.mem_singleton.1 hn
      exact Nat.one_lt_two
  older n hn p hp := by
    rcases List.mem_cons.1 hn with rfl | hn
    · cases hp
    · cases List.mem_singleton.1 hn
      cases hp

/-! ## Looking at the tree -/

/-- The tty with a given id. -/
def find? (t : TtyTree α) (id : TtyId) : Option (Tty α) :=
  t.ttys.find? fun n => n.id == id

/-- Whether an id is in use. -/
def live (t : TtyTree α) (id : TtyId) : Bool :=
  (t.find? id).isSome

/-- The number of ttys beside the permanent two. -/
def size (t : TtyTree α) : Nat :=
  t.ttys.length - 2

/-- The children of a tty, oldest first. -/
def children (t : TtyTree α) (id : TtyId) : List TtyId :=
  (t.ttys.filter fun n => n.parent == some id).map (·.id)

/-- The child of a tty with a given number, the oldest if several have it. -/
def child? (t : TtyTree α) (id : TtyId) (number : UInt32) : Option TtyId :=
  (t.ttys.find? fun n => n.parent == some id && n.number == number).map (·.id)

/-- The clients in a tty. -/
def clientsOf (t : TtyTree α) (id : TtyId) : List α :=
  ((t.find? id).map (·.clients)).getD []

/-- Every client in the tree. -/
def allClients (t : TtyTree α) : List α :=
  t.ttys.flatMap (·.clients)

/-- What is found by an id is in the tree. -/
theorem mem_of_find? {t : TtyTree α} {id : TtyId} {n : Tty α} (h : t.find? id = some n) :
    n ∈ t.ttys :=
  List.mem_of_find?_eq_some h

/-- What is found by an id has this id. -/
theorem id_of_find? {t : TtyTree α} {id : TtyId} {n : Tty α} (h : t.find? id = some n) :
    n.id = id := by
  simpa using List.find?_some h

/-- A child lies between its parent and the next id. -/
theorem lt_of_child? {t : TtyTree α} {id c : TtyId} {number : UInt32}
    (h : t.child? id number = some c) : id.val < c.val ∧ c.val < t.nextId := by
  obtain ⟨n, hn, rfl⟩ := Option.map_eq_some_iff.1 h
  have hm := List.mem_of_find?_eq_some hn
  have hp := List.find?_some hn
  simp only [Bool.and_eq_true, beq_iff_eq] at hp
  exact ⟨t.older n hm id hp.1, t.issued n hm⟩

/-- A child lies between its parent and the next id. -/
theorem lt_of_mem_children {t : TtyTree α} {id c : TtyId} (h : c ∈ t.children id) :
    id.val < c.val ∧ c.val < t.nextId := by
  simp only [children, List.mem_map, List.mem_filter, beq_iff_eq] at h
  obtain ⟨n, ⟨hm, hp⟩, rfl⟩ := h
  exact ⟨t.older n hm id hp, t.issued n hm⟩

/-! ## Paths -/

/-- How far a path leads. -/
inductive Lookup where
  /-- To its end. -/
  | found (id : TtyId)
  /-- Through `matched` numbers to a tty that has no child with the next one. -/
  | missing (deepest : TtyId) (matched : Nat)
  deriving DecidableEq, Repr

/-- Follows the rest of a path from a tty that its first `matched` numbers led to. -/
def lookupFrom (t : TtyTree α) (here : TtyId) (matched : Nat) : List UInt32 → Lookup
  | [] => .found here
  | number :: rest =>
    match t.child? here number with
    | some c => t.lookupFrom c (matched + 1) rest
    | none => .missing here matched

/-- Follows a path from the root. -/
def lookup (t : TtyTree α) (path : List UInt32) : Lookup :=
  t.lookupFrom root 0 path

/-! ## Growing -/

/-- A new tty inside a living one. -/
def addChild (t : TtyTree α) (parent : TtyId) (number : UInt32) :
    Except TtyError (TtyTree α × TtyId) :=
  if t.limit ≤ t.size then .error (.limitReached t.limit)
  else match h : t.find? parent with
    | none => .error (.noSuchTty parent)
    | some n =>
      have below : parent.val < t.nextId := id_of_find? h ▸ t.issued n (mem_of_find? h)
      .ok ({ ttys := t.ttys ++ [⟨⟨t.nextId⟩, number, none, some parent, []⟩]
             nextId := t.nextId + 1
             limit := t.limit
             issued := by
               intro m hm
               simp only [List.mem_append, List.mem_singleton] at hm
               rcases hm with hm | rfl
               · exact Nat.lt_succ_of_lt (t.issued m hm)
               · exact Nat.lt_succ_self _
             older := by
               intro m hm p hp
               simp only [List.mem_append, List.mem_singleton] at hm
               rcases hm with hm | rfl
               · exact t.older m hm p hp
               · cases hp; exact below }, ⟨t.nextId⟩)

/-- The tree without the ttys that a test picks. -/
def without (t : TtyTree α) (gone : Tty α → Bool) : TtyTree α where
  ttys := t.ttys.filter fun n => !gone n
  nextId := t.nextId
  limit := t.limit
  issued n hn := t.issued n (List.mem_filter.1 hn).1
  older n hn := t.older n (List.mem_filter.1 hn).1

/-- What came of an attempt to create ttys. -/
structure Creation (α : Type) where
  tree : TtyTree α
  /-- The ttys that were made on the way, each by its number and id. -/
  made : List (UInt32 × TtyId)
  /-- The last tty of the path, or why it could not be made. -/
  result : Except TtyError TtyId

/-- Makes a chain of ttys below one, as far as possible. -/
def extend (t : TtyTree α) (here : TtyId) : List UInt32 → Creation α
  | [] => ⟨t, [], .ok here⟩
  | number :: rest =>
    match t.addChild here number with
    | .error e => ⟨t, [], .error e⟩
    | .ok (t', id) =>
      let c := t'.extend id rest
      { c with made := (number, id) :: c.made }

/-- Makes a chain of ttys below one, or none: where one cannot be made, those made on the way are
taken away again. Their ids are used up. -/
def create (t : TtyTree α) (parent : TtyId) (path : List UInt32) : Creation α :=
  if t.live parent then
    let c := t.extend parent path
    match c.result with
    | .ok _ => c
    | .error _ => { c with tree := c.tree.without fun n => c.made.any fun m => m.2 == n.id }
  else ⟨t, [], .error (.noSuchTty parent)⟩

/-! ## Clients and focus -/

/-- Changes the focus and the clients of one tty. -/
def adjust (t : TtyTree α) (id : TtyId) (focus : Option UInt32 → Option UInt32)
    (clients : List α → List α) : TtyTree α where
  ttys := t.ttys.map fun n =>
    if n.id = id then { n with focus := focus n.focus, clients := clients n.clients } else n
  nextId := t.nextId
  limit := t.limit
  issued n hn := by
    obtain ⟨m, hm, rfl⟩ := List.mem_map.1 hn
    split <;> exact t.issued m hm
  older n hn p hp := by
    obtain ⟨m, hm, rfl⟩ := List.mem_map.1 hn
    by_cases h : m.id = id
    · rw [if_pos h] at hp ⊢
      exact t.older m hm p hp
    · rw [if_neg h] at hp ⊢
      exact t.older m hm p hp

/-- Seats a client in a tty, behind those already there; a tty that is not there takes nobody. -/
def seat (t : TtyTree α) (id : TtyId) (client : α) : TtyTree α :=
  t.adjust id (fun f => f) (· ++ [client])

/-- Seats a client in a tty that has to be there. -/
def attach (t : TtyTree α) (id : TtyId) (client : α) : Except TtyError (TtyTree α) :=
  if t.live id then .ok (t.seat id client) else .error (.noSuchTty id)

/-- Takes a client out of a tty. -/
def detach [DecidableEq α] (t : TtyTree α) (id : TtyId) (client : α) : TtyTree α :=
  t.adjust id (fun f => f) (·.filter fun c => !decide (c = client))

/-- Moves a client from one tty to another. -/
def move [DecidableEq α] (t : TtyTree α) (client : α) (source target : TtyId) :
    Except TtyError (TtyTree α) :=
  if t.live target then (t.detach source client).attach target client
  else .error (.noSuchTty target)

/-- Gives focus to a child of a tty, or leaves it to the active console. -/
def setFocus (t : TtyTree α) (id : TtyId) (focus : Option UInt32) : Except TtyError (TtyTree α) :=
  if t.live id then .ok (t.adjust id (fun _ => focus) (fun cs => cs))
  else .error (.noSuchTty id)

/-! ## Clearing away -/

/-- The root and the lobby stay whatever happens. -/
def permanent (id : TtyId) : Bool :=
  id == root || id == lobby

/-- The tree without one tty. -/
def unlink (t : TtyTree α) (id : TtyId) : TtyTree α :=
  t.without fun n => n.id == id

/-- A tty that is taken out leaves fewer behind. -/
theorem length_unlink_lt {t : TtyTree α} {id : TtyId} {n : Tty α} (h : t.find? id = some n) :
    (t.unlink id).ttys.length < t.ttys.length := by
  simp only [unlink, without]
  refine List.length_filter_lt_length_iff_exists.2 ⟨n, mem_of_find? h, ?_⟩
  simp [id_of_find? h]

/-- Removes a tty that is empty, then its parent if that left it empty, and so on upwards. Gives
the number and id of each tty removed, deepest first. -/
def collect (t : TtyTree α) (id : TtyId) : TtyTree α × List (UInt32 × TtyId) :=
  if permanent id then (t, [])
  else match h : t.find? id with
    | none => (t, [])
    | some n =>
      if n.clients.isEmpty && (t.children id).isEmpty then
        have := length_unlink_lt h
        match n.parent with
        | none => (t.unlink id, [(n.number, id)])
        | some p =>
          let rest := (t.unlink id).collect p
          (rest.1, (n.number, id) :: rest.2)
      else (t, [])
  termination_by t.ttys.length

end TtyTree

end BrailleShare
