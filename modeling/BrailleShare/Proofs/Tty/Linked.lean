import BrailleShare.Proofs.Tty.Operations

/-!
# Ttys that list their children

A tree tells the children of a tty by the ttys that name it as their parent. Here every tty keeps a
list of its children as well, and nothing but the operations makes the two ends of a link agree: a
new tty is put into its parent's list, one that goes is taken out of it, and when a path cannot be
made, what was made of it goes again, the last tty first.

Main statements: each operation does to a tree with lists what it does to the tree without
(`Ordered.linked_perform`), and so do any operations in a row (`linked_run`); the lists are those of
the children at any time.
-/

namespace BrailleShare

/-- A tty that lists its children. -/
structure LinkedTty (α : Type) extends Tty α where
  children : List TtyId
  deriving DecidableEq, Repr

/-- A tree of ttys that list their children. -/
structure LinkedTree (α : Type) where
  ttys : List (LinkedTty α)
  /-- The id that the next tty gets. -/
  nextId : Nat
  /-- How many ttys there may be beside the permanent two. -/
  limit : Nat
  deriving DecidableEq, Repr

namespace LinkedTree

variable {α : Type}

/-- The tree of the permanent ttys. -/
def withLimit (limit : Nat) : LinkedTree α :=
  ⟨[⟨⟨TtyTree.root, 0, none, none, []⟩, []⟩, ⟨⟨TtyTree.lobby, 0, none, none, []⟩, []⟩], 2, limit⟩

def find? (a : LinkedTree α) (id : TtyId) : Option (LinkedTty α) :=
  a.ttys.find? fun n => n.id == id

def live (a : LinkedTree α) (id : TtyId) : Bool :=
  (a.find? id).isSome

def size (a : LinkedTree α) : Nat :=
  a.ttys.length - 2

/-- Changes one tty, if it is there. -/
def revise (a : LinkedTree α) (id : TtyId) (change : LinkedTty α → LinkedTty α) : LinkedTree α :=
  { a with ttys := a.ttys.map fun n => if n.id = id then change n else n }

/-! ### Making and taking away -/

/-- Makes a tty and puts it into its parent's list. -/
def addChild (a : LinkedTree α) (parent : TtyId) (number : UInt32) :
    Except TtyError (LinkedTree α × TtyId) :=
  if a.limit ≤ a.size then .error (.limitReached a.limit)
  else if a.live parent then
    let id : TtyId := ⟨a.nextId⟩
    let listed := a.revise parent fun n => { n with children := n.children ++ [id] }
    .ok (⟨listed.ttys ++ [⟨⟨id, number, none, some parent, []⟩, []⟩], a.nextId + 1, a.limit⟩, id)
  else .error (.noSuchTty parent)

/-- Takes a tty away, and out of its parent's list. -/
def unlink (a : LinkedTree α) (id : TtyId) : LinkedTree α :=
  match a.find? id with
  | none => a
  | some n =>
    let rest : LinkedTree α := { a with ttys := a.ttys.filter fun m => !(m.id == id) }
    match n.parent with
    | none => rest
    | some p => rest.revise p fun m => { m with children := m.children.filter fun c => !(c == id) }

/-- Makes a chain of ttys as far as possible. Gives those that were made, the last first. -/
def extend (a : LinkedTree α) (here : TtyId) (made : List TtyId) :
    List UInt32 → LinkedTree α × List TtyId × Except TtyError TtyId
  | [] => (a, made, .ok here)
  | number :: rest =>
    match a.addChild here number with
    | .error e => (a, made, .error e)
    | .ok (a', id) => a'.extend id (id :: made) rest

/-- Makes a chain of ttys, or takes away what was made of it. -/
def create (a : LinkedTree α) (parent : TtyId) (path : List UInt32) :
    LinkedTree α × Except TtyError TtyId :=
  if a.live parent then
    match a.extend parent [] path with
    | (a', _, .ok id) => (a', .ok id)
    | (a', made, .error e) => (made.foldl unlink a', .error e)
  else (a, .error (.noSuchTty parent))

/-- To change a tty leaves as many as there were. -/
theorem length_revise (a : LinkedTree α) (id : TtyId) (change : LinkedTty α → LinkedTty α) :
    (a.revise id change).ttys.length = a.ttys.length :=
  List.length_map _

/-- To take a tty out leaves fewer. -/
theorem length_unlink_lt {a : LinkedTree α} {id : TtyId} {n : LinkedTty α}
    (h : a.find? id = some n) : (a.unlink id).ttys.length < a.ttys.length := by
  have hid : n.id = id := by simpa using List.find?_some h
  have hlt : (a.ttys.filter fun m => !(m.id == id)).length < a.ttys.length :=
    List.length_filter_lt_length_iff_exists.2 ⟨n, List.mem_of_find?_eq_some h, by simp [hid]⟩
  unfold unlink
  split
  · simp_all
  · split
    · exact hlt
    · exact (length_revise ..).trans_lt hlt

/-- Takes a tty away that is empty, then its parent if that is left empty, and so on upwards. -/
def collect (a : LinkedTree α) (id : TtyId) : LinkedTree α × List TtyId :=
  if TtyTree.permanent id then (a, [])
  else match h : a.find? id with
    | none => (a, [])
    | some n =>
      if n.clients.isEmpty && n.children.isEmpty then
        have := length_unlink_lt h
        match n.parent with
        | none => (a.unlink id, [id])
        | some p =>
          let rest := (a.unlink id).collect p
          (rest.1, id :: rest.2)
      else (a, [])
  termination_by a.ttys.length

/-! ### Clients and focus -/

def attach (a : LinkedTree α) (id : TtyId) (client : α) : Except TtyError (LinkedTree α) :=
  if a.live id then .ok (a.revise id fun n => { n with clients := n.clients ++ [client] })
  else .error (.noSuchTty id)

def setFocus (a : LinkedTree α) (id : TtyId) (focus : Option UInt32) :
    Except TtyError (LinkedTree α) :=
  if a.live id then .ok (a.revise id fun n => { n with focus }) else .error (.noSuchTty id)

/-- The tree after a change that may be refused, and the answer to it. -/
def changed (a : LinkedTree α) :
    Except TtyError (LinkedTree α) → LinkedTree α × Except TtyError (List TtyId)
  | .ok a' => (a', .ok [])
  | .error e => (a, .error e)

section clients

variable [DecidableEq α]

def detach (a : LinkedTree α) (id : TtyId) (client : α) : LinkedTree α :=
  a.revise id fun n => { n with clients := n.clients.filter fun c => !decide (c = client) }

def move (a : LinkedTree α) (client : α) (source target : TtyId) : Except TtyError (LinkedTree α) :=
  if a.live target then (a.detach source client).attach target client
  else .error (.noSuchTty target)

/-- The tree after an operation, and the answer to it. -/
def perform (a : LinkedTree α) : TtyTree.Operation α → LinkedTree α × Except TtyError (List TtyId)
  | .create parent path => ((a.create parent path).1, (a.create parent path).2.map ([·]))
  | .attach id client => a.changed (a.attach id client)
  | .detach id client => (a.detach id client, .ok [])
  | .move client source target => a.changed (a.move client source target)
  | .setFocus id focus => a.changed (a.setFocus id focus)
  | .collect id => ((a.collect id).1, .ok (a.collect id).2)

end clients

end LinkedTree

namespace TtyTree

variable {α : Type} {t t' : TtyTree α} {id p : TtyId} {k : UInt32}

/-! ### Lists of children that are right -/

/-- The tree with its children listed. -/
def linked (t : TtyTree α) : LinkedTree α :=
  ⟨t.ttys.map fun n => ⟨n, t.children n.id⟩, t.nextId, t.limit⟩

/-- The tree whose ttys list their children has the same ttys, each with the list of its
children. -/
theorem find?_linked (t : TtyTree α) (id : TtyId) :
    t.linked.find? id = (t.find? id).map fun n => ⟨n, t.children n.id⟩ :=
  List.find?_map

/-- The same ttys are there. -/
theorem live_linked (t : TtyTree α) (id : TtyId) : t.linked.live id = t.live id := by
  rw [LinkedTree.live, find?_linked, Option.isSome_map, live]

/-- There are as many. -/
theorem size_linked (t : TtyTree α) : t.linked.size = t.size := by
  rw [LinkedTree.size, linked, List.length_map, size]

/-- The next id is the same. -/
theorem nextId_linked (t : TtyTree α) : t.linked.nextId = t.nextId := rfl

/-- The limit is the same. -/
theorem limit_linked (t : TtyTree α) : t.linked.limit = t.limit := rfl

/-- Clients and focus are in no list of children. -/
theorem linked_adjust (t : TtyTree α) (id : TtyId) (focus : Option UInt32 → Option UInt32)
    (clients : List α → List α) : (t.linked.revise id fun n =>
      { n with focus := focus n.focus, clients := clients n.clients }) =
        (t.adjust id focus clients).linked := by
  simp only [linked, LinkedTree.revise, adjust, List.map_map, LinkedTree.mk.injEq, and_true]
  refine List.map_congr_left fun n _ => ?_
  have hchildren := children_adjust t id n.id focus clients
  rw [adjust] at hchildren
  by_cases hn : n.id = id
  · subst hn
    simp [hchildren]
  · simp [hn, hchildren]

/-- A new tty comes last in its parent's list. -/
theorem linked_addChild (t : TtyTree α) (p : TtyId) (k : UInt32) :
    t.linked.addChild p k = (t.addChild p k).map fun r => (r.1.linked, r.2) := by
  rw [LinkedTree.addChild, size_linked, live_linked, nextId_linked, limit_linked]
  cases e : t.addChild p k with
  | error e' =>
    rcases addChild_eq_error_iff.1 e with ⟨hfull, rfl⟩ | ⟨hroom, hdead, rfl⟩
    · exact if_pos hfull
    · rw [if_neg (Nat.not_le.2 hroom), if_neg (by simp [hdead])]
      rfl
  | ok r =>
    obtain ⟨t', id⟩ := r
    obtain ⟨hroom, hlive, rfl, htt, hnext, hlimit⟩ := addChild_eq_ok_iff.1 e
    have hchildren := children_of_addChild e
    -- the new tty is not its own parent, and nothing hangs below it yet
    have hne : (⟨t.nextId⟩ : TtyId) ≠ p := by
      rintro rfl
      exact Nat.lt_irrefl _ (lt_nextId_of_live hlive)
    have hnew : t'.children ⟨t.nextId⟩ = [] := by
      rw [hchildren, if_neg hne]
      exact children_of_nextId_le (Nat.le_refl _)
    have hlisted : (t.linked.revise p fun n =>
        { n with children := n.children ++ [⟨t.nextId⟩] }).ttys =
          t.ttys.map fun n => ⟨n, t'.children n.id⟩ := by
      rw [LinkedTree.revise, linked, List.map_map]
      refine List.map_congr_left fun n _ => ?_
      by_cases hn : n.id = p <;> simp [hchildren, hn]
    rw [if_neg (Nat.not_le.2 hroom), if_pos hlive]
    show Except.ok (_, _) = Except.ok (t'.linked, _)
    rw [hlisted, linked, htt, hnext, hlimit, List.map_append, List.map_singleton, hnew]

/-! ### Ttys that go -/

/-- A tty that is not there is in nobody's list. -/
theorem unlink_of_dead (h : t.live id = false) : (t.unlink id).linked = t.linked := by
  have hmem : ∀ n ∈ t.ttys, n.id ≠ id := by
    rintro n hn rfl
    have hlive := live_iff_mem_ids.2 (List.mem_map_of_mem (f := (·.id)) hn)
    simp [h] at hlive
  have htt : (t.unlink id).ttys = t.ttys :=
    List.filter_eq_self.2 fun n hn => by simpa using hmem n hn
  simp only [linked, children, htt]
  rfl

/-- A tty that goes is taken out of its parent's list, and is in no other. -/
theorem Ordered.linked_unlink (h : t.Ordered) (id : TtyId) :
    t.linked.unlink id = (t.unlink id).linked := by
  rw [LinkedTree.unlink, find?_linked]
  cases hn : t.find? id with
  | none => exact (unlink_of_dead (by simp [live, hn])).symm
  | some n =>
    have hparent : t.parentOf? id = n.parent := by rw [parentOf?, hn, Option.bind_some]
    have hrest : (t.linked.ttys.filter fun m => !(m.id == id)) =
        (t.unlink id).ttys.map fun m => ⟨m, t.children m.id⟩ :=
      List.filter_map
    cases hp : n.parent with
    | none =>
      have hsame : ∀ x, (t.unlink id).children x = t.children x := fun x =>
        h.children_unlink_of_ne (by simp [hparent, hp])
      simp only [Option.map_some, hp, hrest]
      refine congrArg (LinkedTree.mk · t.nextId t.limit) (List.map_congr_left fun m _ => ?_)
      rw [hsame]
    | some p =>
      simp only [Option.map_some, hp, hrest, LinkedTree.revise, List.map_map]
      refine congrArg (LinkedTree.mk · t.nextId t.limit) (List.map_congr_left fun m _ => ?_)
      by_cases hm : m.id = p
      · simp [hm, children_unlink]
      · have hother : t.parentOf? id ≠ some m.id := by
          rw [hparent, hp]
          rintro ⟨⟩
          exact hm rfl
        simp [hm, h.children_unlink_of_ne hother]

/-- Ttys may go one after the other or all at once. -/
theorem foldl_unlink (t : TtyTree α) (ids : List TtyId) :
    ids.foldl unlink t = t.without fun n => ids.contains n.id := by
  induction ids generalizing t with
  | nil => simp [without]
  | cons id ids ih =>
    rw [List.foldl_cons, ih]
    simp only [unlink, without, List.filter_filter, TtyTree.mk.injEq, and_true]
    refine List.filter_congr fun n _ => ?_
    rw [List.contains_cons, Bool.not_or, Bool.and_comm]

/-- Taking out several ttys leaves the lists right. -/
theorem Ordered.foldl_linked_unlink (h : t.Ordered) (ids : List TtyId) :
    ids.foldl LinkedTree.unlink t.linked = (ids.foldl TtyTree.unlink t).linked := by
  induction ids generalizing t with
  | nil => rfl
  | cons id ids ih =>
    rw [List.foldl_cons, h.linked_unlink]
    exact ih (h.unlink id)

/-! ### Chains of ttys -/

/-- Making a path leaves the lists right, and the same ttys are made. -/
theorem linked_extend (t : TtyTree α) (here : TtyId) (made : List TtyId) (q : List UInt32) :
    t.linked.extend here made q = ((t.extend here q).tree.linked,
      ((t.extend here q).made.map (·.2)).reverse ++ made, (t.extend here q).result) := by
  induction q generalizing t here made with
  | nil => rfl
  | cons k q ih =>
    rw [LinkedTree.extend, linked_addChild, TtyTree.extend]
    cases t.addChild here k with
    | error e => rfl
    | ok r =>
      show r.1.linked.extend r.2 (r.2 :: made) q = _
      rw [ih]
      simp

/-- What was made of a path that cannot be made goes again. -/
theorem Ordered.linked_create (h : t.Ordered) (p : TtyId) (q : List UInt32) :
    t.linked.create p q = ((t.create p q).tree.linked, (t.create p q).result) := by
  rw [LinkedTree.create, live_linked, TtyTree.create]
  split
  · rw [linked_extend, List.append_nil]
    have hout : (t.extend p q).tree.Ordered := extend_invariant h fun e h => h.addChild e
    cases he : (t.extend p q).result with
    | ok id => simp [he]
    | error e =>
      have hgone : ((t.extend p q).made.map (·.2)).reverse.foldl TtyTree.unlink
          (t.extend p q).tree =
          (t.extend p q).tree.without fun n => (t.extend p q).made.any fun m => m.2 == n.id := by
        rw [foldl_unlink]
        congr 1
        funext n
        rw [Bool.eq_iff_iff]
        simp
      simp only [he, hout.foldl_linked_unlink, hgone]
  · rfl

/-! ### Clearing away -/

/-- A tty that is still of use stays. -/
theorem linked_collect_of_used (h : permanent id ∨ t.live id = false ∨ t.clientsOf id ≠ [] ∨
    t.children id ≠ []) : t.linked.collect id = (t.linked, []) := by
  rw [LinkedTree.collect]
  split
  · rfl
  · rename_i hperm
    split
    · rfl
    · rename_i n hn
      rw [find?_linked] at hn
      obtain ⟨m, hm, rfl⟩ := Option.map_eq_some_iff.1 hn
      refine if_neg fun hempty => ?_
      have hid := id_of_find? hm
      simp only [Bool.and_eq_true, List.isEmpty_iff] at hempty
      rcases h with hp | hdead | hclients | hchildren
      · exact hperm hp
      · simp [live, hm] at hdead
      · exact hclients (by simp [clientsOf, hm, hempty.1])
      · exact hchildren (hid ▸ hempty.2)

/-- A tty of no use goes, and its parent is looked at. -/
theorem linked_collect_of_bare {n : Tty α} (hperm : permanent id = false)
    (hc : t.clientsOf id = []) (hch : t.children id = []) (hn : t.find? id = some n) :
    t.linked.collect id = match n.parent with
      | none => (t.linked.unlink id, [id])
      | some p =>
        (((t.linked.unlink id).collect p).1, id :: ((t.linked.unlink id).collect p).2) := by
  have hid := id_of_find? hn
  have hclients : n.clients = [] := by simpa [clientsOf, hn] using hc
  rw [LinkedTree.collect, if_neg (by simp [hperm])]
  split
  · rename_i hnone
    simp [find?_linked, hn] at hnone
  · rename_i m hm
    rw [find?_linked, hn] at hm
    obtain rfl := Option.some.inj hm
    rw [if_pos (by simp [hclients, hid, hch])]

/-- Clearing leaves the lists right, and the same ttys go. -/
theorem Ordered.linked_collect (h : t.Ordered) (id : TtyId) :
    t.linked.collect id = ((t.collect id).1.linked, (t.collect id).2.map (·.2)) := by
  revert h
  refine collect_induction (motive := fun t id r => t.Ordered →
    t.linked.collect id = (r.1.linked, r.2.map (·.2))) ?_ ?_ ?_ t id
  · exact fun t id hstay _ => linked_collect_of_used hstay
  · intro t id k hperm hc hch hlink h
    obtain ⟨n, hn, hp, -⟩ := find?_of_link? hlink
    rw [linked_collect_of_bare hperm hc hch hn, hp, h.linked_unlink]
    rfl
  · intro t id p k r hperm hc hch hlink hr h
    obtain ⟨n, hn, hp, -⟩ := find?_of_link? hlink
    rw [linked_collect_of_bare hperm hc hch hn, hp, h.linked_unlink]
    show ((LinkedTree.collect _ p).1, id :: (LinkedTree.collect _ p).2) = _
    rw [hr (h.unlink id)]
    rfl

/-! ### Operations in a row -/

/-- In a new tree the lists are right. -/
theorem linked_withLimit (limit : Nat) :
    (withLimit limit : TtyTree α).linked = LinkedTree.withLimit limit :=
  rfl

/-- Letting a client in leaves the lists right. -/
theorem linked_attach (t : TtyTree α) (id : TtyId) (c : α) :
    t.linked.attach id c = (t.attach id c).map linked := by
  rw [LinkedTree.attach, TtyTree.attach, live_linked]
  split
  · exact congrArg Except.ok (linked_adjust t id (fun f => f) (· ++ [c]))
  · rfl

/-- Setting a focus leaves the lists right. -/
theorem linked_setFocus (t : TtyTree α) (id : TtyId) (focus : Option UInt32) :
    t.linked.setFocus id focus = (t.setFocus id focus).map linked := by
  rw [LinkedTree.setFocus, TtyTree.setFocus, live_linked]
  split
  · exact congrArg Except.ok (linked_adjust t id (fun _ => focus) fun cs => cs)
  · rfl

/-- A change that is refused leaves either tree alone. -/
theorem linked_changed (t : TtyTree α) (r : Except TtyError (TtyTree α)) :
    t.linked.changed (r.map linked) = ((r.toOption.getD t).linked, r.map fun _ => []) := by
  cases r <;> rfl

section operations

variable [DecidableEq α]

/-- Letting a client out leaves the lists right. -/
theorem linked_detach (t : TtyTree α) (id : TtyId) (c : α) :
    t.linked.detach id c = (t.detach id c).linked :=
  linked_adjust t id (fun f => f) _

/-- Moving a client leaves the lists right. -/
theorem linked_move (t : TtyTree α) (c : α) (source target : TtyId) :
    t.linked.move c source target = (t.move c source target).map linked := by
  rw [LinkedTree.move, TtyTree.move, live_linked, linked_detach, linked_attach]
  split <;> rfl

/-- Each operation does to the tree with lists what it does to the tree, and answers the same. -/
theorem Ordered.linked_perform (h : t.Ordered) (op : Operation α) :
    t.linked.perform op = ((t.after op).linked, t.answer op) := by
  cases op with
  | create parent path => rw [LinkedTree.perform, h.linked_create]; rfl
  | attach id c => rw [LinkedTree.perform, linked_attach, linked_changed]; rfl
  | detach id c => rw [LinkedTree.perform, linked_detach]; rfl
  | move c source target => rw [LinkedTree.perform, linked_move, linked_changed]; rfl
  | setFocus id focus => rw [LinkedTree.perform, linked_setFocus, linked_changed]; rfl
  | collect id => rw [LinkedTree.perform, h.linked_collect]; rfl

/-- After any operations in a row the lists are those of the children. -/
theorem linked_run (limit : Nat) (ops : List (Operation α)) :
    ops.foldl (fun a op => (a.perform op).1) (LinkedTree.withLimit limit) =
      (ops.foldl after (withLimit limit)).linked := by
  induction ops using List.reverseRecOn with
  | nil => exact (linked_withLimit limit).symm
  | append_singleton ops op ih =>
    have hordered : (ops.foldl after (withLimit limit)).Ordered :=
      (Reached.rooted ⟨ops, rfl⟩).ordered
    rw [List.foldl_concat, List.foldl_concat, ih, hordered.linked_perform]

end operations

end TtyTree

end BrailleShare
