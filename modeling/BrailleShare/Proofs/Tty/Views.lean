import BrailleShare.Tty.Focus

/-!
# Three views of a tree

A tree of ttys is read through three functions of an id: where the tty hangs (`link?`), who sits in
it (`clientsOf`) and which child its focus names (`focusOf`). This file says what each operation
does to the three, so that nothing behind it looks at the list of ttys again.

Main statements: changing clients or focus moves no tty (`link?_adjust`), a new tty is where it was
put and disturbs no other (`find?_of_addChild`), and clearing away takes no client with it
(`clientsOf_collect`).
-/

namespace BrailleShare.TtyTree

variable {α : Type} {t t' : TtyTree α} {id x p : TtyId} {k : UInt32}

/-- Where a tty hangs: its parent, if it has one, and its number. -/
def link? (t : TtyTree α) (id : TtyId) : Option (Option TtyId × UInt32) :=
  (t.find? id).map fun n => (n.parent, n.number)

/-- The number of the child that a tty's focus names. -/
def focusOf (t : TtyTree α) (id : TtyId) : Option UInt32 :=
  (t.find? id).bind (·.focus)

/-! ### Reading the views -/

/-- A tty is there exactly if it has a link. -/
theorem live_iff : t.live id ↔ ∃ l, t.link? id = some l := by
  cases h : t.find? id <;> simp [live, link?, h]

/-- What has a link is there. -/
theorem live_of_link? {l : Option TtyId × UInt32} (h : t.link? id = some l) : t.live id :=
  live_iff.2 ⟨l, h⟩

/-- A tty is there if its id is among those of the list. -/
theorem live_iff_mem_ids : t.live id ↔ id ∈ t.ttys.map (·.id) := by
  simp [live, find?, List.find?_isSome]

/-- Nobody sits in a tty that is not there. -/
theorem live_of_mem_clientsOf {c : α} (h : c ∈ t.clientsOf id) : t.live id := by
  cases hf : t.find? id with
  | none => simp [clientsOf, hf] at h
  | some n => simp [live, hf]

/-- What is not there is not found. -/
theorem find?_eq_none_of_not_live (h : t.live id = false) : t.find? id = none := by
  simpa [live] using h

/-- The link of a tty tells its parent and its number. -/
theorem link?_of_find? {n : Tty α} (h : t.find? id = some n) :
    t.link? id = some (n.parent, n.number) := by
  simp [link?, h]

/-- What has a link is found, with this parent and this number. -/
theorem find?_of_link? {q : Option TtyId} (h : t.link? id = some (q, k)) :
    ∃ n, t.find? id = some n ∧ n.parent = q ∧ n.number = k := by
  obtain ⟨n, hn, he⟩ := Option.map_eq_some_iff.1 h
  exact ⟨n, hn, congrArg Prod.fst he, congrArg Prod.snd he⟩

/-- What is there has an id that has been handed out. -/
theorem lt_nextId_of_live (h : t.live id) : id.val < t.nextId := by
  obtain ⟨n, hn⟩ := Option.isSome_iff_exists.1 h
  exact id_of_find? hn ▸ t.issued n (mem_of_find? hn)

/-- A parent is older than its child. -/
theorem lt_of_link? (h : t.link? id = some (some p, k)) : p.val < id.val := by
  obtain ⟨n, hn, hp, -⟩ := find?_of_link? h
  exact id_of_find? hn ▸ t.older n (mem_of_find? hn) p hp

/-- Nothing hangs below an id that has not been handed out. -/
theorem children_of_nextId_le (h : t.nextId ≤ id.val) : t.children id = [] := by
  refine List.eq_nil_iff_forall_not_mem.2 fun c hc => ?_
  have hlt := lt_of_mem_children hc
  omega

/-- The permanent ttys are the root and the lobby. -/
theorem permanent_eq_false_iff : permanent id = false ↔ id ≠ root ∧ id ≠ lobby := by
  simp [permanent]

/-! ### Clients and focus -/

/-- Changing one tty leaves the others as they are. -/
theorem find?_adjust (t : TtyTree α) (id x : TtyId) (focus : Option UInt32 → Option UInt32)
    (clients : List α → List α) :
    (t.adjust id focus clients).find? x = (t.find? x).map fun n =>
      if n.id = id then { n with focus := focus n.focus, clients := clients n.clients } else n := by
  simp only [find?, adjust, List.find?_map]
  congr 2
  funext n
  by_cases h : n.id = id <;> simp [h]

section adjust

variable (t : TtyTree α) (id x : TtyId) (focus : Option UInt32 → Option UInt32)
  (clients : List α → List α)

/-- A change of focus or clients leaves the links. -/
@[simp] theorem link?_adjust : (t.adjust id focus clients).link? x = t.link? x := by
  simp only [link?, find?_adjust, Option.map_map]
  congr 1
  funext n
  by_cases h : n.id = id <;> simp [h]

/-- A change of focus or clients leaves the ttys there. -/
@[simp] theorem live_adjust : (t.adjust id focus clients).live x = t.live x := by
  simp [live, find?_adjust]

/-- A change of focus or clients leaves the limit. -/
@[simp] theorem limit_adjust : (t.adjust id focus clients).limit = t.limit := rfl

/-- A change of focus or clients leaves the size. -/
@[simp] theorem size_adjust : (t.adjust id focus clients).size = t.size := by
  simp [size, adjust]

/-- Only the tty that is changed may have another focus. -/
theorem focusOf_adjust : (t.adjust id focus clients).focusOf x =
    if t.live x ∧ x = id then focus (t.focusOf x) else t.focusOf x := by
  cases h : t.find? x with
  | none => simp [focusOf, find?_adjust, live, h]
  | some n =>
    have hn := id_of_find? h
    by_cases hx : x = id
    · subst hx
      simp [focusOf, find?_adjust, live, h, hn]
    · simp [focusOf, find?_adjust, h, hn, hx]

/-- Only the tty that is changed may have other clients. -/
theorem clientsOf_adjust : (t.adjust id focus clients).clientsOf x =
    if t.live x ∧ x = id then clients (t.clientsOf x) else t.clientsOf x := by
  cases h : t.find? x with
  | none => simp [clientsOf, find?_adjust, live, h]
  | some n =>
    have hn := id_of_find? h
    by_cases hx : x = id
    · subst hx
      simp [clientsOf, find?_adjust, live, h, hn]
    · simp [clientsOf, find?_adjust, h, hn, hx]

/-- A change of focus or clients leaves the children. -/
theorem children_adjust : (t.adjust id focus clients).children x = t.children x := by
  simp only [children, adjust, List.filter_map, List.map_map]
  congr 1
  · funext n
    by_cases hn : n.id = id <;> simp [hn]
  · refine List.filter_congr fun n _ => ?_
    by_cases hn : n.id = id <;> simp [hn]

/-- Pointing a tty's focus elsewhere moves no client. -/
@[simp] theorem clientsOf_adjust_focus : (t.adjust id focus fun cs => cs).clientsOf x =
    t.clientsOf x := by
  simp [clientsOf_adjust]

/-- Two ttys can be changed in either order. -/
theorem adjust_comm {a b : TtyId} (hab : a ≠ b) (f g : Option UInt32 → Option UInt32)
    (cs ds : List α → List α) :
    (t.adjust a f cs).adjust b g ds = (t.adjust b g ds).adjust a f cs := by
  simp only [adjust, TtyTree.mk.injEq, and_true, List.map_map]
  refine List.map_congr_left fun n _ => ?_
  by_cases ha : n.id = a
  · simp [ha, hab]
  · by_cases hb : n.id = b <;> simp [ha, hb, hab.symm]

end adjust

section seats

variable (t : TtyTree α) (id x : TtyId) (c : α)

/-- Letting a client in leaves the links. -/
@[simp] theorem link?_seat : (t.seat id c).link? x = t.link? x :=
  link?_adjust ..

/-- Letting a client in leaves the ttys there. -/
@[simp] theorem live_seat : (t.seat id c).live x = t.live x :=
  live_adjust ..

/-- Letting a client in leaves the size. -/
@[simp] theorem size_seat : (t.seat id c).size = t.size :=
  size_adjust ..

/-- Letting a client in leaves the limit. -/
@[simp] theorem limit_seat : (t.seat id c).limit = t.limit := rfl

/-- Letting a client in leaves every focus. -/
@[simp] theorem focusOf_seat : (t.seat id c).focusOf x = t.focusOf x := by
  simp [seat, focusOf_adjust]

/-- A client that sits down comes last in its tty. -/
theorem clientsOf_seat {t : TtyTree α} (h : t.live id) : (t.seat id c).clientsOf x =
    if x = id then t.clientsOf x ++ [c] else t.clientsOf x := by
  simp only [seat, clientsOf_adjust]
  by_cases hx : x = id
  · subst hx; simp [h]
  · simp [hx]

variable [DecidableEq α]

/-- Letting a client out leaves the links. -/
@[simp] theorem link?_detach : (t.detach id c).link? x = t.link? x :=
  link?_adjust ..

/-- Letting a client out leaves the ttys there. -/
@[simp] theorem live_detach : (t.detach id c).live x = t.live x :=
  live_adjust ..

/-- Letting a client out leaves the size. -/
@[simp] theorem size_detach : (t.detach id c).size = t.size :=
  size_adjust ..

/-- Letting a client out leaves the limit. -/
@[simp] theorem limit_detach : (t.detach id c).limit = t.limit := rfl

/-- Letting a client out leaves every focus. -/
@[simp] theorem focusOf_detach : (t.detach id c).focusOf x = t.focusOf x := by
  simp [detach, focusOf_adjust]

/-- A client that gets up leaves the others in their order. -/
theorem clientsOf_detach : (t.detach id c).clientsOf x =
    if x = id then (t.clientsOf x).filter (fun d => !decide (d = c)) else t.clientsOf x := by
  simp only [detach, clientsOf_adjust]
  by_cases hx : x = id
  · subst hx
    by_cases hl : t.live x
    · simp [hl]
    · simp [hl, clientsOf, find?_eq_none_of_not_live]
  · simp [hx]

end seats

/-- A client can be moved to any tty that is there. -/
theorem move_of_live [DecidableEq α] {c : α} {source target : TtyId} (h : t.live target) :
    t.move c source target = .ok ((t.detach source c).seat target c) := by
  simp [move, attach, h]

/-- The focus of a tty that is there can be set. -/
theorem setFocus_of_live {focus : Option UInt32} (h : t.live id) :
    t.setFocus id focus = .ok (t.adjust id (fun _ => focus) fun cs => cs) := by
  simp [setFocus, h]

/-! ### New ttys -/

/-- A tty is made below one that is there, while there is room; it comes last and takes the next
id. -/
theorem addChild_eq_ok_iff {id : TtyId} : t.addChild p k = .ok (t', id) ↔
    t.size < t.limit ∧ t.live p ∧ id = ⟨t.nextId⟩ ∧
      t'.ttys = t.ttys ++ [⟨id, k, none, some p, []⟩] ∧ t'.nextId = t.nextId + 1 ∧
      t'.limit = t.limit := by
  unfold addChild
  split
  · simp; omega
  · split
    · simp [live, *]
    · rename_i n hn
      constructor
      · rintro h
        cases h
        exact ⟨by omega, by simp [live, hn], rfl, rfl, rfl, rfl⟩
      · rintro ⟨-, -, rfl, htt, hnext, hlimit⟩
        cases t'
        simp_all

/-- A tty is not made where there is no room, or nothing to hang it below. -/
theorem addChild_eq_error_iff {e : TtyError} : t.addChild p k = .error e ↔
    t.limit ≤ t.size ∧ e = .limitReached t.limit ∨
      t.size < t.limit ∧ t.live p = false ∧ e = .noSuchTty p := by
  unfold addChild
  split
  · rename_i hfull
    have hroom : ¬ t.size < t.limit := Nat.not_lt.2 hfull
    simp only [hfull, hroom, true_and, false_and, or_false, Except.error.injEq]
    exact eq_comm
  · rename_i hfull
    have hroom : t.size < t.limit := Nat.lt_of_not_le hfull
    split
    · rename_i hnone
      have hdead : t.live p = false := by simp [live, hnone]
      simp only [hfull, hroom, hdead, true_and, false_and, false_or, Except.error.injEq]
      exact eq_comm
    · rename_i n hn
      have hlive : t.live p = true := by simp [live, hn]
      simp [hfull, hlive]

/-- A new tty is where it was put, and every other tty is as it was. -/
theorem find?_of_addChild (h : t.addChild p k = .ok (t', id)) (x : TtyId) :
    t'.find? x = if x = id then some ⟨id, k, none, some p, []⟩ else t.find? x := by
  obtain ⟨-, -, hid, htt, -, -⟩ := addChild_eq_ok_iff.1 h
  simp only [find?, htt, List.find?_append]
  by_cases hx : x = id
  · subst x
    have hnew : t.ttys.find? (fun n => n.id == id) = none := by
      refine List.find?_eq_none.2 fun n hn => ?_
      have hlt := t.issued n hn
      simp only [beq_iff_eq, hid]
      rintro he
      exact Nat.lt_irrefl _ (he ▸ hlt)
    simp [hnew]
  · have hne : ¬ id = x := fun he => hx he.symm
    simp [hx, hne]

/-- A new child has its parent and its number, and the other links are as they were. -/
theorem link?_of_addChild (h : t.addChild p k = .ok (t', id)) (x : TtyId) :
    t'.link? x = if x = id then some (some p, k) else t.link? x := by
  simp only [link?, find?_of_addChild h]
  split <;> simp

/-- A new child was not there before. -/
theorem not_live_of_addChild (h : t.addChild p k = .ok (t', id)) : t.live id = false := by
  obtain ⟨-, -, rfl, -⟩ := addChild_eq_ok_iff.1 h
  refine Bool.eq_false_iff.2 fun hl => ?_
  have := lt_nextId_of_live hl
  exact Nat.lt_irrefl _ this

/-- A new child has no clients, and the others have theirs. -/
theorem clientsOf_of_addChild (h : t.addChild p k = .ok (t', id)) (x : TtyId) :
    t'.clientsOf x = t.clientsOf x := by
  simp only [clientsOf, find?_of_addChild h]
  split
  · subst x
    simp [find?_eq_none_of_not_live (not_live_of_addChild h)]
  · rfl

/-- A new child comes last among the children of its parent. -/
theorem children_of_addChild (e : t.addChild p k = .ok (t', id)) (x : TtyId) :
    t'.children x = if x = p then t.children x ++ [id] else t.children x := by
  obtain ⟨-, -, -, htt, -, -⟩ := addChild_eq_ok_iff.1 e
  rw [children, htt, List.filter_append, List.map_append, ← children]
  split
  · subst x
    simp
  · rename_i hx
    have hne : ¬ p = x := fun he => hx he.symm
    simp [hne]

/-- A new child makes the tree larger by one at most. -/
theorem size_of_addChild (h : t.addChild p k = .ok (t', id)) : t'.size ≤ t.size + 1 := by
  obtain ⟨-, -, -, htt, -, -⟩ := addChild_eq_ok_iff.1 h
  simp [size, htt]
  omega

/-! ### Clearing away -/

section kept

variable (gone : TtyId → Bool) (h : t'.ttys = t.ttys.filter fun n => !gone n.id)
include h

/-- Where some ttys are taken away, the others are what they were. -/
theorem find?_of_kept (x : TtyId) : t'.find? x = if gone x then none else t.find? x := by
  simp only [find?, h, List.find?_filter]
  split
  · rename_i hx
    refine List.find?_eq_none.2 fun n _ => ?_
    by_cases hn : n.id = x <;> simp [hn, hx]
  · rename_i hx
    congr 1
    funext n
    by_cases hn : n.id = x <;> simp [hn, hx]

/-- The children that are left are those that have not gone, in their order. -/
theorem children_of_kept (x : TtyId) :
    t'.children x = (t.children x).filter fun c => !gone c := by
  simp only [children, h, List.filter_map, List.filter_filter, Function.comp_def, Bool.and_comm]

end kept

/-- The ttys that are left are found as before. -/
theorem find?_unlink (t : TtyTree α) (id x : TtyId) :
    (t.unlink id).find? x = if x = id then none else t.find? x := by
  have hkept : (t.unlink id).ttys = t.ttys.filter fun n => !(n.id == id) := rfl
  simpa using find?_of_kept (· == id) hkept x

/-- The children that are left when a tty is taken out are all but this one. -/
theorem children_unlink (t : TtyTree α) (id x : TtyId) :
    (t.unlink id).children x = (t.children x).filter fun c => !(c == id) :=
  children_of_kept (· == id) rfl x

/-- The links that are left when a tty is taken out are all but its own. -/
theorem link?_unlink (t : TtyTree α) (id x : TtyId) :
    (t.unlink id).link? x = if x = id then none else t.link? x := by
  simp only [link?, find?_unlink]
  split <;> rfl

/-- A tty in which nobody sits takes no client with it. -/
theorem clientsOf_unlink (h : t.clientsOf id = []) (x : TtyId) :
    (t.unlink id).clientsOf x = t.clientsOf x := by
  simp only [clientsOf, find?_unlink]
  split
  · subst x; simpa [clientsOf] using h.symm
  · rfl

/-- Taking a tty out makes no tree larger. -/
theorem size_unlink_le (t : TtyTree α) (id : TtyId) : (t.unlink id).size ≤ t.size := by
  simp only [size, unlink, without]
  have := List.length_filter_le (fun n : Tty α => !(n.id == id)) t.ttys
  omega

/-- Clearing leaves the permanent ttys. -/
theorem collect_of_permanent (h : permanent id) : t.collect id = (t, []) := by
  rw [collect, if_pos h]

/-- What one step of clearing away does: nothing, if the tty is permanent, is not there, or is
still of use; else the tty goes, and its parent is looked at. -/
theorem collect_cases (t : TtyTree α) (id : TtyId) :
    ((permanent id ∨ t.live id = false ∨ t.clientsOf id ≠ [] ∨ t.children id ≠ []) ∧
      t.collect id = (t, [])) ∨
    (∃ k, permanent id = false ∧ t.clientsOf id = [] ∧ t.children id = [] ∧
      t.link? id = some (none, k) ∧ t.collect id = (t.unlink id, [(k, id)])) ∨
    ∃ p k, permanent id = false ∧ t.clientsOf id = [] ∧ t.children id = [] ∧
      t.link? id = some (some p, k) ∧
      t.collect id = (((t.unlink id).collect p).1, (k, id) :: ((t.unlink id).collect p).2) := by
  rw [collect]
  split
  · exact .inl ⟨.inl ‹_›, rfl⟩
  · rename_i hperm
    have hperm : permanent id = false := by simpa using hperm
    split
    · rename_i hnone
      exact .inl ⟨.inr (.inl (by simp [live, hnone])), rfl⟩
    · rename_i n hn
      have hclients : t.clientsOf id = n.clients := by simp [clientsOf, hn]
      split
      · rename_i hempty
        simp only [Bool.and_eq_true, List.isEmpty_iff] at hempty
        have hlink := link?_of_find? hn
        right
        split
        · rename_i hp
          exact .inl ⟨n.number, hperm, by rw [hclients, hempty.1], hempty.2, hp ▸ hlink, rfl⟩
        · rename_i q hp
          exact .inr ⟨q, n.number, hperm, by rw [hclients, hempty.1], hempty.2, hp ▸ hlink, rfl⟩
      · rename_i hused
        left
        refine ⟨.inr (.inr ?_), rfl⟩
        rw [hclients]
        by_cases hc : n.clients = []
        · exact .inr fun hch => hused (by simp [hc, hch])
        · exact .inl hc

/-- Induction along a clearing away, from the tty where it starts upwards. -/
theorem collect_induction {motive : TtyTree α → TtyId → TtyTree α × List (UInt32 × TtyId) → Prop}
    (stay : ∀ t id, permanent id ∨ t.live id = false ∨ t.clientsOf id ≠ [] ∨ t.children id ≠ [] →
      motive t id (t, []))
    (top : ∀ t id k, permanent id = false → t.clientsOf id = [] → t.children id = [] →
      t.link? id = some (none, k) → motive t id (t.unlink id, [(k, id)]))
    (up : ∀ t id p k r, permanent id = false → t.clientsOf id = [] → t.children id = [] →
      t.link? id = some (some p, k) → motive (t.unlink id) p r → motive t id (r.1, (k, id) :: r.2))
    (t : TtyTree α) (id : TtyId) : motive t id (t.collect id) := by
  induction hlen : t.ttys.length using Nat.strongRecOn generalizing t id with
  | ind len ih =>
    obtain ⟨hstay, he⟩ | ⟨k, hperm, hc, hch, hlink, he⟩ | ⟨p, k, hperm, hc, hch, hlink, he⟩ :=
      collect_cases t id
    · rw [he]
      exact stay t id hstay
    · rw [he]
      exact top t id k hperm hc hch hlink
    · rw [he]
      obtain ⟨n, hn, -, -⟩ := find?_of_link? hlink
      exact up t id p k _ hperm hc hch hlink (ih _ (hlen ▸ length_unlink_lt hn) _ p rfl)

/-- Clearing away takes no client with it. -/
@[simp] theorem clientsOf_collect (t : TtyTree α) (id x : TtyId) :
    (t.collect id).1.clientsOf x = t.clientsOf x := by
  refine collect_induction (motive := fun t _ r => r.1.clientsOf x = t.clientsOf x) ?_ ?_ ?_ t id
  · intro t id _; rfl
  · intro t id k _ hc _ _; exact clientsOf_unlink hc x
  · intro t id p k r _ hc _ _ hr; exact hr.trans (clientsOf_unlink hc x)

/-- A tty that is still there hangs where it hung. -/
theorem link?_of_collect {l : Option TtyId × UInt32} (h : (t.collect id).1.link? x = some l) :
    t.link? x = some l := by
  revert h
  refine collect_induction (motive := fun t _ r => r.1.link? x = some l → t.link? x = some l)
    ?_ ?_ ?_ t id
  · intro t id _ h; exact h
  · intro t id k _ _ _ _ h; rw [link?_unlink] at h; split at h <;> simp_all
  · intro t id p k r _ _ _ _ hr h
    have := hr h
    rw [link?_unlink] at this
    split at this <;> simp_all

/-- Clearing leaves the limit. -/
@[simp] theorem limit_collect (t : TtyTree α) (id : TtyId) : (t.collect id).1.limit = t.limit :=
  collect_induction (motive := fun t _ r => r.1.limit = t.limit) (fun _ _ _ => rfl)
    (fun _ _ _ _ _ _ _ => rfl) (fun _ _ _ _ _ _ _ _ _ hr => hr) t id

end BrailleShare.TtyTree
