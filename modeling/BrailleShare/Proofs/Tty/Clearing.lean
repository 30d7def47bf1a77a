import BrailleShare.Proofs.Tty.Operations

/-!
# What is cleared away

Clearing away starts at one tty and goes upwards, and looks at each tty after the one below it has
gone. It comes to the same to look at all of them before: what goes is a chain of ttys in which
nobody sits, with nothing below the first and nothing below each further one but the one before.

Main statements: what is cleared away is such a chain and no such chain is longer
(`Rooted.deadChain_cleared`), the other ttys are what they were but for the one that loses a child
(`ttys_collect`, `DeadChain.parent_mem`), and no client goes (`Rooted.allClients_collect`); all
this for any tree that operations lead to (`clearing_is_exact`).
-/

namespace BrailleShare.TtyTree

variable {α : Type} {t t' : TtyTree α} {id p x top : TtyId} {below chain : List TtyId}

/-! ### Dead chains -/

/-- A chain of ttys from one on upwards, none of them permanent, that are of no use: nobody sits in
them, and each has no children but those given for the first and the one before for the others. -/
inductive DeadChain (t : TtyTree α) : List TtyId → TtyId → List TtyId → Prop
  | nil (below : List TtyId) (id : TtyId) : DeadChain t below id []
  | cons {below chain : List TtyId} {id p : TtyId} (hperm : permanent id = false)
      (hp : t.parentOf? id = some p) (hc : t.clientsOf id = []) (hch : t.children id = below)
      (h : DeadChain t [id] p chain) : DeadChain t below id (id :: chain)

namespace DeadChain

/-- Only the ttys that are at least as old as the first matter to a dead chain. -/
theorem congr (h : ∀ y, y.val ≤ id.val → t'.parentOf? y = t.parentOf? y ∧
    t'.clientsOf y = t.clientsOf y ∧ t'.children y = t.children y)
    (hd : t.DeadChain below id chain) : t'.DeadChain below id chain := by
  induction hd with
  | nil below id => exact .nil below id
  | @cons below chain id p hperm hp hc hch _ ih =>
    obtain ⟨hparent, hclients, hchildren⟩ := h id (Nat.le_refl _)
    have hlt := lt_of_parentOf? hp
    apply DeadChain.cons hperm (hparent.trans hp) (hclients.trans hc) (hchildren.trans hch)
    exact ih fun y hy => h y (by omega)

/-- Whatever goes is there, has no clients and is none of the permanent two, and the first that goes
is the youngest. -/
theorem of_mem (h : t.DeadChain below id chain) (hx : x ∈ chain) :
    permanent x = false ∧ t.live x ∧ t.clientsOf x = [] ∧ x.val ≤ id.val := by
  induction h with
  | nil => cases hx
  | @cons below chain id p hperm hp hc _ _ ih =>
    rcases List.mem_cons.1 hx with rfl | hx
    · exact ⟨hperm, live_of_parentOf? hp, hc, Nat.le_refl _⟩
    · obtain ⟨hperm, hlive, hclients, hle⟩ := ih hx
      have hlt := lt_of_parentOf? hp
      exact ⟨hperm, hlive, hclients, by omega⟩

/-- No tty goes twice. -/
theorem nodup (h : t.DeadChain below id chain) : chain.Nodup := by
  induction h with
  | nil => exact List.nodup_nil
  | @cons below chain id p _ hp _ _ h ih =>
    refine List.nodup_cons.2 ⟨fun hmem => ?_, ih⟩
    have hlt := lt_of_parentOf? hp
    have hle := (h.of_mem hmem).2.2.2
    omega

/-- The parent of a tty of the chain is in the chain too, if the tty is not the last. -/
theorem parent_mem (h : t.DeadChain below id chain) (hx : x ∈ chain)
    (hp : t.parentOf? x = some p) : p ∈ chain ∨ chain.getLast? = some x := by
  induction h with
  | nil => cases hx
  | @cons below chain id q _ hq _ _ h ih =>
    rcases List.mem_cons.1 hx with rfl | hx
    · obtain rfl : q = p := Option.some.inj (hq.symm.trans hp)
      cases h with
      | nil => exact .inr rfl
      | cons => exact .inl (by simp)
    · rcases ih hx with hmem | hlast
      · exact .inl (List.mem_cons_of_mem _ hmem)
      · right
        rw [List.getLast?_cons, hlast, Option.getD_some]

/-- The last tty of the chain is the oldest. -/
theorem last_le (h : t.DeadChain below id chain) (hlast : chain.getLast? = some top)
    (hx : x ∈ chain) : top.val ≤ x.val := by
  induction h with
  | nil => cases hx
  | @cons below chain id p _ hp _ _ h ih =>
    have hlt := lt_of_parentOf? hp
    cases chain with
    | nil =>
      obtain rfl : id = top := by simpa using hlast
      rw [List.mem_singleton.1 hx]
    | cons y chain =>
      rw [List.getLast?_cons_cons] at hlast
      have hle := (h.of_mem (List.mem_of_getLast? hlast)).2.2.2
      rcases List.mem_cons.1 hx with rfl | hx
      · omega
      · exact ih hlast hx

end DeadChain

/-- Once a childless tty has gone, a dead chain begins at its parent if and only if one did before
that had the tty below it. -/
theorem Ordered.deadChain_unlink_iff (h : t.Ordered) (hp : t.parentOf? id = some p)
    (hc : t.clientsOf id = []) :
    (t.unlink id).DeadChain [] p chain ↔ t.DeadChain [id] p chain := by
  have hlt := lt_of_parentOf? hp
  have hparent : ∀ y, y.val ≤ p.val → (t.unlink id).parentOf? y = t.parentOf? y := by
    intro y hy
    have hne : y ≠ id := by rintro rfl; omega
    rw [parentOf?, find?_unlink, if_neg hne, parentOf?]
  -- no tty above the parent has the tty that goes among its children
  have habove : ∀ y, y.val < p.val → (t.unlink id).children y = t.children y := by
    intro y hy
    apply h.children_unlink_of_ne
    rw [hp]
    rintro ⟨⟩
    exact Nat.lt_irrefl _ hy
  have hfirst : (t.unlink id).children p = [] ↔ t.children p = [id] := by
    have hne := List.ne_nil_of_mem (h.mem_children_iff_parentOf?.2 hp)
    rw [h.children_unlink_eq_erase, List.erase_eq_nil_iff, or_iff_right hne]
  constructor
  · intro hd
    cases hd with
    | nil => exact .nil _ _
    | @cons _ _ _ q hperm hq hcp hch hd =>
      rw [hparent p (Nat.le_refl _)] at hq
      rw [clientsOf_unlink hc] at hcp
      have hltq := lt_of_parentOf? hq
      apply DeadChain.cons hperm hq hcp (hfirst.1 hch)
      refine hd.congr fun y hy => ⟨(hparent y ?_).symm, (clientsOf_unlink hc y).symm,
        (habove y ?_).symm⟩ <;> omega
  · intro hd
    cases hd with
    | nil => exact .nil _ _
    | @cons _ _ _ q hperm hq hcp hch hd =>
      have hltq := lt_of_parentOf? hq
      apply DeadChain.cons hperm
      · rwa [hparent p (Nat.le_refl _)]
      · rwa [clientsOf_unlink hc]
      · exact hfirst.2 hch
      · refine hd.congr fun y hy => ⟨hparent y ?_, clientsOf_unlink hc y, habove y ?_⟩ <;> omega

/-! ### What goes -/

/-- The ttys that clearing away takes, deepest first. -/
def cleared (t : TtyTree α) (id : TtyId) : List TtyId :=
  (t.collect id).2.map (·.2)

/-- What is cleared away is a dead chain, and every dead chain is a beginning of it. -/
theorem Rooted.deadChain_cleared (h : t.Rooted) (id : TtyId) :
    t.DeadChain [] id (t.cleared id) ∧
      ∀ chain, t.DeadChain [] id chain → chain <+: t.cleared id := by
  revert h
  refine collect_induction (motive := fun t id r => t.Rooted → t.DeadChain [] id (r.2.map (·.2)) ∧
    ∀ chain, t.DeadChain [] id chain → chain <+: r.2.map (·.2)) ?_ ?_ ?_ t id
  · intro t id hstay _
    refine ⟨.nil _ _, fun chain hd => ?_⟩
    cases hd with
    | nil => exact List.nil_prefix
    | cons hperm hp hc hch =>
      have hlive := live_of_parentOf? hp
      simp [hperm, hlive, hc, hch] at hstay
  · intro t id k hperm _ _ hlink h
    simp [h.top hlink] at hperm
  · intro t id p k r hperm hc hch hlink hr h
    obtain ⟨hdead, hlongest⟩ := hr (h.unlink hperm hch)
    have hp := parentOf?_of_link? hlink
    have hiff : ∀ chain, (t.unlink id).DeadChain [] p chain ↔ t.DeadChain [id] p chain :=
      fun chain => h.ordered.deadChain_unlink_iff hp hc
    refine ⟨.cons hperm hp hc hch ((hiff _).1 hdead), fun chain hd => ?_⟩
    cases hd with
    | nil => exact List.nil_prefix
    | @cons _ chain _ q _ hq _ _ hd =>
      obtain rfl : p = q := Option.some.inj (hp.symm.trans hq)
      exact List.cons_prefix_cons.2 ⟨rfl, hlongest chain ((hiff chain).2 hd)⟩

/-- The ttys that go are told by their numbers too. -/
theorem numberOf?_of_mem_collect {m : UInt32 × TtyId} (hm : m ∈ (t.collect id).2) :
    t.numberOf? m.2 = some m.1 := by
  revert hm
  refine collect_induction (motive := fun t _ r => m ∈ r.2 → t.numberOf? m.2 = some m.1)
    ?_ ?_ ?_ t id
  · intro t id _ hm
    cases hm
  · intro t id k _ _ _ hlink hm
    obtain ⟨n, hn, -, hk⟩ := find?_of_link? hlink
    obtain rfl := List.mem_singleton.1 hm
    rw [numberOf?, hn, Option.map_some, hk]
  · intro t id p k r _ _ _ hlink hr hm
    rcases List.mem_cons.1 hm with rfl | hm
    · obtain ⟨n, hn, -, hk⟩ := find?_of_link? hlink
      rw [numberOf?, hn, Option.map_some, hk]
    · have hnumber := hr hm
      rw [numberOf?, find?_unlink] at hnumber
      split at hnumber
      · cases hnumber
      · exact hnumber

/-! ### What stays -/

/-- The ttys that stay are those that do not go, as they were. -/
theorem ttys_collect (t : TtyTree α) (id : TtyId) : (t.collect id).1.ttys =
    t.ttys.filter fun n => !(t.cleared id).contains n.id := by
  refine collect_induction (motive := fun t _ r => r.1.ttys =
    t.ttys.filter fun n => !(r.2.map (·.2)).contains n.id) ?_ ?_ ?_ t id
  · intro t id _
    simp
  · intro t id k _ _ _ _
    refine List.filter_congr fun n _ => ?_
    rw [List.map_singleton, List.contains_cons, List.contains_nil, Bool.or_false]
  · intro t id p k r _ _ _ _ hr
    rw [hr, unlink, without, List.filter_filter]
    refine List.filter_congr fun n _ => ?_
    rw [List.map_cons, List.contains_cons, Bool.not_or, Bool.and_comm]

/-- After the clearing a tty is as it was, unless it has gone. -/
theorem find?_collect (t : TtyTree α) (id x : TtyId) : (t.collect id).1.find? x =
    if x ∈ t.cleared id then none else t.find? x := by
  simpa using find?_of_kept (fun y => (t.cleared id).contains y) (ttys_collect t id) x

/-- The tree is smaller by the ttys that go. -/
theorem Rooted.size_collect (h : t.Rooted) (id : TtyId) :
    (t.collect id).1.size + (t.cleared id).length = t.size := by
  have hdead := (h.deadChain_cleared id).1
  have hsub : (t.cleared id).toFinset ⊆ t.inner := by
    intro x hx
    obtain ⟨hperm, hlive, -, -⟩ := hdead.of_mem (List.mem_toFinset.1 hx)
    exact mem_inner_iff.2 ⟨hlive, hperm⟩
  have hinner : (t.collect id).1.inner = t.inner \ (t.cleared id).toFinset := by
    ext x
    rw [Finset.mem_sdiff, mem_inner_iff, mem_inner_iff, List.mem_toFinset, live, find?_collect]
    split <;> simp [live, *]
  have hle := Finset.card_le_card hsub
  rw [← h.card_inner, ← (h.collect id).card_inner, hinner, Finset.card_sdiff_of_subset hsub,
    ← List.toFinset_card_of_nodup hdead.nodup]
  omega

/-- After the clearing a tty has the children that have not gone, in their order. -/
theorem children_collect (t : TtyTree α) (id x : TtyId) : (t.collect id).1.children x =
    (t.children x).filter fun c => !(t.cleared id).contains c :=
  children_of_kept (fun y => (t.cleared id).contains y) (ttys_collect t id) x

/-- A tty that is not above one that goes keeps its children. -/
theorem Rooted.children_collect_of_other (h : t.Rooted) (hx : x ∉ t.cleared id)
    (hother : ∀ top, (t.cleared id).getLast? = some top → t.parentOf? top ≠ some x) :
    (t.collect id).1.children x = t.children x := by
  rw [children_collect]
  refine List.filter_eq_self.2 fun c hmem => ?_
  have hp := h.ordered.mem_children_iff_parentOf?.1 hmem
  suffices hc : c ∉ t.cleared id by simpa using hc
  intro hc
  rcases (h.deadChain_cleared id).1.parent_mem hc hp with hmem | hlast
  · exact hx hmem
  · exact hother c hlast hp

/-- The tty above the last that goes stays, and loses this child alone. -/
theorem Rooted.children_collect_of_parent (h : t.Rooted)
    (hlast : (t.cleared id).getLast? = some top) (hp : t.parentOf? top = some p) :
    p ∉ t.cleared id ∧ top ∈ t.children p ∧
      (t.collect id).1.children p = (t.children p).erase top := by
  have hdead := (h.deadChain_cleared id).1
  have hlt := lt_of_parentOf? hp
  have hstays : p ∉ t.cleared id := by
    intro hmem
    have hle := hdead.last_le hlast hmem
    omega
  refine ⟨hstays, h.ordered.mem_children_iff_parentOf?.2 hp, ?_⟩
  rw [children_collect, (h.ordered.nodup_children p).erase_eq_filter]
  refine List.filter_congr fun c hmem => ?_
  have hc := h.ordered.mem_children_iff_parentOf?.1 hmem
  have hiff : c ∈ t.cleared id ↔ c = top := by
    constructor
    · intro hcm
      rcases hdead.parent_mem hcm hc with hpm | hcl
      · exact absurd hpm hstays
      · exact Option.some.inj (hcl.symm.trans hlast)
    · rintro rfl
      exact List.mem_of_getLast? hlast
  rw [List.contains_eq_mem, decide_eq_decide.2 hiff, bne, Bool.beq_eq_decide_eq]

/-- What gives nothing may be left out. -/
theorem flatMap_filter_of_nil {β γ : Type} {f : β → List γ} {keep : β → Bool} {l : List β}
    (h : ∀ b ∈ l, keep b = false → f b = []) : (l.filter keep).flatMap f = l.flatMap f := by
  induction l with
  | nil => rfl
  | cons b l ih =>
    have htail := ih fun c hc => h c (List.mem_cons_of_mem b hc)
    by_cases hb : keep b = true
    · rw [List.filter_cons_of_pos hb, List.flatMap_cons, List.flatMap_cons, htail]
    · rw [List.filter_cons_of_neg hb, List.flatMap_cons, htail,
        h b List.mem_cons_self (by simpa using hb), List.nil_append]

/-- No client goes. -/
theorem Rooted.allClients_collect (h : t.Rooted) (id : TtyId) :
    (t.collect id).1.allClients = t.allClients := by
  rw [allClients, ttys_collect, allClients]
  apply flatMap_filter_of_nil
  intro n hn hgone
  have hmem : n.id ∈ t.cleared id := by simpa using hgone
  rw [← h.ordered.clientsOf_of_mem hn]
  exact ((h.deadChain_cleared id).1.of_mem hmem).2.2.1

/-! ### A second time -/

/-- From a tty that is not there nothing is cleared away. -/
theorem collect_of_dead (h : t.live id = false) : t.collect id = (t, []) := by
  obtain ⟨-, he⟩ | ⟨k, -, -, -, hlink, -⟩ | ⟨p, k, -, -, -, hlink, -⟩ := collect_cases t id
  · exact he
  · simp [live_of_link? hlink] at h
  · simp [live_of_link? hlink] at h

/-- Where nothing goes the tree is what it was. -/
theorem collect_of_cleared_nil (h : t.cleared id = []) : t.collect id = (t, []) := by
  obtain ⟨-, he⟩ | ⟨k, -, -, -, -, he⟩ | ⟨p, k, -, -, -, -, he⟩ := collect_cases t id
  · exact he
  · simp [cleared, he] at h
  · simp [cleared, he] at h

/-- Clearing away a second time, from where it started or from what went, takes nothing. -/
theorem collect_collect (hx : x = id ∨ x ∈ t.cleared id) :
    (t.collect id).1.collect x = ((t.collect id).1, []) := by
  have hgone : x ∈ t.cleared id → (t.collect id).1.collect x = ((t.collect id).1, []) := by
    intro hmem
    apply collect_of_dead
    rw [live, find?_collect, if_pos hmem, Option.isSome_none]
  rcases hx with rfl | hmem
  · by_cases hnil : t.cleared x = []
    · have he := collect_of_cleared_nil hnil
      rw [he, he]
    · obtain ⟨-, he⟩ | ⟨k, -, -, -, -, he⟩ | ⟨p, k, -, -, -, -, he⟩ := collect_cases t x
      · simp [cleared, he] at hnil
      · exact hgone (by simp [cleared, he])
      · exact hgone (by simp [cleared, he])
  · exact hgone hmem

/-! ### Any tree -/

/-- What goes and what stays when a tree is cleared from one tty on upwards. -/
structure ClearedExactly (t : TtyTree α) (start : TtyId) : Prop where
  /-- What goes is a chain of ttys of no use, deepest first, with nothing below the first. -/
  dead : t.DeadChain [] start (t.cleared start)
  /-- No such chain is longer. -/
  longest : ∀ chain, t.DeadChain [] start chain → chain <+: t.cleared start
  numbers : ∀ m ∈ (t.collect start).2, t.numberOf? m.2 = some m.1
  gone : ∀ x ∈ t.cleared start, (t.collect start).1.live x = false
  /-- Every other tty keeps its number, its focus, its parent and its clients. -/
  kept : ∀ x, x ∉ t.cleared start → (t.collect start).1.find? x = t.find? x
  /-- It keeps its children in their order, if it is not the parent of the last that goes. -/
  children : ∀ x, x ∉ t.cleared start →
    (∀ top, (t.cleared start).getLast? = some top → t.parentOf? top ≠ some x) →
      (t.collect start).1.children x = t.children x
  /-- That one stays and loses this child. -/
  lost : ∀ top p, (t.cleared start).getLast? = some top → t.parentOf? top = some p →
    p ∉ t.cleared start ∧ top ∈ t.children p ∧
      (t.collect start).1.children p = (t.children p).erase top
  size : (t.collect start).1.size + (t.cleared start).length = t.size
  /-- No client goes, and none is moved. -/
  clients : (t.collect start).1.allClients = t.allClients
  seats : ∀ x, (t.collect start).1.clientsOf x = t.clientsOf x
  /-- A second time nothing goes. -/
  again : ∀ x, x = start ∨ x ∈ t.cleared start →
    (t.collect start).1.collect x = ((t.collect start).1, [])

/-- In every tree that operations lead to, clearing takes a chain of ttys of no use and no shorter
one, the deepest first; it leaves every other tty with all that it has, and a second time it takes
nothing. -/
theorem clearing_is_exact [DecidableEq α] {limit : Nat} (h : t.Reached limit) (start : TtyId) :
    ClearedExactly t start := by
  have hroot := h.rooted
  obtain ⟨hdead, hlongest⟩ := hroot.deadChain_cleared start
  constructor
  case dead => exact hdead
  case longest => exact hlongest
  case numbers => exact fun m hm => numberOf?_of_mem_collect hm
  case gone =>
    intro x hx
    rw [live, find?_collect, if_pos hx, Option.isSome_none]
  case kept =>
    intro x hx
    rw [find?_collect, if_neg hx]
  case children => exact fun x hx hother => hroot.children_collect_of_other hx hother
  case lost => exact fun top p hlast hp => hroot.children_collect_of_parent hlast hp
  case size => exact hroot.size_collect start
  case clients => exact hroot.allClients_collect start
  case seats => exact clientsOf_collect t start
  case again => exact fun x hx => collect_collect hx

/-- A branch that forks: a client sits in its first tty, and its second has two children, of which
the elder has a child. -/
def forked : TtyTree Nat :=
  ([.create root [1, 2, 3, 4], .create ⟨3⟩ [6], .attach ⟨2⟩ 9] : List (Operation Nat)).foldl after
    (withLimit 8)

/-- The longer prong goes as far as the fork, which loses the elder child; from then on the rest
would go as far as to the client. -/
theorem clearing_is_exact_forked :
    (forked.cleared ⟨5⟩ = [⟨5⟩, ⟨4⟩] ∧ forked.children ⟨3⟩ = [⟨4⟩, ⟨6⟩] ∧
      (forked.collect ⟨5⟩).1.children ⟨3⟩ = [⟨6⟩] ∧
      (forked.collect ⟨5⟩).1.cleared ⟨6⟩ = [⟨6⟩, ⟨3⟩] ∧ forked.cleared ⟨2⟩ = []) ∧
      ∀ start, ClearedExactly forked start :=
  ⟨by decide +kernel, fun start => clearing_is_exact ⟨_, rfl⟩ start⟩

end BrailleShare.TtyTree
