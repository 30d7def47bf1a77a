import BrailleShare.Proofs.Tty.Views
import Mathlib.Data.Finset.Card
import Mathlib.Data.Finset.Dedup
import Mathlib.Data.List.Pairwise
import Mathlib.Data.List.Perm.Subperm

/-!
# Sound trees

What a server relies on in its tree: both permanent ttys are there, every other tty hangs below the
root, siblings have distinct numbers, and a tty that is not permanent is of use, because a client
sits in it or a tty hangs below it. Between two steps of an operation one tty may be without use;
it is called *spare* (`SoundBut`), and since the root is permanent, a tree whose spare tty is the
root is sound (`Sound`).

Main statements: a client may sit down in a spare tty (`SoundBut.seat_spare`), getting up leaves at
most that tty spare (`SoundBut.detach`), and clearing a spare tty away makes the tree sound again
(`SoundBut.collect`).
-/

namespace BrailleShare.TtyTree

variable {α : Type} {t t' : TtyTree α} {id p spare : TtyId} {k : UInt32}

/-! ### Trees in the order of their ids -/

/-- The ttys are in the order of their ids. -/
def Ordered (t : TtyTree α) : Prop :=
  t.ttys.Pairwise fun m n => m.id.val < n.id.val

/-- Two ttys of one id are the same. -/
theorem Ordered.eq_of_id_eq (h : t.Ordered) {m n : Tty α} (hm : m ∈ t.ttys) (hn : n ∈ t.ttys)
    (he : m.id = n.id) : m = n := by
  by_contra hne
  have hdiff : t.ttys.Pairwise fun m n => m.id ≠ n.id :=
    h.imp fun hlt he => Nat.ne_of_lt hlt (congrArg TtyId.val he)
  have : Std.Symm fun m n : Tty α => m.id ≠ n.id := ⟨fun _ _ h => h.symm⟩
  exact hdiff.forall hm hn hne he

/-- A tty in the tree is found by its id. -/
theorem Ordered.find?_of_mem (h : t.Ordered) {n : Tty α} (hn : n ∈ t.ttys) :
    t.find? n.id = some n := by
  obtain ⟨m, hm⟩ : ∃ m, t.find? n.id = some m :=
    Option.isSome_iff_exists.1 (List.find?_isSome.2 ⟨n, hn, by simp⟩)
  rw [hm, h.eq_of_id_eq (mem_of_find? hm) hn (id_of_find? hm)]

/-- A tty in the tree has the link that it tells itself. -/
theorem Ordered.link?_of_mem (h : t.Ordered) {n : Tty α} (hn : n ∈ t.ttys) :
    t.link? n.id = some (n.parent, n.number) :=
  link?_of_find? (h.find?_of_mem hn)

/-- A tty in the tree has the clients that it tells itself. -/
theorem Ordered.clientsOf_of_mem (h : t.Ordered) {n : Tty α} (hn : n ∈ t.ttys) :
    t.clientsOf n.id = n.clients := by
  simp [clientsOf, h.find?_of_mem hn]

/-- The children of a tty are those with a link to it. -/
theorem Ordered.mem_children_iff (h : t.Ordered) {c : TtyId} :
    c ∈ t.children id ↔ ∃ k, t.link? c = some (some id, k) := by
  simp only [children, List.mem_map, List.mem_filter, beq_iff_eq]
  constructor
  · rintro ⟨n, ⟨hn, hp⟩, rfl⟩
    exact ⟨n.number, by rw [h.link?_of_mem hn, hp]⟩
  · rintro ⟨k, hk⟩
    obtain ⟨n, hn, hp, -⟩ := find?_of_link? hk
    exact ⟨n, ⟨mem_of_find? hn, hp⟩, id_of_find? hn⟩

/-- Children are listed in the order of their ids, that is oldest first. -/
theorem Ordered.children (h : t.Ordered) (id : TtyId) :
    (t.children id).Pairwise fun a b => a.val < b.val :=
  List.pairwise_map.2 (List.Pairwise.sublist List.filter_sublist h)

/-- No child is listed twice. -/
theorem Ordered.nodup_children (h : t.Ordered) (id : TtyId) : (t.children id).Nodup :=
  (h.children id).imp fun hlt he => Nat.ne_of_lt hlt (congrArg TtyId.val he)

/-- The order stays when a focus or clients change. -/
theorem Ordered.adjust (h : t.Ordered) (focus : Option UInt32 → Option UInt32)
    (clients : List α → List α) : (t.adjust id focus clients).Ordered := by
  refine List.pairwise_map.2 (h.imp fun {m n} hlt => ?_)
  by_cases hm : m.id = id <;> by_cases hn : n.id = id <;> simp_all

/-- The order stays when a child is made. -/
theorem Ordered.addChild (h : t.Ordered) (e : t.addChild p k = .ok (t', id)) : t'.Ordered := by
  obtain ⟨-, -, hid, htt, -, -⟩ := addChild_eq_ok_iff.1 e
  rw [Ordered, htt]
  refine List.pairwise_append.2 ⟨h, List.pairwise_singleton _ _, fun n hn m hm => ?_⟩
  rw [List.mem_singleton.1 hm, hid]
  exact t.issued n hn

/-- The order stays when a tty is taken out. -/
theorem Ordered.unlink (h : t.Ordered) (id : TtyId) : (t.unlink id).Ordered :=
  List.Pairwise.sublist List.filter_sublist h

/-! ### Counting ttys -/

/-- The ttys beside the permanent two. -/
def inner (t : TtyTree α) : Finset TtyId :=
  (t.ttys.map (·.id)).toFinset \ {root, lobby}

/-- The ttys counted are those that are there but for the permanent two. -/
theorem mem_inner_iff : id ∈ t.inner ↔ t.live id ∧ permanent id = false := by
  rw [live_iff_mem_ids]
  simp [inner, permanent]

/-- No id occurs twice. -/
theorem Ordered.nodup_ids (h : t.Ordered) : (t.ttys.map (·.id)).Nodup :=
  List.pairwise_map.2 (h.imp fun hlt he => Nat.ne_of_lt hlt (congrArg TtyId.val he))

/-- The size of a tree is the number of ttys beside the permanent two. -/
theorem Ordered.card_inner (h : t.Ordered) (hroot : t.live root) (hlobby : t.live lobby) :
    t.inner.card = t.size := by
  have hsub : ({root, lobby} : Finset TtyId) ⊆ (t.ttys.map (·.id)).toFinset := by
    intro id hid
    rw [List.mem_toFinset, ← live_iff_mem_ids]
    rcases Finset.mem_insert.1 hid with rfl | hid
    · exact hroot
    · exact Finset.mem_singleton.1 hid ▸ hlobby
  rw [inner, Finset.card_sdiff_of_subset hsub, List.toFinset_card_of_nodup h.nodup_ids,
    List.length_map]
  rfl

/-! ### Sound trees -/

/-- The tree is in order, and every tty but the spare one and the permanent ones is of use. -/
structure SoundBut (t : TtyTree α) (spare : TtyId) : Prop where
  ordered : t.Ordered
  root_link : t.link? root = some (none, 0)
  lobby_link : t.link? lobby = some (none, 0)
  /-- A tty without a parent is permanent. -/
  top : ∀ {id k}, t.link? id = some (none, k) → permanent id
  /-- A parent is there, and nothing hangs below the lobby. -/
  parent : ∀ {id p k}, t.link? id = some (some p, k) → t.live p ∧ p ≠ lobby
  /-- Siblings have distinct numbers. -/
  siblings : ∀ {p k a b}, t.link? a = some (some p, k) → t.link? b = some (some p, k) → a = b
  /-- A client sits in it, or a tty hangs below it. -/
  used : ∀ {id}, t.live id → permanent id = false → id ≠ spare →
    t.clientsOf id ≠ [] ∨ ∃ c k, t.link? c = some (some id, k)
  size_le : t.size ≤ t.limit

/-- The tree is in order and every tty is of use. -/
abbrev Sound (t : TtyTree α) : Prop :=
  t.SoundBut root

/-- The permanent ttys are two. -/
theorem two_le_length_of_live (hroot : t.live root) (hlobby : t.live lobby) :
    2 ≤ t.ttys.length := by
  obtain ⟨m, hm⟩ := Option.isSome_iff_exists.1 hroot
  obtain ⟨n, hn⟩ := Option.isSome_iff_exists.1 hlobby
  have hne : m ≠ n := by
    rintro rfl
    exact absurd ((id_of_find? hm).symm.trans (id_of_find? hn)) (by decide)
  have hsub : [m, n] ⊆ t.ttys := by
    simp [mem_of_find? hm, mem_of_find? hn]
  exact (List.subperm_of_subset (by simpa using hne) hsub).length_le

/-- A new tree is sound. -/
theorem withLimit_sound (limit : Nat) : (withLimit limit : TtyTree α).Sound := by
  have hlink : ∀ id, (withLimit limit : TtyTree α).link? id =
      if permanent id then some (none, 0) else none := by
    intro id
    simp only [link?, find?, withLimit, permanent]
    by_cases hr : id = root
    · simp [hr]
    · by_cases hl : id = lobby
      · simp [hl, root, lobby]
      · have hr' : ¬ root = id := fun h => hr h.symm
        have hl' : ¬ lobby = id := fun h => hl h.symm
        simp [hr, hl, hr', hl']
  constructor
  case ordered => simp [Ordered, withLimit, root, lobby]
  case root_link => rw [hlink]; rfl
  case lobby_link => rw [hlink]; rfl
  case top => intro id k h; rw [hlink] at h; split at h <;> simp_all
  case parent => intro id p k h; rw [hlink] at h; split at h <;> simp_all
  case siblings => intro p k a b h; rw [hlink] at h; split at h <;> simp_all
  case used => intro id hl hp; rw [live_iff] at hl; simp [hlink, hp] at hl
  case size_le => simp [size, withLimit]

/-- In a new tree there are no clients. -/
theorem clientsOf_withLimit (limit : Nat) (id : TtyId) :
    (withLimit limit : TtyTree α).clientsOf id = [] := by
  cases h : (withLimit limit : TtyTree α).find? id with
  | none => simp [clientsOf, h]
  | some n =>
    have hn := mem_of_find? h
    simp only [withLimit, List.mem_cons, List.not_mem_nil, or_false] at hn
    rcases hn with rfl | rfl <;> simp [clientsOf, h]

namespace SoundBut

/-- The root is there. -/
theorem live_root (h : t.SoundBut spare) : t.live root :=
  live_of_link? h.root_link

/-- The lobby is there. -/
theorem live_lobby (h : t.SoundBut spare) : t.live lobby :=
  live_of_link? h.lobby_link

/-- There are at least two ttys. -/
theorem two_le_length (h : t.SoundBut spare) : 2 ≤ t.ttys.length :=
  two_le_length_of_live h.live_root h.live_lobby

/-- The size counts the ttys but for the permanent two. -/
theorem card_inner (h : t.SoundBut spare) : t.inner.card = t.size :=
  h.ordered.card_inner h.live_root h.live_lobby

/-- What has a parent is none of the permanent two. -/
theorem not_permanent (h : t.SoundBut spare) (hl : t.link? id = some (some p, k)) :
    permanent id = false := by
  refine Bool.eq_false_iff.2 fun hp => ?_
  simp only [permanent, Bool.or_eq_true, beq_iff_eq] at hp
  rcases hp with rfl | rfl
  · simp [h.root_link] at hl
  · simp [h.lobby_link] at hl

/-- A sound tree stays sound whichever tty may be spare. -/
theorem of_sound (h : t.Sound) (spare : TtyId) : t.SoundBut spare :=
  { h with
    used := fun hl hp _ => h.used hl hp (permanent_eq_false_iff.1 hp).1 }

/-- A tree with the same ttys is as sound, whatever id comes next. -/
theorem of_ttys_eq (h : t.SoundBut spare) (htt : t'.ttys = t.ttys) (hlimit : t'.limit = t.limit) :
    t'.SoundBut spare := by
  have hfind : t'.find? = t.find? := by funext x; simp only [find?, htt]
  have hlink : t'.link? = t.link? := by funext x; simp only [link?, hfind]
  have hlive : t'.live = t.live := by funext x; simp only [live, hfind]
  have hclients : t'.clientsOf = t.clientsOf := by funext x; simp only [clientsOf, hfind]
  have hsize : t'.size = t.size := by simp only [size, htt]
  constructor
  case ordered => rw [Ordered, htt]; exact h.ordered
  case root_link => rw [hlink]; exact h.root_link
  case lobby_link => rw [hlink]; exact h.lobby_link
  case top => rw [hlink]; exact h.top
  case parent => rw [hlink, hlive]; exact h.parent
  case siblings => rw [hlink]; exact h.siblings
  case used => rw [hlink, hlive, hclients]; exact h.used
  case size_le => rw [hsize, hlimit]; exact h.size_le

/-! ### Clients and focus -/

/-- Changing clients and focus keeps a tree sound if every tty that was of use for its clients, and
the one that was spare, has clients afterwards, the one that is spare from now on and the permanent
ones apart. -/
theorem adjust {spare' : TtyId} (h : t.SoundBut spare) (focus : Option UInt32 → Option UInt32)
    (clients : List α → List α)
    (hc : ∀ a, a ≠ spare' → permanent a = false → t.clientsOf a ≠ [] ∨ a = spare →
      (t.adjust id focus clients).clientsOf a ≠ []) :
    (t.adjust id focus clients).SoundBut spare' := by
  constructor
  case ordered => exact h.ordered.adjust focus clients
  case root_link => simpa using h.root_link
  case lobby_link => simpa using h.lobby_link
  case top => intro i k; rw [link?_adjust]; exact h.top
  case parent => intro i p k; rw [link?_adjust, live_adjust]; exact h.parent
  case siblings => intro p k a b; rw [link?_adjust, link?_adjust]; exact h.siblings
  case used =>
    intro a hl hp hne
    rw [live_adjust] at hl
    by_cases ha : a = spare
    · exact .inl (hc a hne hp (.inr ha))
    · obtain hcl | hch := h.used hl hp ha
      · exact .inl (hc a hne hp (.inl hcl))
      · exact .inr (by simpa using hch)
  case size_le => simpa using h.size_le

/-- A tree stays sound but for some ttys when a focus changes. -/
theorem adjust_focus (h : t.SoundBut spare) (focus : Option UInt32 → Option UInt32) :
    (t.adjust id focus fun cs => cs).SoundBut spare :=
  h.adjust _ _ fun a hne _ hc => by
    rw [clientsOf_adjust_focus]
    exact hc.resolve_right hne

/-- A client may sit down in any tty that is there. -/
theorem seat (h : t.SoundBut spare) (hl : t.live id) (c : α) : (t.seat id c).SoundBut spare :=
  h.adjust _ _ fun a hne _ hc => by
    have hc := hc.resolve_right hne
    have := clientsOf_seat id a c hl
    simp only [TtyTree.seat] at this
    rw [this]
    split <;> simp [hc]

/-- Once a client sits in the spare tty, it is of use. -/
theorem seat_spare (h : t.SoundBut id) (hl : t.live id) (c : α) : (t.seat id c).Sound :=
  h.adjust _ _ fun a _ _ hc => by
    have := clientsOf_seat id a c hl
    simp only [TtyTree.seat] at this
    rw [this]
    split
    · simp
    · exact hc.resolve_right ‹_›

/-- Once a client gets up, its tty may be spare. -/
theorem detach [DecidableEq α] (h : t.Sound) (id : TtyId) (c : α) : (t.detach id c).SoundBut id :=
  (of_sound h id).adjust _ _ fun a hne _ hc => by
    have := clientsOf_detach t id a c
    simp only [TtyTree.detach] at this
    rw [this, if_neg hne]
    exact hc.resolve_right hne

/-- Getting up in the lobby leaves no tty spare, since the lobby is permanent. -/
theorem detach_lobby [DecidableEq α] (h : t.SoundBut spare) (c : α) :
    (t.detach lobby c).SoundBut spare :=
  h.adjust _ _ fun a hne hp hc => by
    have := clientsOf_detach t lobby a c
    simp only [TtyTree.detach] at this
    rw [this, if_neg (permanent_eq_false_iff.1 hp).2]
    exact hc.resolve_right hne

/-! ### New ttys -/

/-- A new tty with a free number makes its parent of use and is itself spare. -/
theorem addChild (h : t.SoundBut p) (hp : p ≠ lobby)
    (free : ∀ c, t.link? c ≠ some (some p, k)) (e : t.addChild p k = .ok (t', id)) :
    t'.SoundBut id := by
  obtain ⟨hroom, hlive, -, -, -, hlimit⟩ := addChild_eq_ok_iff.1 e
  have hlink := link?_of_addChild e
  have hnew := not_live_of_addChild e
  have hold : ∀ {x}, t.live x → x ≠ id := by rintro x hx rfl; simp [hnew] at hx
  have hkeep : ∀ {x}, t.live x → t'.live x := by
    intro x hx
    rw [live_iff, hlink, if_neg (hold hx)]
    exact live_iff.1 hx
  constructor
  case ordered => exact h.ordered.addChild e
  case root_link => rw [hlink, if_neg (hold h.live_root)]; exact h.root_link
  case lobby_link => rw [hlink, if_neg (hold h.live_lobby)]; exact h.lobby_link
  case top =>
    intro x k' hx
    rw [hlink] at hx
    split at hx
    · simp at hx
    · exact h.top hx
  case parent =>
    intro x q k' hx
    rw [hlink] at hx
    split at hx
    · simp only [Option.some.injEq, Prod.mk.injEq] at hx
      exact hx.1 ▸ ⟨hkeep hlive, hp⟩
    · exact ⟨hkeep (h.parent hx).1, (h.parent hx).2⟩
  case siblings =>
    intro q k' a b ha hb
    rw [hlink] at ha hb
    split at ha <;> split at hb
    · simp_all
    · simp only [Option.some.injEq, Prod.mk.injEq] at ha
      obtain ⟨rfl, rfl⟩ := ha
      exact absurd hb (free b)
    · simp only [Option.some.injEq, Prod.mk.injEq] at hb
      obtain ⟨rfl, rfl⟩ := hb
      exact absurd ha (free a)
    · exact h.siblings ha hb
  case used =>
    intro x hl hperm hne
    rw [live_iff, hlink, if_neg hne, ← live_iff] at hl
    by_cases hx : x = p
    · exact .inr ⟨id, k, by rw [hlink, if_pos rfl, hx]⟩
    · obtain hc | ⟨c, k', hc⟩ := h.used hl hperm hx
      · exact .inl (by rwa [clientsOf_of_addChild e])
      · exact .inr ⟨c, k', by rw [hlink, if_neg (hold (live_of_link? hc)), hc]⟩
  case size_le =>
    rw [hlimit]
    have := size_of_addChild e
    omega

/-! ### Clearing away -/

/-- Where a childless spare tty is taken away, its parent may become spare. -/
theorem unlink (h : t.SoundBut id) (hlink : t.link? id = some (some p, k))
    (hch : t.children id = []) (hc : t.clientsOf id = []) : (t.unlink id).SoundBut p := by
  have hlinks := link?_unlink t id
  obtain ⟨hroot, hlobby⟩ := permanent_eq_false_iff.1 (h.not_permanent hlink)
  -- no tty hangs below the one that goes, so that no parent is lost
  have hchild : ∀ {c k'}, t.link? c ≠ some (some id, k') := by
    intro c k' hc
    have : c ∈ t.children id := h.ordered.mem_children_iff.2 ⟨k', hc⟩
    simp [hch] at this
  have hsome : ∀ {x l}, (t.unlink id).link? x = some l → t.link? x = some l := by
    intro x l hx
    rw [hlinks] at hx
    split at hx
    · cases hx
    · exact hx
  constructor
  case ordered => exact h.ordered.unlink id
  case root_link => rw [hlinks, if_neg hroot.symm]; exact h.root_link
  case lobby_link => rw [hlinks, if_neg hlobby.symm]; exact h.lobby_link
  case top => exact fun hx => h.top (hsome hx)
  case parent =>
    intro x q k' hx
    have hq := h.parent (hsome hx)
    have hne : q ≠ id := by rintro rfl; exact hchild (hsome hx)
    refine ⟨live_iff.2 ?_, hq.2⟩
    rw [hlinks, if_neg hne]
    exact live_iff.1 hq.1
  case siblings => exact fun ha hb => h.siblings (hsome ha) (hsome hb)
  case used =>
    intro x hl hpx hne
    obtain ⟨l, hl⟩ := live_iff.1 hl
    have hx : x ≠ id := by rintro rfl; simp [hlinks] at hl
    obtain hcl | ⟨c, k', hcl⟩ := h.used (live_of_link? (hsome hl)) hpx hx
    · exact .inl (by rwa [clientsOf_unlink hc])
    · refine .inr ⟨c, k', ?_⟩
      have hcne : c ≠ id := by
        rintro rfl
        simp only [hlink, Option.some.injEq, Prod.mk.injEq] at hcl
        exact hne hcl.1.symm
      rw [hlinks, if_neg hcne, hcl]
  case size_le => exact Nat.le_trans (size_unlink_le t id) h.size_le

/-- Clearing the spare tty away makes the tree sound. -/
theorem collect (h : t.SoundBut id) : (t.collect id).1.Sound := by
  revert h
  refine collect_induction (motive := fun t id r => t.SoundBut id → r.1.Sound) ?_ ?_ ?_ t id
  · intro t id hstay h
    refine { h with used := fun {x} hl hp _ => ?_ }
    by_cases hx : x = id
    · subst x
      rcases hstay with hperm | hdead | hcl | hch
      · simp [hp] at hperm
      · simp [hl] at hdead
      · exact .inl hcl
      · obtain ⟨c, hc⟩ := List.exists_mem_of_ne_nil _ hch
        obtain ⟨k, hk⟩ := h.ordered.mem_children_iff.1 hc
        exact .inr ⟨c, k, hk⟩
    · exact h.used hl hp hx
  · intro t id k hperm _ _ hlink h
    simp [h.top hlink] at hperm
  · intro t id p k r _ hc hch hlink hr h
    exact hr (h.unlink hlink hch hc)

end SoundBut

end BrailleShare.TtyTree
