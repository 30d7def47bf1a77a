import BrailleShare.Proofs.Server.Grants
import Mathlib.Data.Finset.Card
import Mathlib.Data.List.Infix
import Mathlib.Data.Set.Function

/-!
# Held paths

A client holds the path for which it was granted its tty. The tree is made from these paths and
from nothing else: its ttys are their beginnings.

Main statements: each tty beside the permanent two has a beginning of a held path
(`Accounted.mapsTo_path`) and each such beginning is the path of one (`Accounted.surjOn_path`), so
that the tree counts these beginnings (`Accounted.size_eq_card`); in every reachable state it is the
prefix closure of the held paths (`tree_is_prefix_closure`).
-/

namespace BrailleShare

namespace Server

variable {σ : Type} {s : Server σ} {given : List Grant} {q : List UInt32}

/-! ### Paths and their beginnings -/

/-- The paths that are held: for each client with a tty the path of the last grant to it. -/
def heldPaths (s : Server σ) (given : List Grant) : List (List UInt32) :=
  s.clients.filterMap fun c =>
    if c.holding.isSome then Grant.lastPath? given c.id else none

/-- The beginnings of the paths that are held, the empty one left out. -/
def heldPrefixes (s : Server σ) (given : List Grant) : Finset (List UInt32) :=
  ((s.heldPaths given).flatMap List.inits).toFinset.erase []

/-- A prefix that is held is one of a path that is held, and not empty. -/
theorem mem_heldPrefixes_iff :
    q ∈ s.heldPrefixes given ↔ q ≠ [] ∧ ∃ p ∈ s.heldPaths given, q <+: p := by
  simp [heldPrefixes]

namespace Accounted

variable (hs : s.Accounted given)
include hs

/-- The paths that are held are those of the ttys that are. -/
theorem mem_heldPaths_iff :
    q ∈ s.heldPaths given ↔ ∃ id tty, s.tty? id = some tty ∧ s.tree.path tty = q := by
  simp only [heldPaths, List.mem_filterMap]
  constructor
  · rintro ⟨c, hc, hq⟩
    split at hq
    · rename_i hh
      obtain ⟨h, hh⟩ := Option.isSome_iff_exists.1 hh
      have htty := tty?_of_holding (hs.consistent.client?_of_mem hc) hh
      rw [hs.paths htty] at hq
      exact ⟨c.id, h.tty, htty, Option.some.inj hq⟩
    · cases hq
  · rintro ⟨id, tty, htty, rfl⟩
    obtain ⟨h, hh, rfl⟩ := Option.map_eq_some_iff.1 htty
    obtain ⟨c, hc, hh⟩ := holding?_eq_some_iff.1 hh
    have hlast := hs.paths htty
    rw [← id_of_client? hc] at hlast
    exact ⟨c, List.mem_of_find?_eq_some hc, by simp [hh, hlast]⟩

/-- The path of each tty is the beginning of one that is held. -/
theorem mapsTo_path : Set.MapsTo s.tree.path s.tree.inner (s.heldPrefixes given) := by
  intro id hid
  obtain ⟨hl, hperm⟩ := TtyTree.mem_inner_iff.1 hid
  obtain ⟨hroot, hne⟩ := TtyTree.permanent_eq_false_iff.1 hperm
  have htree := hs.consistent.tree
  obtain ⟨d, hd, hdperm, hpre⟩ := TtyTree.SoundBut.exists_client_below htree hl hperm
  -- whoever sits below the tty holds a path through it
  obtain ⟨x, hx⟩ := List.exists_mem_of_ne_nil _ hd
  have hdne := (TtyTree.permanent_eq_false_iff.1 hdperm).2
  have hheld := (hs.consistent.mem_clientsOf_iff hdne).1 hx
  refine mem_heldPrefixes_iff.2 ⟨?_, s.tree.path d, hs.mem_heldPaths_iff.2 ⟨x, d, hheld, rfl⟩, hpre⟩
  rwa [Ne, htree.path_eq_nil_iff hl hne]

/-- Two ttys have two paths. -/
theorem injOn_path : Set.InjOn s.tree.path s.tree.inner := by
  intro a ha b hb he
  obtain ⟨hla, hpa⟩ := TtyTree.mem_inner_iff.1 ha
  obtain ⟨hlb, hpb⟩ := TtyTree.mem_inner_iff.1 hb
  have hna := (TtyTree.permanent_eq_false_iff.1 hpa).2
  have hnb := (TtyTree.permanent_eq_false_iff.1 hpb).2
  exact hs.consistent.tree.path_injective hla hna hlb hnb he

/-- A path leads somewhere if it is empty or the beginning of one that is held. -/
theorem lookup_eq_found_iff : (∃ id, s.tree.lookup q = .found id) ↔
    q = [] ∨ ∃ p ∈ s.heldPaths given, q <+: p := by
  have htree := hs.consistent.tree
  simp only [htree.lookup_eq_found_iff]
  constructor
  · rintro ⟨id, hl, hne, rfl⟩
    by_cases hroot : id = TtyTree.root
    · exact .inl (hroot ▸ htree.path_root)
    · have hperm := TtyTree.permanent_eq_false_iff.2 ⟨hroot, hne⟩
      exact .inr (mem_heldPrefixes_iff.1 (hs.mapsTo_path (TtyTree.mem_inner_iff.2 ⟨hl, hperm⟩))).2
  · rintro (rfl | ⟨p, hp, hpre⟩)
    · exact ⟨TtyTree.root, htree.live_root, by decide, htree.path_root⟩
    · obtain ⟨x, tty, htty, rfl⟩ := hs.mem_heldPaths_iff.1 hp
      exact htree.exists_of_prefix_path (hs.consistent.live_of_tty? htty)
        (hs.consistent.tty_ne_lobby htty) hpre

/-- Each beginning of a path that is held is the path of a tty. -/
theorem surjOn_path : Set.SurjOn s.tree.path s.tree.inner (s.heldPrefixes given) := by
  intro q hq
  have htree := hs.consistent.tree
  obtain ⟨hnil, hpre⟩ := mem_heldPrefixes_iff.1 hq
  obtain ⟨id, hfound⟩ := hs.lookup_eq_found_iff.2 (.inr hpre)
  obtain ⟨hl, hne, hpath⟩ := htree.lookup_eq_found_iff.1 hfound
  have hroot : id ≠ TtyTree.root := by
    rintro rfl
    exact hnil (hpath.symm.trans htree.path_root)
  have hperm := TtyTree.permanent_eq_false_iff.2 ⟨hroot, hne⟩
  exact ⟨id, TtyTree.mem_inner_iff.2 ⟨hl, hperm⟩, hpath⟩

/-- The ttys are the prefixes that are held, by their paths. -/
theorem bijOn_path : Set.BijOn s.tree.path s.tree.inner (s.heldPrefixes given) :=
  ⟨hs.mapsTo_path, hs.injOn_path, hs.surjOn_path⟩

/-- The tree counts the beginnings of the paths that are held. -/
theorem size_eq_card : s.tree.size = (s.heldPrefixes given).card := by
  rw [← hs.consistent.tree.card_inner, ← Finset.card_image_of_injOn hs.injOn_path]
  congr 1
  exact Finset.coe_injective (by rw [Finset.coe_image, hs.bijOn_path.image_eq])

end Accounted

/-! ### The tree as a prefix closure -/

/-- The tree of ttys consists of the beginnings of the paths that are held. -/
structure IsPrefixClosure (s : Server σ) (given : List Grant) : Prop where
  /-- A client that holds a tty was granted it by its path, which leads there. -/
  holders : ∀ c ∈ s.clients, ∀ h, c.holding = some h → ∃ p, Grant.lastPath? given c.id = some p ∧
    s.tree.path h.tty = p ∧ s.tree.lookup p = .found h.tty
  /-- The ttys other than the permanent two are one for one the beginnings of the paths. -/
  ttys : Set.BijOn s.tree.path {id | s.tree.live id ∧ TtyTree.permanent id = false}
    (s.heldPrefixes given)
  /-- A tty's path is the one that leads to it from the root. -/
  paths : ∀ q id, s.tree.lookup q = .found id ↔
    s.tree.live id ∧ id ≠ TtyTree.lobby ∧ s.tree.path id = q
  /-- Siblings have distinct numbers. -/
  siblings : ∀ m ∈ s.tree.ttys, ∀ n ∈ s.tree.ttys, m.parent = n.parent → m.parent ≠ none →
    m.number = n.number → m = n
  /-- Nothing hangs below the lobby. -/
  lobby : ∀ n ∈ s.tree.ttys, n.parent ≠ some TtyTree.lobby
  /-- A path leads to a tty if and only if it is the beginning of one that is held. -/
  lookup : ∀ q, (∃ id, s.tree.lookup q = .found id) ↔
    q = [] ∨ ∃ p ∈ s.heldPaths given, q <+: p
  /-- The tree counts the beginnings. -/
  size : s.tree.size = (s.heldPrefixes given).card
  room : s.tree.size ≤ s.settings.maxTtys
  /-- The tree is bare as soon as nobody holds more than the root. -/
  bare : (∀ p ∈ s.heldPaths given, p = []) → s.tree.size = 0

/-- In every reachable state the tree is the prefix closure of the paths that are held. -/
theorem tree_is_prefix_closure [Driver σ] (h : s.ReachableWith given) :
    s.IsPrefixClosure given := by
  have hs := h.accounted
  have htree := hs.consistent.tree
  constructor
  case holders =>
    intro c hc h hh
    have htty := tty?_of_holding (hs.consistent.client?_of_mem hc) hh
    refine ⟨s.tree.path h.tty, hs.paths htty, rfl, ?_⟩
    exact htree.lookup_path (hs.consistent.live_of_tty? htty) (hs.consistent.tty_ne_lobby htty)
  case ttys =>
    have hinner : {id | s.tree.live id ∧ TtyTree.permanent id = false} =
        (s.tree.inner : Set TtyId) := by
      ext id
      exact TtyTree.mem_inner_iff.symm
    rw [hinner]
    exact hs.bijOn_path
  case paths => exact fun q id => htree.lookup_eq_found_iff
  case siblings =>
    intro m hm n hn hparent htop hnumber
    have hlm := htree.ordered.link?_of_mem hm
    have hln := htree.ordered.link?_of_mem hn
    obtain ⟨p, hp⟩ := Option.ne_none_iff_exists'.1 htop
    rw [hp] at hlm
    rw [← hparent, hp, ← hnumber] at hln
    exact htree.ordered.eq_of_id_eq hm hn (htree.siblings hlm hln)
  case lobby =>
    intro n hn hp
    -- a child of the lobby would have a parent that no tty may have
    have hl := htree.ordered.link?_of_mem hn
    rw [hp] at hl
    exact (htree.parent hl).2 rfl
  case lookup => exact fun q => hs.lookup_eq_found_iff
  case size => exact hs.size_eq_card
  case room => exact hs.consistent.limit ▸ htree.size_le
  case bare =>
    intro hbare
    rw [hs.size_eq_card, Finset.card_eq_zero]
    refine Finset.eq_empty_of_forall_notMem fun q hq => ?_
    obtain ⟨hnil, p, hp, hpre⟩ := mem_heldPrefixes_iff.1 hq
    rw [hbare p hp] at hpre
    exact hnil (List.prefix_nil.1 hpre)

/-- In the rehearsal two paths are held, and the ttys are their prefixes. -/
theorem tree_is_prefix_closure_rehearsed : rehearsed.ReachableWith rehearsalGrants ∧
    rehearsed.heldPaths rehearsalGrants = [[3], [3, 5]] ∧
    rehearsed.IsPrefixClosure rehearsalGrants :=
  ⟨rehearsed_reachable, by decide, tree_is_prefix_closure rehearsed_reachable⟩

end Server

end BrailleShare
