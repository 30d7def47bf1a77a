import BrailleShare.Proofs.Tty.FocusPath
import BrailleShare.Proofs.Tty.Operations
import Mathlib.Data.List.Chain

/-!
# Searching along focus

The walk along focus goes downwards for as long as there is a child that focus leads to, and nothing
counts its steps. It ends because every child is younger than its parent, whatever was done to the
tree and wherever a focus points. A search asks the ttys of this walk from the last to the root, and
ends at the first answer.

Main statements: the walk comes to each tty once at most, in no more steps than there are ttys
(`Rooted.length_focusChain_le`, `inFocusAfter?_eq`); a search asks its ttys and no others, in that
order, up to the first that answers (`Rooted.search_ends`, and `Rooted.searchMindful_ends` for one
who remembers what they were shown); all this for any tree that operations lead to
(`walk_and_search_end`).
-/

namespace BrailleShare.TtyTree

variable {α β : Type} {t : TtyTree α} {n m c : TtyId} {a : UInt32} {ns before : List TtyId}

/-! ### The walk -/

/-- The tty that focus leads to in some steps. -/
def inFocusAfter? (t : TtyTree α) (a : UInt32) : Nat → TtyId → Option TtyId
  | 0, n => some n
  | steps + 1, n => (t.inFocus? n a).bind (t.inFocusAfter? a steps)

/-- Focus leads to a child of the tty it is in. -/
theorem Ordered.parentOf?_of_inFocus? (h : t.Ordered) (e : t.inFocus? n a = some c) :
    t.parentOf? c = some n := by
  rw [inFocus?_eq] at e
  split at e
  · split at e
    · exact parentOf?_of_link? (h.link?_of_child? e)
    · cases hch : t.child? n a with
      | some d =>
        rw [hch] at e
        obtain rfl : d = c := Option.some.inj e
        exact parentOf?_of_link? (h.link?_of_child? hch)
      | none =>
        rw [hch] at e
        exact h.mem_children_iff_parentOf?.1 (List.mem_of_mem_head? e)
  · cases e

/-- The walk ends where focus leads nowhere. -/
theorem focusChainFrom_of_none (h : t.inFocus? n a = none) : t.focusChainFrom a n = [n] := by
  rw [focusChainFrom]
  split <;> simp_all

/-- The walk goes on where focus leads. -/
theorem focusChainFrom_of_some (h : t.inFocus? n a = some c) :
    t.focusChainFrom a n = n :: t.focusChainFrom a c := by
  rw [focusChainFrom]
  split <;> simp_all

/-- The ttys of the walk are those that the steps lead to, and where it ends the steps do. -/
theorem inFocusAfter?_eq (t : TtyTree α) (a : UInt32) (steps : Nat) (n : TtyId) :
    t.inFocusAfter? a steps n = (t.focusChainFrom a n)[steps]? := by
  induction steps generalizing n with
  | zero =>
    cases h : t.inFocus? n a with
    | none => rw [focusChainFrom_of_none h]; rfl
    | some c => rw [focusChainFrom_of_some h]; rfl
  | succ steps ih =>
    cases h : t.inFocus? n a with
    | none => rw [inFocusAfter?, h, focusChainFrom_of_none h]; rfl
    | some c => rw [inFocusAfter?, h, focusChainFrom_of_some h, Option.bind_some, ih]; rfl

/-- The walk starts where it is said to. -/
theorem head?_focusChainFrom (t : TtyTree α) (a : UInt32) (n : TtyId) :
    (t.focusChainFrom a n).head? = some n := by
  rw [List.head?_eq_getElem?, ← inFocusAfter?_eq]
  rfl

/-- The walk is its first tty and those that follow. -/
theorem focusChainFrom_eq_cons (t : TtyTree α) (a : UInt32) (n : TtyId) :
    t.focusChainFrom a n = n :: (t.focusChainFrom a n).tail :=
  List.eq_cons_of_mem_head? (head?_focusChainFrom t a n)

/-- Each tty of the walk is the one that focus leads to from the one before. -/
theorem isChain_focusChainFrom (t : TtyTree α) (a : UInt32) (n : TtyId) :
    (t.focusChainFrom a n).IsChain fun m c => t.inFocus? m a = some c := by
  fun_induction focusChainFrom with
  | case1 n h => exact List.isChain_singleton n
  | case2 n c h _ ih =>
    refine List.isChain_cons.2 ⟨fun d hd => ?_, ih⟩
    rw [head?_focusChainFrom] at hd
    obtain rfl : c = d := Option.some.inj hd
    exact h

/-- From the last tty of the walk focus leads nowhere. -/
theorem inFocus?_last (h : (t.focusChainFrom a n).getLast? = some m) : t.inFocus? m a = none := by
  fun_induction focusChainFrom with
  | case1 n hn =>
    obtain rfl : n = m := by simpa using h
    exact hn
  | case2 n c hc _ ih =>
    apply ih
    rw [focusChainFrom_eq_cons] at h ⊢
    rwa [List.getLast?_cons_cons] at h

/-- The walk goes to younger and younger ttys. -/
theorem pairwise_focusChainFrom (t : TtyTree α) (a : UInt32) (n : TtyId) :
    (t.focusChainFrom a n).Pairwise fun m d => m.val < d.val := by
  have : IsTrans TtyId fun m d => m.val < d.val := ⟨fun _ _ _ => Nat.lt_trans⟩
  apply List.IsChain.pairwise
  exact (isChain_focusChainFrom t a n).imp fun _ _ h => (lt_of_inFocus? h).1

/-- The walk does not come to a tty twice. -/
theorem nodup_focusChainFrom (t : TtyTree α) (a : UInt32) (n : TtyId) :
    (t.focusChainFrom a n).Nodup :=
  (pairwise_focusChainFrom t a n).imp fun hlt he => Nat.ne_of_lt hlt (congrArg TtyId.val he)

/-- All the ttys of the walk but the first hang below one. -/
theorem Ordered.parentOf?_of_mem_tail (h : t.Ordered) (hm : m ∈ (t.focusChainFrom a n).tail) :
    ∃ p, t.parentOf? m = some p := by
  fun_induction focusChainFrom with
  | case1 => cases hm
  | case2 n c hc _ ih =>
    rw [List.tail_cons, focusChainFrom_eq_cons] at hm
    rcases List.mem_cons.1 hm with rfl | hm
    · exact ⟨n, h.parentOf?_of_inFocus? hc⟩
    · exact ih hm

namespace Rooted

/-- A tty that hangs below another is not permanent. -/
theorem mem_inner_of_parentOf? (h : t.Rooted) {p : TtyId} (hp : t.parentOf? m = some p) :
    m ∈ t.inner := by
  refine mem_inner_iff.2 ⟨live_of_parentOf? hp, Bool.eq_false_iff.2 fun hperm => ?_⟩
  simp [(h.of_permanent hperm).2] at hp

/-- All the ttys of the walk are there, and all but the root lie beside the permanent two. -/
theorem mem_inner_of_mem_tail (h : t.Rooted) (hm : m ∈ (t.focusChain a).tail) : m ∈ t.inner := by
  obtain ⟨p, hp⟩ := h.ordered.parentOf?_of_mem_tail hm
  exact h.mem_inner_of_parentOf? hp

/-- The walk comes only to ttys that are there. -/
theorem live_of_mem_focusChain (h : t.Rooted) (hm : m ∈ t.focusChain a) : t.live m := by
  rw [focusChain, focusChainFrom_eq_cons] at hm
  rcases List.mem_cons.1 hm with rfl | hm
  · exact h.live_root
  · exact (mem_inner_iff.1 (h.mem_inner_of_mem_tail hm)).1

/-- The walk takes no more steps than there are ttys beside the permanent two. -/
theorem length_focusChain_le (h : t.Rooted) (a : UInt32) :
    (t.focusChain a).length ≤ t.size + 1 := by
  have hnodup : (t.focusChain a).tail.Nodup :=
    (nodup_focusChainFrom t a root).sublist (List.tail_sublist _)
  have hsub : (t.focusChain a).tail.toFinset ⊆ t.inner := fun m hm =>
    h.mem_inner_of_mem_tail (List.mem_toFinset.1 hm)
  have hle := Finset.card_le_card hsub
  rw [List.toFinset_card_of_nodup hnodup, h.card_inner, List.length_tail] at hle
  omega

/-- After so many steps focus leads nowhere. -/
theorem inFocusAfter?_size (h : t.Rooted) (a : UInt32) :
    t.inFocusAfter? a (t.size + 1) root = none := by
  rw [inFocusAfter?_eq]
  exact List.getElem?_eq_none (h.length_focusChain_le a)

end Rooted

/-! ### Searches -/

/-- Asks one list after the other until an answer comes, which may depend on the lists that were
asked before. -/
def firstAnswerAfter (pick : List (List α) → List α → Option β) (asked : List (List α)) :
    List (List α) → Option β × List (List α)
  | [] => (none, asked)
  | clients :: rest =>
    match pick asked clients with
    | some b => (some b, asked ++ [clients])
    | none => firstAnswerAfter pick (asked ++ [clients]) rest

/-- Asks the clients along focus, the deepest tty first, and remembers what the others were. -/
def searchMindful (t : TtyTree α) (a : UInt32) (pick : List (List α) → List α → Option β) :
    Option β × List (List α) :=
  firstAnswerAfter pick []
    ((t.focusChain a).reverse.filterMap fun id => (t.find? id).map (·.clients))

/-- Who remembers nothing gives the first answer there is. -/
theorem firstAnswerAfter_const (pick : List α → Option β) (asked ls : List (List α)) :
    firstAnswerAfter (fun _ => pick) asked ls =
      ((firstAnswer pick ls).1, asked ++ (firstAnswer pick ls).2) := by
  induction ls generalizing asked with
  | nil => simp [firstAnswerAfter, firstAnswer]
  | cons clients rest ih =>
    rw [firstAnswerAfter, firstAnswer]
    cases pick clients with
    | some b => rfl
    | none =>
      show firstAnswerAfter (fun _ => pick) (asked ++ [clients]) rest = _
      rw [ih, List.append_assoc]
      rfl

/-- Who does not mind what was seen before searches as usual. -/
theorem searchMindful_const (t : TtyTree α) (a : UInt32) (pick : List α → Option β) :
    t.searchMindful a (fun _ => pick) = t.search a pick := by
  rw [searchMindful, firstAnswerAfter_const, List.nil_append]
  rfl

/-- None of some ttys, asked one after the other, gives an answer. -/
def Declined (t : TtyTree α) (pick : List (List α) → List α → Option β) (ns : List TtyId) : Prop :=
  ∀ before n, before ++ [n] <+: ns → pick (before.map t.clientsOf) (t.clientsOf n) = none

/-- How a search among ttys ends that are asked one after the other: with the first answer, when the
ttys behind have not been asked, or when all have been asked and none has answered. -/
inductive SearchEnds (t : TtyTree α) (pick : List (List α) → List α → Option β) (ns : List TtyId) :
    Option β × List (List α) → Prop
  | answered {before after : List TtyId} {n : TtyId} {b : β} (hns : ns = before ++ n :: after)
      (hbefore : t.Declined pick before)
      (hb : pick (before.map t.clientsOf) (t.clientsOf n) = some b) :
      SearchEnds t pick ns (some b, (before ++ [n]).map t.clientsOf)
  | unanswered (hns : t.Declined pick ns) : SearchEnds t pick ns (none, ns.map t.clientsOf)

section searches

variable {pick : List (List α) → List α → Option β}

/-- One more tty has been asked and has given no answer. -/
theorem Declined.concat (h : t.Declined pick before)
    (hn : pick (before.map t.clientsOf) (t.clientsOf n) = none) :
    t.Declined pick (before ++ [n]) := by
  intro earlier m hm
  rcases List.prefix_concat_iff.1 hm with he | hm
  · obtain ⟨rfl, he⟩ := List.append_inj' he rfl
    obtain rfl : m = n := by simpa using he
    exact hn
  · exact h earlier m hm

/-- A search goes on behind those who have declined. -/
theorem firstAnswerAfter_ends (h : t.Declined pick before) (ns : List TtyId) :
    t.SearchEnds pick (before ++ ns)
      (firstAnswerAfter pick (before.map t.clientsOf) (ns.map t.clientsOf)) := by
  induction ns generalizing before with
  | nil =>
    rw [List.append_nil]
    exact .unanswered h
  | cons n ns ih =>
    rw [List.map_cons, firstAnswerAfter]
    cases hb : pick (before.map t.clientsOf) (t.clientsOf n) with
    | some b =>
      have hend : t.SearchEnds pick (before ++ n :: ns) _ := .answered rfl h hb
      rwa [List.map_append] at hend
    | none =>
      have hend := ih (h.concat hb)
      rwa [List.append_assoc, List.map_append] at hend

/-- Each tty of the walk is there, so that each has its clients asked. -/
theorem Rooted.clients_along_focus (h : t.Rooted) (a : UInt32) :
    (t.focusChain a).reverse.filterMap (fun id => (t.find? id).map (·.clients)) =
      (t.focusChain a).reverse.map t.clientsOf := by
  rw [← List.filterMap_eq_map]
  refine List.filterMap_congr fun n hn => ?_
  obtain ⟨m, hm⟩ := Option.isSome_iff_exists.1 (h.live_of_mem_focusChain (List.mem_reverse.1 hn))
  simp [clientsOf, hm]

/-- The search by someone who remembers ends as a search among the ttys of the walk, the last
first. -/
theorem Rooted.searchMindful_ends (h : t.Rooted) (a : UInt32)
    (pick : List (List α) → List α → Option β) :
    t.SearchEnds pick (t.focusChain a).reverse (t.searchMindful a pick) := by
  have hnone : t.Declined pick [] := fun before n hpre => by simp at hpre
  rw [searchMindful, h.clients_along_focus]
  exact firstAnswerAfter_ends hnone _

end searches

/-- A search asks the ttys of the walk from the last to the root, up to the first that answers. -/
theorem Rooted.search_ends (h : t.Rooted) (a : UInt32) (pick : List α → Option β) :
    t.SearchEnds (fun _ => pick) (t.focusChain a).reverse (t.search a pick) :=
  searchMindful_const t a pick ▸ h.searchMindful_ends a fun _ => pick

/-- It has no answer if and only if no tty of the walk gives one. -/
theorem Rooted.firstAlongFocus_eq_none_iff (h : t.Rooted) (a : UInt32) (pick : List α → Option β) :
    t.firstAlongFocus a pick = none ↔ ∀ n ∈ t.focusChain a, pick (t.clientsOf n) = none := by
  rw [firstAlongFocus, search, firstAnswer_fst, h.clients_along_focus, List.findSome?_eq_none_iff]
  simp

/-! ### Any tree -/

/-- How the walk along focus goes and ends, and how the searches do that follow it back. -/
structure WalksAndSearches (t : TtyTree α) (a : UInt32) : Prop where
  starts : (t.focusChain a).head? = some root
  /-- Each tty of the walk is the child that focus leads to from the one before. -/
  follows : (t.focusChain a).IsChain fun n c => t.inFocus? n a = some c
  /-- The walk goes on for as long as there is such a child. -/
  ends : ∀ n, (t.focusChain a).getLast? = some n → t.inFocus? n a = none
  /-- It does not come to a tty twice. -/
  nodup : (t.focusChain a).Nodup
  length_le : (t.focusChain a).length ≤ t.size + 1
  /-- Focus leads nowhere after more steps than there are ttys beside the permanent two. -/
  stops : t.inFocusAfter? a (t.size + 1) root = none
  /-- A search asks the ttys of the walk, the last first, up to the first that answers. -/
  search : ∀ {β : Type} (pick : List α → Option β),
    t.SearchEnds (fun _ => pick) (t.focusChain a).reverse (t.search a pick)
  /-- There is no answer if and only if none of them gives one. -/
  unanswered : ∀ {β : Type} (pick : List α → Option β),
    t.firstAlongFocus a pick = none ↔ ∀ n ∈ t.focusChain a, pick (t.clientsOf n) = none
  /-- So does a search by someone who remembers which clients they were shown before. -/
  mindful : ∀ {β : Type} (pick : List (List α) → List α → Option β),
    t.SearchEnds pick (t.focusChain a).reverse (t.searchMindful a pick)

/-- In every tree that operations lead to, the walk along focus ends within the number of ttys and
comes to none twice, and a search back along it gives the first answer there is. -/
theorem walk_and_search_end [DecidableEq α] {limit : Nat} (h : t.Reached limit) (a : UInt32) :
    WalksAndSearches t a := by
  have hroot := h.rooted
  constructor
  case starts => exact head?_focusChainFrom t a root
  case follows => exact isChain_focusChainFrom t a root
  case ends => exact fun n hn => inFocus?_last hn
  case nodup => exact nodup_focusChainFrom t a root
  case length_le => exact hroot.length_focusChain_le a
  case stops => exact hroot.inFocusAfter?_size a
  case search => exact fun pick => hroot.search_ends a pick
  case unanswered => exact fun pick => hroot.firstAlongFocus_eq_none_iff a pick
  case mindful => exact fun pick => hroot.searchMindful_ends a pick

/-- Two siblings have the number one. The focus of the elder points to its child, and that one's to
a child that it does not have. -/
def signposted : TtyTree Nat :=
  ([.create root [1, 2], .create root [1, 9], .setFocus ⟨2⟩ (some 2), .setFocus ⟨3⟩ (some 9),
    .attach root 4, .attach ⟨2⟩ 5, .attach ⟨3⟩ 6] : List (Operation Nat)).foldl after (withLimit 4)

/-- The walk ends at the last focus, and a search for an odd client does not come to the root. -/
theorem walk_and_search_end_signposted :
    (signposted.focusChain 1 = [root, ⟨2⟩, ⟨3⟩] ∧
      signposted.search 1 (·.find? (· % 2 = 1)) = (some 5, [[6], [5]]) ∧
      signposted.search 1 (·.find? (· = 7)) = (none, [[6], [5], [4]])) ∧
      ∀ a, WalksAndSearches signposted a :=
  ⟨by decide +kernel, fun a => walk_and_search_end ⟨_, rfl⟩ a⟩

end BrailleShare.TtyTree
