import BrailleShare.Proofs.Tty.Paths

/-!
# The focus path

Which way focus leads through a tree, said without a walk: every tty leads to at most one of its
children (`Leads`), and the focus path goes on as far as this leads (`FocusPath`).

Main statements: there is one focus path from each tty (`FocusPath.unique`), the walk along focus
takes it (`focusPath_focusChainFrom`), and a search asks its ttys from the last to the first
(`firstAlongFocus_eq`).
-/

namespace BrailleShare.TtyTree

variable {α β : Type} {t t' : TtyTree α} {n c d spare : TtyId} {a : UInt32} {P Q : List TtyId}

/-- The child that a tty leads to while the host shows the console `a`. -/
inductive Leads (t : TtyTree α) (a : UInt32) : TtyId → TtyId → Prop
  /-- The root leads to the child with the console's number, whatever its focus names. -/
  | console {c : TtyId} (hc : t.link? c = some (some root, a)) : Leads t a root c
  /-- Any other tty leads to the child that its focus names. -/
  | focus {n c : TtyId} {k : UInt32} (hn : n ≠ root) (hf : t.focusOf n = some k)
      (hc : t.link? c = some (some n, k)) : Leads t a n c
  /-- With focus unset it leads to the child with the console's number. -/
  | active {n c : TtyId} (hn : n ≠ root) (hf : t.focusOf n = none)
      (hc : t.link? c = some (some n, a)) : Leads t a n c
  /-- If there is no such child either, it leads to the oldest one. -/
  | oldest {n c : TtyId} {k : UInt32} (hn : n ≠ root) (hf : t.focusOf n = none)
      (hnone : ∀ d, t.link? d ≠ some (some n, a)) (hc : t.link? c = some (some n, k))
      (hmin : ∀ {d k}, t.link? d = some (some n, k) → c.val ≤ d.val) : Leads t a n c

/-- The ttys from one on that focus leads to, as far as it leads. -/
inductive FocusPath (t : TtyTree α) (a : UInt32) : TtyId → List TtyId → Prop
  | stop {n : TtyId} (h : ∀ c, ¬ t.Leads a n c) : FocusPath t a n [n]
  | step {n c : TtyId} {P : List TtyId} (h : t.Leads a n c) (hP : FocusPath t a c P) :
      FocusPath t a n (n :: P)

/-! ### One way to go -/

/-- Focus leads to a child. -/
theorem Leads.link (h : t.Leads a n c) : ∃ k, t.link? c = some (some n, k) := by
  cases h with
  | console hc => exact ⟨_, hc⟩
  | focus _ _ hc => exact ⟨_, hc⟩
  | active _ _ hc => exact ⟨_, hc⟩
  | oldest _ _ _ hc => exact ⟨_, hc⟩

/-- A tty leads to one child at most. -/
theorem SoundBut.leads_unique (ht : t.SoundBut spare) (hc : t.Leads a n c) (hd : t.Leads a n d) :
    c = d := by
  cases hc with
  | console hc =>
    cases hd with
    | console hd => exact ht.siblings hc hd
    | focus hn => exact absurd rfl hn
    | active hn => exact absurd rfl hn
    | oldest hn => exact absurd rfl hn
  | focus hn hf hc =>
    cases hd with
    | console => exact absurd rfl hn
    | focus _ hf' hd =>
      rw [hf, Option.some.injEq] at hf'
      exact ht.siblings hc (hf' ▸ hd)
    | active _ hf' => simp [hf] at hf'
    | oldest _ hf' => simp [hf] at hf'
  | active hn hf hc =>
    cases hd with
    | console => exact absurd rfl hn
    | focus _ hf' => simp [hf] at hf'
    | active _ _ hd => exact ht.siblings hc hd
    | oldest _ _ hnone => exact absurd hc (hnone c)
  | oldest hn hf hnone hc hmin =>
    cases hd with
    | console => exact absurd rfl hn
    | focus _ hf' => simp [hf] at hf'
    | active _ _ hd => exact absurd hd (hnone d)
    | oldest _ _ _ hd hmin' =>
      have heq : c.val = d.val := Nat.le_antisymm (hmin hd) (hmin' hc)
      cases c
      cases d
      exact congrArg TtyId.mk heq

/-- There is one focus path from a tty. -/
theorem FocusPath.unique (ht : t.SoundBut spare) (hP : t.FocusPath a n P)
    (hQ : t.FocusPath a n Q) : P = Q := by
  induction hP generalizing Q with
  | stop hstop =>
    cases hQ with
    | stop => rfl
    | step h => exact absurd h (hstop _)
  | step h _ ih =>
    cases hQ with
    | stop hstop => exact absurd h (hstop _)
    | step h' hQ' => rw [ih (ht.leads_unique h h' ▸ hQ')]

/-- The lobby does not lie on the focus path. -/
theorem FocusPath.ne_lobby (ht : t.SoundBut spare) (hP : t.FocusPath a n P) (hn : n ≠ lobby) :
    ∀ m ∈ P, m ≠ lobby := by
  induction hP with
  | stop => simpa using hn
  | step h _ ih =>
    refine List.forall_mem_cons.2 ⟨hn, ih ?_⟩
    rintro rfl
    obtain ⟨k, hk⟩ := h.link
    simp [ht.lobby_link] at hk

/-- The focus of the root leads nowhere else. -/
theorem FocusPath.congr (hlink : ∀ x, t'.link? x = t.link? x)
    (hfocus : ∀ x, x ≠ root → t'.focusOf x = t.focusOf x) (hP : t'.FocusPath a n P) :
    t.FocusPath a n P := by
  have hleads : ∀ {n c}, t'.Leads a n c ↔ t.Leads a n c := by
    intro n c
    constructor
    · intro h
      cases h with
      | console hc => exact .console (by rwa [← hlink])
      | focus hn hf hc => exact .focus hn (by rwa [← hfocus _ hn]) (by rwa [← hlink])
      | active hn hf hc => exact .active hn (by rwa [← hfocus _ hn]) (by rwa [← hlink])
      | oldest hn hf hnone hc hmin =>
        simp only [hlink] at hnone hc hmin
        exact .oldest hn (by rwa [← hfocus _ hn]) hnone hc hmin
    · intro h
      cases h with
      | console hc => exact .console (by rwa [hlink])
      | focus hn hf hc => exact .focus hn (by rwa [hfocus _ hn]) (by rwa [hlink])
      | active hn hf hc => exact .active hn (by rwa [hfocus _ hn]) (by rwa [hlink])
      | oldest hn hf hnone hc hmin =>
        simp only [← hlink] at hnone hc hmin
        exact .oldest hn (by rwa [hfocus _ hn]) hnone hc hmin
  induction hP with
  | stop h => exact .stop fun c hc => h c (hleads.2 hc)
  | step h _ ih => exact .step (hleads.1 h) ih

/-! ### The walk along focus -/

/-- Focus leads to the child that has the number in focus, or the console's number where none is. -/
theorem inFocus?_eq (t : TtyTree α) (n : TtyId) (a : UInt32) : t.inFocus? n a =
    if t.live n then
      match t.focusOf n with
      | some k => t.child? n k
      | none => t.child? n a <|> (t.children n).head?
    else none := by
  unfold inFocus?
  cases h : t.find? n with
  | none => simp [live, h]
  | some m => cases hf : m.focus <;> simp [live, focusOf, h, hf]

/-- The child that focus leads to is the one that the walk takes next. -/
theorem SoundBut.leads_of_inFocus? (ht : t.SoundBut spare) (hroot : t.focusOf root = some a)
    (h : t.inFocus? n a = some c) : t.Leads a n c := by
  rw [inFocus?_eq] at h
  split at h
  · by_cases hn : n = root
    · subst n
      rw [hroot] at h
      exact .console (ht.child?_eq_some_iff.1 h)
    · split at h
      · rename_i k hf
        exact .focus hn hf (ht.child?_eq_some_iff.1 h)
      · rename_i hf
        cases hch : t.child? n a with
        | some d =>
          rw [hch] at h
          obtain rfl : d = c := Option.some.inj h
          exact .active hn hf (ht.child?_eq_some_iff.1 hch)
        | none =>
          rw [hch] at h
          obtain ⟨rest, hrest⟩ := List.head?_eq_some_iff.1 h
          obtain ⟨k, hk⟩ := ht.ordered.mem_children_iff.1 (hrest ▸ List.mem_cons_self)
          refine .oldest hn hf (link?_ne_of_child? hch) hk fun {d k} hd => ?_
          -- children are listed oldest first
          have hsorted := ht.ordered.children n
          have hmem : d ∈ t.children n := ht.ordered.mem_children_iff.2 ⟨k, hd⟩
          rw [hrest] at hsorted hmem
          rcases List.mem_cons.1 hmem with rfl | hmem
          · exact Nat.le_refl _
          · exact Nat.le_of_lt (List.rel_of_pairwise_cons hsorted hmem)
  · cases h

/-- Where the walk ends, focus leads nowhere. -/
theorem SoundBut.not_leads_of_inFocus? (ht : t.SoundBut spare) (hroot : t.focusOf root = some a)
    (h : t.inFocus? n a = none) : ¬ t.Leads a n c := by
  intro hc
  obtain ⟨k, hk⟩ := hc.link
  have hmem : c ∈ t.children n := ht.ordered.mem_children_iff.2 ⟨k, hk⟩
  rw [inFocus?_eq, if_pos (ht.parent hk).1] at h
  cases hc with
  | console hc =>
    rw [hroot] at h
    exact link?_ne_of_child? h c hc
  | focus hn hf hc =>
    rw [hf] at h
    exact link?_ne_of_child? h c hc
  | active hn hf hc =>
    have hboth : t.child? n a = none ∧ t.children n = [] := by simpa [hf] using h
    exact link?_ne_of_child? hboth.1 c hc
  | oldest hn hf _ hc =>
    have hboth : t.child? n a = none ∧ t.children n = [] := by simpa [hf] using h
    simp [hboth.2] at hmem

/-- The walk along focus takes the focus path. -/
theorem SoundBut.focusPath_focusChainFrom (ht : t.SoundBut spare)
    (hroot : t.focusOf root = some a) (n : TtyId) : t.FocusPath a n (t.focusChainFrom a n) := by
  fun_induction focusChainFrom with
  | case1 n h => exact .stop fun c => ht.not_leads_of_inFocus? hroot h
  | case2 n c h _ ih => exact .step (ht.leads_of_inFocus? hroot h) ih

/-! ### Searches -/

/-- The first answer is the first that there is to any of the lists. -/
theorem firstAnswer_fst (pick : List α → Option β) (ls : List (List α)) :
    (firstAnswer pick ls).1 = ls.findSome? pick := by
  induction ls with
  | nil => rfl
  | cons l ls ih =>
    rw [firstAnswer, List.findSome?_cons]
    cases pick l with
    | none => exact ih
    | some b => rfl

/-- A search asks the ttys along focus from the last to the first. -/
theorem firstAlongFocus_eq {pick : List α → Option β} (hnil : pick [] = none) :
    t.firstAlongFocus a pick =
      (t.focusChain a).reverse.findSome? fun n => pick (t.clientsOf n) := by
  rw [firstAlongFocus, search, firstAnswer_fst, ← List.head?_filterMap, List.filterMap_filterMap,
    List.head?_filterMap]
  congr 1
  funext n
  cases h : t.find? n with
  | none => simp [clientsOf, h, hnil]
  | some m => simp [clientsOf, h]

end BrailleShare.TtyTree
