import BrailleShare.Proofs.Tty.Paths

/-!
# Making the ttys of a path

A path may lead to a tty or end before it does; then the ttys that are missing are made, all of them
or none.

Main statements: a tree in which a path has been opened is sound but for the tty at its end, to
which the path leads (`Opens.sound`), it keeps all that was there (`GrownFrom`), and an attempt that
fails leaves the ttys as they were (`create_of_error`) and can only have failed for want of room
(`create_error_eq`).
-/

namespace BrailleShare.TtyTree

variable {α : Type} {t t' : TtyTree α} {id here p : TtyId} {k : UInt32} {q : List UInt32}

/-- One tree has grown out of another: what was there hangs where it hung, and nobody has moved. -/
structure GrownFrom (t' t : TtyTree α) : Prop where
  links : ∀ {x l}, t.link? x = some l → t'.link? x = some l
  clients : ∀ x, t'.clientsOf x = t.clientsOf x
  limit : t'.limit = t.limit

/-- A tree has grown from itself. -/
theorem GrownFrom.refl (t : TtyTree α) : t.GrownFrom t :=
  ⟨id, fun _ => rfl, rfl⟩

/-- A tree that grows twice has grown. -/
theorem GrownFrom.trans {t'' : TtyTree α} (h : t''.GrownFrom t') (h' : t'.GrownFrom t) :
    t''.GrownFrom t :=
  ⟨fun hx => h.links (h'.links hx), fun x => (h.clients x).trans (h'.clients x),
    h.limit.trans h'.limit⟩

/-- What is in a tree is still there when it has grown. -/
theorem GrownFrom.live (h : t'.GrownFrom t) (hl : t.live id) : t'.live id := by
  obtain ⟨l, hl⟩ := live_iff.1 hl
  exact live_of_link? (h.links hl)

/-- A tty keeps its path when a tree grows. -/
theorem GrownFrom.path_eq {spare : TtyId} (h : t'.GrownFrom t) (ht : t.SoundBut spare)
    (hl : t.live id) : t'.path id = t.path id :=
  (path_congr (fun hx => (ht.parent hx).1) h.links hl).symm

/-- A tree grows by a child. -/
theorem GrownFrom.of_addChild (e : t.addChild p k = .ok (t', id)) : t'.GrownFrom t where
  links {x l} hx := by
    have hne : x ≠ id := by
      rintro rfl
      simpa [live_of_link? hx] using not_live_of_addChild e
    rw [link?_of_addChild e, if_neg hne, hx]
  clients := clientsOf_of_addChild e
  limit := (addChild_eq_ok_iff.1 e).2.2.2.2.2

/-! ### A chain of new ttys -/

/-- A chain of new ttys below one leads from there to the last of them. -/
theorem SoundBut.extend (h : t.SoundBut here) (hl : t.live here) (hne : here ≠ lobby)
    (free : ∀ k, q.head? = some k → ∀ c, t.link? c ≠ some (some here, k))
    (e : (t.extend here q).result = .ok id) :
    (t.extend here q).tree.SoundBut id ∧ (t.extend here q).tree.live id ∧ id ≠ lobby ∧
      (t.extend here q).tree.path id = t.path here ++ q ∧
      (t.extend here q).tree.GrownFrom t := by
  induction q generalizing t here with
  | nil =>
    cases e
    exact ⟨h, hl, hne, (List.append_nil _).symm, .refl t⟩
  | cons k q ih =>
    simp only [TtyTree.extend] at e ⊢
    split at e
    · cases e
    · rename_i t₁ c hc
      have hsound := h.addChild hne (free k rfl) hc
      have hgrown := GrownFrom.of_addChild hc
      have hlink := link?_of_addChild hc
      have hlive : t₁.live c := live_iff.2 ⟨_, by rw [hlink, if_pos rfl]⟩
      have hdead := not_live_of_addChild hc
      have hcne : c ≠ lobby := by
        rintro rfl
        simp [h.live_lobby] at hdead
      -- nothing hangs below a tty that has just been made
      have hfree : ∀ k, q.head? = some k → ∀ d, t₁.link? d ≠ some (some c, k) := by
        intro k' _ d hd
        rw [hlink] at hd
        split at hd
        · simp only [Option.some.injEq, Prod.mk.injEq] at hd
          rw [hd.1] at hl
          simp [hl] at hdead
        · simp [(h.parent hd).1] at hdead
      obtain ⟨hs, hid, hidne, hpath, hg⟩ := ih hsound hlive hcne hfree e
      refine ⟨hs, hid, hidne, ?_, hg.trans hgrown⟩
      rw [hpath, path_of_link? (by rw [hlink, if_pos rfl]), hgrown.path_eq h hl, List.append_assoc]
      rfl

/-- What survives each new tty survives a chain of them. -/
theorem extend_invariant {P : TtyTree α → Prop} (h : P t)
    (step : ∀ {t t' p k id}, t.addChild p k = .ok (t', id) → P t → P t') :
    P (t.extend here q).tree := by
  induction q generalizing t here with
  | nil => exact h
  | cons k q ih =>
    simp only [TtyTree.extend]
    split
    · exact h
    · exact ih (step ‹_› h)

/-- A chain of new ttys comes behind those that are there, with ids of its own. -/
theorem extend_ttys (t : TtyTree α) (here : TtyId) (q : List UInt32) :
    ∃ made, (t.extend here q).tree.ttys = t.ttys ++ made ∧
      made.map (·.id) = (t.extend here q).made.map (·.2) ∧
      (∀ n ∈ made, t.nextId ≤ n.id.val) ∧ (t.extend here q).tree.limit = t.limit := by
  induction q generalizing t here with
  | nil => exact ⟨[], by simp [TtyTree.extend]⟩
  | cons k q ih =>
    simp only [TtyTree.extend]
    split
    · exact ⟨[], by simp⟩
    · rename_i t₁ c hc
      obtain ⟨-, -, hid, htt, hnext, hlimit⟩ := addChild_eq_ok_iff.1 hc
      obtain ⟨made, hmade, hids, hle, hlim⟩ := ih t₁ c
      refine ⟨⟨c, k, none, some here, []⟩ :: made, ?_, ?_, ?_, hlim.trans hlimit⟩
      · simp [hmade, htt]
      · simp [hids]
      · intro n hn
        rcases List.mem_cons.1 hn with rfl | hn
        · exact hid ▸ Nat.le_refl _
        · have := hle n hn
          omega

/-- A chain that could be made has a tty for each of its numbers. -/
theorem length_of_extend (e : (t.extend here q).result = .ok id) :
    (t.extend here q).tree.ttys.length = t.ttys.length + q.length := by
  induction q generalizing t here with
  | nil => rfl
  | cons k q ih =>
    simp only [TtyTree.extend] at e ⊢
    split at e
    · cases e
    · rename_i t₁ c hc
      obtain ⟨-, -, -, htt, -, -⟩ := addChild_eq_ok_iff.1 hc
      rw [ih e, htt, List.length_append, List.length_singleton, List.length_cons]
      omega

/-- A chain that cannot be made has met the limit. -/
theorem extend_error_eq {e : TtyError} (hl : t.live here)
    (he : (t.extend here q).result = .error e) : e = .limitReached t.limit := by
  induction q generalizing t here with
  | nil => cases he
  | cons k q ih =>
    simp only [TtyTree.extend] at he
    split at he
    · rename_i e' hc
      cases he
      rcases addChild_eq_error_iff.1 hc with ⟨-, he⟩ | ⟨-, hdead, -⟩
      · exact he
      · simp [hl] at hdead
    · rename_i t₁ c hc
      have hlink := link?_of_addChild hc
      have hlive : t₁.live c := live_iff.2 ⟨_, by rw [hlink, if_pos rfl]⟩
      rw [ih hlive he, (GrownFrom.of_addChild hc).limit]

/-- A child is made if there is room for one. -/
theorem addChild_of_room (hl : t.live p) (hroom : t.size < t.limit) (k : UInt32) :
    ∃ t' id, t.addChild p k = .ok (t', id) := by
  unfold addChild
  split
  · omega
  · split
    · simp [live, *] at hl
    · exact ⟨_, _, rfl⟩

/-- A chain can be made if there is room for all of it. -/
theorem extend_of_room (hl : t.live here) (hroom : t.size + q.length ≤ t.limit) :
    ∃ id, (t.extend here q).result = .ok id := by
  induction q generalizing t here with
  | nil => exact ⟨here, rfl⟩
  | cons k q ih =>
    rw [List.length_cons] at hroom
    obtain ⟨t₁, c, hc⟩ := addChild_of_room hl (by omega) k
    have hlink := link?_of_addChild hc
    have hlive : t₁.live c := live_iff.2 ⟨_, by rw [hlink, if_pos rfl]⟩
    have hlimit := (GrownFrom.of_addChild hc).limit
    have hsize := size_of_addChild hc
    obtain ⟨id, hid⟩ := ih hlive (by omega)
    exact ⟨id, by simpa only [TtyTree.extend, hc] using hid⟩

/-! ### All or none -/

/-- If all of a path is made, nothing of it is taken back. -/
theorem create_of_ok (e : (t.create p q).result = .ok id) : t.create p q = t.extend p q := by
  unfold create at e ⊢
  split
  · rename_i hl
    simp only [hl, if_true] at e
    split at e
    · simp [*]
    · rename_i e' he
      simp [he] at e
  · rename_i hl
    simp [hl] at e

/-- Below a tty that is not there nothing is made. -/
theorem create_of_dead (h : t.live p = false) :
    t.create p q = ⟨t, [], .error (.noSuchTty p)⟩ :=
  if_neg (by simp [h])

/-- The ttys that are made on the way use up ids, whatever comes of the attempt. -/
theorem made_of_live (hl : t.live p) : (t.create p q).made = (t.extend p q).made ∧
    (t.create p q).tree.nextId = (t.extend p q).tree.nextId := by
  rw [create, if_pos hl]
  dsimp only
  split <;> exact ⟨rfl, rfl⟩

/-- An attempt that fails leaves the ttys as they were. -/
theorem create_of_error {e : TtyError} (he : (t.create p q).result = .error e) :
    (t.create p q).tree.ttys = t.ttys ∧ (t.create p q).tree.limit = t.limit := by
  unfold create at he ⊢
  split
  · rename_i hl
    obtain ⟨made, htt, hids, hle, hlim⟩ := extend_ttys t p q
    simp only [hl, if_true] at he
    split at he
    · rename_i hok
      simp [hok] at he
    · rename_i e' he'
      simp only [he']
      refine ⟨?_, hlim⟩
      have hgone : ∀ n : Tty α, ((t.extend p q).made.any fun m => m.2 == n.id) =
          (made.map (·.id)).contains n.id := by
        intro n
        rw [hids, Bool.eq_iff_iff]
        simp
      simp only [without, htt, hgone, List.filter_append]
      have hold : t.ttys.filter (fun n => !(made.map (·.id)).contains n.id) = t.ttys := by
        refine List.filter_eq_self.2 fun n hn => ?_
        have hlt := t.issued n hn
        simp only [List.contains_eq_mem, List.mem_map, Bool.not_eq_true', decide_eq_false_iff_not]
        rintro ⟨m, hm, hid⟩
        have := hle m hm
        rw [hid] at this
        omega
      have hnew : made.filter (fun n => !(made.map (·.id)).contains n.id) = [] := by
        refine List.filter_eq_nil_iff.2 fun n hn => ?_
        simp only [List.contains_eq_mem, List.mem_map, Bool.not_eq_true', decide_eq_false_iff_not,
          not_not]
        exact ⟨n, hn, rfl⟩
      rw [hold, hnew, List.append_nil]
  · exact ⟨rfl, rfl⟩

/-- An attempt below a tty that is there succeeds if there is room for all the ttys. -/
theorem create_of_room (hl : t.live p) (hroom : t.size + q.length ≤ t.limit) :
    ∃ id, (t.create p q).result = .ok id := by
  obtain ⟨id, hid⟩ := extend_of_room hl hroom
  refine ⟨id, ?_⟩
  rw [create, if_pos hl]
  dsimp only
  rw [hid]
  exact hid

/-- An attempt below a tty that is there can only fail for want of room. -/
theorem create_error_eq {e : TtyError} (hl : t.live p) (he : (t.create p q).result = .error e) :
    e = .limitReached t.limit := by
  refine extend_error_eq (q := q) hl ?_
  unfold create at he
  simp only [hl, if_true] at he
  split at he
  · rename_i hok
    simp [hok] at he
  · rename_i e' he'
    simpa [he'] using he

/-! ### Opening a path -/

/-- What opening a path leads to: the tty at its end, in a tree that has it. -/
inductive Opens (t : TtyTree α) (q : List UInt32) : TtyTree α → TtyId → Prop
  /-- The tty is there. -/
  | found {id : TtyId} (h : t.lookup q = .found id) : Opens t q t id
  /-- The tty had to be made. -/
  | made {d id : TtyId} {m : Nat} (h : t.lookup q = .missing d m)
      (e : (t.create d (q.drop m)).result = .ok id) : Opens t q (t.create d (q.drop m)).tree id

/-- Where a path leads no further, its rest begins with a number that is free below a tty that is
there. -/
theorem SoundBut.lookup_missing {spare d : TtyId} {m : Nat} (h : t.SoundBut spare)
    (hm : t.lookup q = .missing d m) :
    t.live d ∧ d ≠ lobby ∧ t.path d ++ q.drop m = q ∧
      ∀ k, (q.drop m).head? = some k → ∀ c, t.link? c ≠ some (some d, k) := by
  obtain ⟨a, k, r, rfl, rfl, ha, hk⟩ := lookupFrom_eq_missing hm
  obtain ⟨hl, hne, hp⟩ := h.lookup_eq_found_iff.1 ha
  refine ⟨hl, hne, by simp [hp], fun k' hk' c => ?_⟩
  simp only [Nat.zero_add, List.drop_left, List.head?_cons, Option.some.injEq] at hk'
  exact hk' ▸ link?_ne_of_child? hk c

/-- Of a path that leads no further the beginnings lead somewhere that are no longer than what could
be followed. -/
theorem SoundBut.lookup_beginning_iff {spare d : TtyId} {m : Nat} {a : List UInt32}
    (h : t.SoundBut spare) (hm : t.lookup q = .missing d m) (ha : a <+: q) :
    (∃ id, t.lookup a = .found id) ↔ a.length ≤ m := by
  obtain ⟨b, k, r, rfl, rfl, hb, hk⟩ := lookupFrom_eq_missing hm
  obtain ⟨hl, hne, hpath⟩ := h.lookup_eq_found_iff.1 hb
  rw [Nat.zero_add]
  constructor
  · rintro ⟨id, hid⟩
    apply Nat.le_of_not_lt
    intro hlt
    have hlonger : b <+: a :=
      List.prefix_of_prefix_length_le (List.prefix_append b _) ha (Nat.le_of_lt hlt)
    obtain ⟨c, rfl⟩ := hlonger
    cases c with
    | nil => simp at hlt
    | cons k' c =>
      obtain rfl : k' = k := by
        obtain ⟨l, hl⟩ := (List.prefix_append_right_inj b).1 ha
        exact (List.cons.inj hl).1
      rw [lookup, lookupFrom_append, hb] at hid
      simp [lookupFrom, hk] at hid
  · intro hle
    have hpre : a <+: t.path d := by
      rw [hpath]
      exact List.prefix_of_prefix_length_le ha (List.prefix_append b _) hle
    obtain ⟨id, hid⟩ := h.exists_of_prefix_path hl hne hpre
    exact ⟨id, h.lookup_eq_found_iff.2 hid⟩

/-- What is missing of a path is made only if there is room for all of it. -/
theorem SoundBut.room_of_made {d : TtyId} {m : Nat} (h : t.Sound) (hm : t.lookup q = .missing d m)
    (e : (t.create d (q.drop m)).result = .ok id) : t.size + (q.length - m) ≤ t.limit := by
  obtain ⟨hl, hne, -, hfree⟩ := h.lookup_missing hm
  have hex := create_of_ok e
  rw [hex] at e
  obtain ⟨hsound, -, -, -, hgrown⟩ := (SoundBut.of_sound h d).extend hl hne hfree e
  have hsize := hsound.size_le
  have htwo := h.two_le_length
  rw [hgrown.limit, size, length_of_extend e, List.length_drop] at hsize
  unfold size
  omega

/-- Once a path has been opened it leads to the tty, which alone may be without use. -/
theorem Opens.sound (h : t.Sound) (o : t.Opens q t' id) :
    t'.SoundBut id ∧ t'.live id ∧ id ≠ lobby ∧ t'.path id = q ∧ t'.GrownFrom t := by
  cases o with
  | found hf =>
    obtain ⟨hl, hne, hp⟩ := h.lookup_eq_found_iff.1 hf
    exact ⟨.of_sound h _, hl, hne, hp, .refl t⟩
  | @made d _ m hm e =>
    obtain ⟨hl, hne, hp, hfree⟩ := h.lookup_missing hm
    have hex := create_of_ok e
    rw [hex] at e ⊢
    have := (SoundBut.of_sound h d).extend hl hne hfree e
    rwa [hp] at this

end BrailleShare.TtyTree
