import BrailleShare.Proofs.Server.Agreement

/-!
# What grants tell

A client that knows nothing but what it and others were granted can tell which paths are held and
who came first in a tty.

Main statements: whoever holds a tty after a change held it before or has just been granted it
(`Consistent.tty?_of_change`), a tty's clients lose some of them or gain the one that has just been
granted it (`Consistent.clientsOf_of_change`), and in every reachable state the last grant to a
client names the path of its tty, and the clients in a tty are in the order of their last grants
(`ReachableWith.accounted`).
-/

namespace BrailleShare

/-! ### Lists of grants -/

namespace Grant

variable {given g : List Grant} {a b : ClientId} {path : List UInt32}

/-- Grants to others leave the last path of a client as it was. -/
theorem lastPath?_append_of_ne (h : ∀ e ∈ g, e.client ≠ a) :
    lastPath? (given ++ g) a = lastPath? given a := by
  have hnone : g.reverse.find? (fun e => e.client == a) = none := by
    simpa [List.find?_eq_none] using h
  rw [lastPath?, List.reverse_append, List.find?_append, hnone, Option.none_or, lastPath?]

/-- The path that was granted last is the last one. -/
theorem lastPath?_concat (given : List Grant) (a : ClientId) (path : List UInt32) :
    lastPath? (given ++ [⟨a, path⟩]) a = some path := by
  simp [lastPath?]

/-- The last grant to a client parts the others into those before and those after it. -/
theorem exists_of_lastPath? (h : lastPath? given a = some path) :
    ∃ before after, given = before ++ ⟨a, path⟩ :: after ∧ ∀ e ∈ after, e.client ≠ a := by
  obtain ⟨⟨a', p⟩, hfind, rfl⟩ := Option.map_eq_some_iff.1 h
  obtain ⟨ha, after, before, hrev, hafter⟩ := List.find?_eq_some_iff_append.1 hfind
  obtain rfl : a' = a := by simpa using ha
  refine ⟨before.reverse, after.reverse, ?_, ?_⟩
  · rw [← List.reverse_reverse given, hrev]
    simp
  · simpa using hafter

/-- Grants to others do not change who was granted a tty earlier. -/
theorem Earlier.append (h : Earlier given a b) (hg : ∀ e ∈ g, e.client ≠ a) :
    Earlier (given ++ g) a b := by
  obtain ⟨before, path, after, rfl, hafter, e, he, heb⟩ := h
  refine ⟨before, path, after ++ g, by simp, ?_, e, List.mem_append_left g he, heb⟩
  intro e he
  rcases List.mem_append.1 he with he | he
  · exact hafter e he
  · exact hg e he

/-- Whoever has been granted a tty was so before another is granted one. -/
theorem Earlier.concat (h : lastPath? given a = some path) (hab : b ≠ a) (path' : List UInt32) :
    Earlier (given ++ [⟨b, path'⟩]) a b := by
  obtain ⟨before, after, rfl, hafter⟩ := exists_of_lastPath? h
  refine ⟨before, path, after ++ [⟨b, path'⟩], by simp, ?_, ⟨b, path'⟩, by simp, rfl⟩
  intro e he
  rcases List.mem_append.1 he with he | he
  · exact hafter e he
  · rwa [List.mem_singleton.1 he]

end Grant

namespace Server

variable {σ : Type} {s t : Server σ} {given g : List Grant} {x : ClientId} {c : Client}
  {h : Holding} {tty : TtyId}

/-! ### Held ttys -/

/-- The tty that a client holds. -/
def tty? (s : Server σ) (id : ClientId) : Option TtyId :=
  (s.holding? id).map (·.tty)

/-- A client holds the tty that is in its record. -/
theorem tty?_of_holding (hc : s.client? c.id = some c) (hh : c.holding = some h) :
    s.tty? c.id = some h.tty := by
  simp [tty?, holding?, hc, hh]

/-- What one client holds may change for this one alone. -/
theorem tty?_setHolding (hc : s.client? c.id = some c) (h : Option Holding) (x : ClientId) :
    (s.setHolding c.id h).tty? x = if x = c.id then h.map (·.tty) else s.tty? x := by
  simp only [tty?, holding?_setHolding hc]
  split <;> rfl

/-- A client that keeps its tty holds what it held. -/
theorem tty?_rehold (hc : s.client? c.id = some c) (hh : c.holding = some h) {h' : Holding}
    (htty : h'.tty = h.tty) (x : ClientId) : (s.setHolding c.id (some h')).tty? x = s.tty? x := by
  rw [tty?_setHolding hc]
  split
  · rename_i hx
    rw [hx, tty?_of_holding hc hh, ← htty]
    rfl
  · rfl

namespace Consistent

/-- The clients in a tty other than the lobby are those that hold it. -/
theorem mem_clientsOf_iff (hs : s.Consistent) (hne : tty ≠ TtyTree.lobby) :
    x ∈ s.tree.clientsOf tty ↔ s.tty? x = some tty := by
  rw [hs.seats.mem_iff, place, tty?, holding?]
  cases hc : s.client? x with
  | none => simp
  | some c =>
    cases hh : c.holding with
    | none => simp [Client.seat_of_none hh, hh, hne.symm]
    | some h => simp [Client.seat_of_holding hh, hh]

/-- Nobody holds the lobby. -/
theorem tty_ne_lobby (hs : s.Consistent) (hx : s.tty? x = some tty) : tty ≠ TtyTree.lobby := by
  obtain ⟨h, hh, rfl⟩ := Option.map_eq_some_iff.1 hx
  obtain ⟨c, hc, hh⟩ := holding?_eq_some_iff.1 hh
  exact (hs.held hc hh).1

/-- A tty that is held is there. -/
theorem live_of_tty? (hs : s.Consistent) (hx : s.tty? x = some tty) : s.tree.live tty :=
  TtyTree.live_of_mem_clientsOf ((hs.mem_clientsOf_iff (hs.tty_ne_lobby hx)).2 hx)

/-! ### What a change does to them -/

/-- Whoever holds a tty after a change held it before, and it has the path that it had, or has been
granted it by its path. -/
theorem tty?_of_change (hs : s.Consistent) (hch : Change s g t) (hx : t.tty? x = some tty) :
    (s.tty? x = some tty ∧ t.tree.path tty = s.tree.path tty ∧ ∀ e ∈ g, e.client ≠ x) ∨
      ∃ path, g = [⟨x, path⟩] ∧ t.tree.path tty = path := by
  have ht := hs.of_change hch
  have hlive := ht.live_of_tty? hx
  have hnone : ∀ e ∈ ([] : List Grant), e.client ≠ x := fun e he => absurd he List.not_mem_nil
  cases hch with
  | quiet | takeRaw | returnRaw | presentHost => exact .inl ⟨hx, rfl, hnone⟩
  | point tty' number =>
    have hpath : (s.tree.adjust tty' (fun _ => some number) fun cs => cs).path tty =
        s.tree.path tty := TtyTree.path_adjust ..
    exact .inl ⟨hx, hpath, hnone⟩
  | spend tree hsame =>
    have hlink : ∀ y, tree.link? y = s.tree.link? y := fun y => by
      simp only [TtyTree.link?, TtyTree.find?, hsame]
    exact .inl ⟨hx, TtyTree.path_eq_of_links hlink tty, hnone⟩
  | arrive peer now =>
    rw [tty?, holding?_of_append rfl hs.client?_next rfl] at hx
    exact .inl ⟨hx, TtyTree.path_seat .., hnone⟩
  | @logIn c hc =>
    rw [tty?, holding?_logIn hc] at hx
    exact .inl ⟨hx, rfl, hnone⟩
  | @settle c path mode tree tty' hc hl hh ho =>
    obtain ⟨-, hopen, -, hpath, hgrown⟩ := ho.sound hs.tree
    have htree : ((tree.detach TtyTree.lobby c.id).seat tty' c.id).path tty = tree.path tty := by
      rw [TtyTree.path_seat, TtyTree.path_detach]
    have hx : (if x = c.id then some tty' else s.tty? x) = some tty :=
      (tty?_setHolding (s := s) hc (some _) x).symm.trans hx
    -- only the client itself gets a new tty; those that were there keep their paths
    by_cases he : x = c.id
    · rw [if_pos he] at hx
      cases hx
      exact .inr ⟨path, by rw [he], htree.trans hpath⟩
    · rw [if_neg he] at hx
      have hx : s.tty? x = some tty := hx
      refine .inl ⟨hx, htree.trans (hgrown.path_eq hs.tree (hs.live_of_tty? hx)), ?_⟩
      intro e hmem
      rw [List.mem_singleton.1 hmem]
      exact fun heq => he heq.symm
  | @leave c h hc hh =>
    have hx : (s.setHolding c.id none).tty? x = some tty := hx
    rw [tty?_setHolding hc] at hx
    split at hx
    · cases hx
    · refine .inl ⟨hx, (TtyTree.path_collect ht.tree hlive).trans ?_, hnone⟩
      rw [TtyTree.path_seat, TtyTree.path_detach]
  | remask mask hc hh => exact .inl ⟨(tty?_rehold hc hh (by rfl) x).symm.trans hx, rfl, hnone⟩
  | blank hc hh => exact .inl ⟨(tty?_rehold hc hh (by rfl) x).symm.trans hx, rfl, hnone⟩
  | draw payload hc hh => exact .inl ⟨(tty?_rehold hc hh (by rfl) x).symm.trans hx, rfl, hnone⟩
  | present a hc hh => exact .inl ⟨(tty?_rehold hc hh (by rfl) x).symm.trans hx, rfl, hnone⟩
  | @depart c hc =>
    rw [tty?, holding?_of_filter rfl] at hx
    split at hx
    · cases hx
    · exact .inl ⟨hx, (TtyTree.path_collect ht.tree hlive).trans (TtyTree.path_detach ..), hnone⟩

/-- A tty other than the lobby loses some of its clients with a change, or it gains the one that has
been granted it. -/
theorem clientsOf_of_change (hs : s.Consistent) (hch : Change s g t) (hne : tty ≠ TtyTree.lobby) :
    ((t.tree.clientsOf tty).Sublist (s.tree.clientsOf tty) ∧
        ∀ e ∈ g, e.client ∉ t.tree.clientsOf tty) ∨
      ∃ c path, g = [⟨c, path⟩] ∧ t.tree.clientsOf tty = s.tree.clientsOf tty ++ [c] ∧
        c ∉ s.tree.clientsOf tty := by
  have hnone : ∀ e ∈ ([] : List Grant), e.client ∉ t.tree.clientsOf tty :=
    fun e he => absurd he List.not_mem_nil
  cases hch with
  | quiet | takeRaw | returnRaw | presentHost | logIn | remask | blank | draw | present =>
    exact .inl ⟨.refl _, hnone⟩
  | point tty' number =>
    refine .inl ⟨?_, hnone⟩
    rw [TtyTree.clientsOf_adjust_focus]
  | spend tree hsame =>
    have hclients : tree.clientsOf tty = s.tree.clientsOf tty := by
      simp only [TtyTree.clientsOf, TtyTree.find?, hsame]
    exact .inl ⟨hclients ▸ .refl _, hnone⟩
  | arrive peer now =>
    refine .inl ⟨?_, hnone⟩
    rw [TtyTree.clientsOf_seat _ _ _ hs.tree.live_lobby, if_neg hne]
  | @settle c path mode tree tty' hc hl hh ho =>
    obtain ⟨-, hopen, -, -, hgrown⟩ := ho.sound hs.tree
    -- a client that holds nothing sits in the lobby alone
    have hout : c.id ∉ s.tree.clientsOf tty := by
      rw [hs.mem_clientsOf_iff hne]
      simp [tty?, holding?, hc, hh]
    have hclients : ((tree.detach TtyTree.lobby c.id).seat tty' c.id).clientsOf tty =
        if tty = tty' then s.tree.clientsOf tty ++ [c.id] else s.tree.clientsOf tty := by
      rw [TtyTree.clientsOf_seat _ _ _ (by simpa using hopen), TtyTree.clientsOf_detach, if_neg hne,
        hgrown.clients]
    by_cases he : tty = tty'
    · exact .inr ⟨c.id, path, rfl, hclients.trans (if_pos he), hout⟩
    · refine .inl ⟨(hclients.trans (if_neg he)) ▸ .refl _, fun e hmem => ?_⟩
      rw [List.mem_singleton.1 hmem]
      exact (hclients.trans (if_neg he)) ▸ hout
  | @leave c h hc hh =>
    refine .inl ⟨?_, hnone⟩
    have hlobby : (s.tree.detach h.tty c.id).live TtyTree.lobby := by
      simpa using hs.tree.live_lobby
    rw [TtyTree.clientsOf_collect, TtyTree.clientsOf_seat _ _ _ hlobby, if_neg hne,
      TtyTree.clientsOf_detach]
    split
    · exact List.filter_sublist
    · exact .refl _
  | @depart c hc =>
    refine .inl ⟨?_, hnone⟩
    rw [TtyTree.clientsOf_collect, TtyTree.clientsOf_detach]
    split
    · exact List.filter_sublist
    · exact .refl _

end Consistent

/-! ### Every state is accounted for -/

/-- The grants account for the ttys that are held and for the order of the clients in them. -/
structure Accounted (s : Server σ) (given : List Grant) : Prop where
  consistent : s.Consistent
  /-- The last grant to a client names the path of its tty. -/
  paths : ∀ {id tty}, s.tty? id = some tty → Grant.lastPath? given id = some (s.tree.path tty)
  /-- Clients in a tty are in the order of their last grants. -/
  order : ∀ {tty}, tty ≠ TtyTree.lobby → (s.tree.clientsOf tty).Pairwise (Grant.Earlier given)

/-- The grants still account for what is held after any change, with those that it brings. -/
theorem Accounted.of_change (hs : s.Accounted given) (hch : Change s g t) :
    t.Accounted (given ++ g) where
  consistent := hs.consistent.of_change hch
  paths := by
    intro x tty hx
    obtain ⟨hold, hpath, hg⟩ | ⟨path, rfl, hpath⟩ := hs.consistent.tty?_of_change hch hx
    · rw [Grant.lastPath?_append_of_ne hg, hs.paths hold, hpath]
    · rw [Grant.lastPath?_concat, hpath]
  order := by
    intro tty hne
    obtain ⟨hsub, hg⟩ | ⟨c, path, rfl, hclients, hout⟩ := hs.consistent.clientsOf_of_change hch hne
    · refine ((hs.order hne).sublist hsub).imp_of_mem fun {a b} ha _ hab => ?_
      exact hab.append fun e he heq => hg e he (heq ▸ ha)
    · rw [hclients]
      refine List.pairwise_append.2 ⟨?_, List.pairwise_singleton _ _, fun a ha b hb => ?_⟩
      · refine (hs.order hne).imp_of_mem fun {a b} ha _ hab => ?_
        refine hab.append fun e he heq => hout ?_
        rw [List.mem_singleton.1 he] at heq
        obtain rfl : c = a := heq
        exact ha
      · obtain rfl := List.mem_singleton.1 hb
        have hlast := hs.paths ((hs.consistent.mem_clientsOf_iff hne).1 ha)
        have hother : b ≠ a := by
          rintro rfl
          exact hout ha
        exact Grant.Earlier.concat hlast hother path

/-- Every reachable state is accounted for by what has been granted. -/
theorem ReachableWith.accounted [Driver σ] (h : s.ReachableWith given) : s.Accounted given := by
  refine h.of_changes (P := Accounted) (fun hs => hs.consistent) ?_
    fun hs hch => hs.of_change hch
  intro settings driver console table
  constructor
  · exact start_consistent settings driver console table
  · intro id tty hx
    cases hx
  · intro tty _
    have hempty : ((start settings driver console).withTable table).tree.clientsOf tty = [] :=
      TtyTree.clientsOf_withLimit settings.maxTtys tty
    rw [hempty]
    exact .nil

end Server

end BrailleShare
