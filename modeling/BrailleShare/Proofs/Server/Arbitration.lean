import BrailleShare.Proofs.Server.Grants
import BrailleShare.Proofs.Tty.FocusPath

/-!
# Who comes first

The display and each key event go to one client on the focus path: a client further in comes before
the clients around it, and among the clients in one tty the one that was granted it first.

Main statements: looking the console up changes nothing but the focus of the root
(`focusPath_syncConsole`), a search along focus chooses as it should (`Accounted.chosen_of_search`),
and so do the display and the keys in every reachable state (`first_come_prevails`).
-/

namespace BrailleShare.Server

variable {σ : Type} {s : Server σ} {given : List Grant} {test : Client → Bool} {tty : TtyId}
  {id x : ClientId} {P : List TtyId} {a : UInt32}

/-! ### What is chosen -/

/-- A client holds a tty and passes a test. -/
def Qualifies (s : Server σ) (test : Client → Bool) (tty : TtyId) (id : ClientId) : Prop :=
  ∃ c ∈ s.clients, c.id = id ∧ (∃ h, c.holding = some h ∧ h.tty = tty) ∧ test c = true

/-- The right answer to the question which client on a path qualifies. -/
inductive Chosen (given : List Grant) (qualifies : TtyId → ClientId → Prop) (P : List TtyId) :
    Option ClientId → Prop
  /-- No client on the path does. -/
  | nobody (h : ∀ tty ∈ P, ∀ id, ¬ qualifies tty id) : Chosen given qualifies P none
  /-- The client does, in a tty behind which none does, and it was granted this tty before any other
  that does was granted it. -/
  | client {id : ClientId} {before after : List TtyId} {tty : TtyId}
      (hP : P = before ++ tty :: after) (hid : qualifies tty id)
      (hdeepest : ∀ d ∈ after, ∀ x, ¬ qualifies d x)
      (hfirst : ∀ x, qualifies tty x → x ≠ id → Grant.Earlier given id x) :
      Chosen given qualifies P (some id)

/-- Who qualifies in a tty other than the lobby is found among its clients. -/
theorem Consistent.qualifies_iff (hs : s.Consistent) (hne : tty ≠ TtyTree.lobby) :
    s.Qualifies test tty x ↔ x ∈ s.tree.clientsOf tty ∧ (s.client? x).any test = true := by
  rw [hs.mem_clientsOf_iff hne]
  constructor
  · rintro ⟨c, hc, rfl, ⟨h, hh, rfl⟩, htest⟩
    have hc := hs.client?_of_mem hc
    exact ⟨tty?_of_holding hc hh, by simp [hc, htest]⟩
  · rintro ⟨htty, htest⟩
    obtain ⟨h, hh, rfl⟩ := Option.map_eq_some_iff.1 htty
    obtain ⟨c, hc, hh⟩ := holding?_eq_some_iff.1 hh
    refine ⟨c, List.mem_of_find?_eq_some hc, id_of_client? hc, ⟨h, hh, rfl⟩, ?_⟩
    simpa [hc] using htest

/-! ### Searching a tty and a path -/

/-- Nobody is found among some clients if none of them passes the test. -/
theorem firstWhere_eq_none_iff {ids : List ClientId} :
    s.firstWhere test ids = none ↔ ∀ x ∈ ids, (s.client? x).any test = false := by
  simp [firstWhere]

/-- Who is found is known and passes the test. -/
theorem client?_of_firstWhere {ids : List ClientId} (h : s.firstWhere test ids = some id) :
    ∃ c, s.client? id = some c ∧ test c = true := by
  have hany := List.find?_some h
  simpa [Option.any_eq_true] using hany

/-- The first client that passes the test was granted the tty before the others that do. -/
theorem Accounted.earlier_of_firstWhere (hs : s.Accounted given) (hne : tty ≠ TtyTree.lobby)
    (h : s.firstWhere test (s.tree.clientsOf tty) = some id) :
    s.Qualifies test tty id ∧ ∀ x, s.Qualifies test tty x → x ≠ id → Grant.Earlier given id x := by
  obtain ⟨htest, before, after, hclients, hbefore⟩ := List.find?_eq_some_iff_append.1 h
  have hmem : id ∈ s.tree.clientsOf tty := by simp [hclients]
  refine ⟨(hs.consistent.qualifies_iff hne).2 ⟨hmem, htest⟩, fun x hx hxid => ?_⟩
  obtain ⟨hxmem, hxtest⟩ := (hs.consistent.qualifies_iff hne).1 hx
  have horder := hs.order hne
  rw [hclients] at horder hxmem
  rcases List.mem_append.1 hxmem with hxmem | hxmem
  · have hfails := hbefore x hxmem
    simp [hxtest] at hfails
  · have hxafter := (List.mem_cons.1 hxmem).resolve_left hxid
    exact List.rel_of_pairwise_cons (List.pairwise_append.1 horder).2.1 hxafter

/-- A search that asks the ttys of a path from the last to the first chooses as it should. -/
theorem Accounted.chosen_of_search (hs : s.Accounted given) (hP : ∀ n ∈ P, n ≠ TtyTree.lobby) :
    Chosen given (s.Qualifies test) P
      (P.reverse.findSome? fun n => s.firstWhere test (s.tree.clientsOf n)) := by
  have hnobody : ∀ n ∈ P, s.firstWhere test (s.tree.clientsOf n) = none →
      ∀ x, ¬ s.Qualifies test n x := by
    intro n hn hnone x hx
    obtain ⟨hmem, htest⟩ := (hs.consistent.qualifies_iff (hP n hn)).1 hx
    simp [firstWhere_eq_none_iff.1 hnone x hmem] at htest
  cases hr : P.reverse.findSome? fun n => s.firstWhere test (s.tree.clientsOf n) with
  | none =>
    rw [List.findSome?_eq_none_iff] at hr
    exact .nobody fun n hn => hnobody n hn (hr n (List.mem_reverse.2 hn))
  | some id =>
    obtain ⟨after, tty, before, hrev, hid, hafter⟩ := List.findSome?_eq_some_iff.1 hr
    have hsplit : P = before.reverse ++ tty :: after.reverse := by
      rw [← List.reverse_reverse P, hrev]
      simp
    have hne : tty ≠ TtyTree.lobby := hP tty (by simp [hsplit])
    obtain ⟨hq, hfirst⟩ := hs.earlier_of_firstWhere hne hid
    refine .client hsplit hq (fun d hd => ?_) hfirst
    exact hnobody d (by simp [hsplit, List.mem_reverse.1 hd]) (hafter d (List.mem_reverse.1 hd))

/-! ### Looking the console up -/

/-- Following the console leaves the clients as they are. -/
theorem syncConsole_clients (s : Server σ) : s.syncConsole.clients = s.clients := by
  unfold syncConsole
  split <;> rfl

/-- Following the console leaves the console that it follows. -/
theorem syncConsole_console (s : Server σ) : s.syncConsole.console = s.console := by
  unfold syncConsole
  split <;> rfl

/-- Following the console leaves the clients of every tty. -/
theorem clientsOf_syncConsole (s : Server σ) (n : TtyId) :
    s.syncConsole.tree.clientsOf n = s.tree.clientsOf n := by
  unfold syncConsole
  split
  · rfl
  · exact TtyTree.clientsOf_adjust_focus ..

/-- Once the console has been looked up, the root's focus names it. -/
theorem focusOf_root_syncConsole (hs : s.Consistent) :
    s.syncConsole.tree.focusOf TtyTree.root = some s.console := by
  unfold syncConsole
  split
  · assumption
  · rw [TtyTree.focusOf_adjust, if_pos ⟨hs.tree.live_root, rfl⟩]

/-- Looking the console up leaves the focus path as it was. -/
theorem focusPath_syncConsole {n : TtyId} (h : s.syncConsole.tree.FocusPath a n P) :
    s.tree.FocusPath a n P := by
  refine h.congr (fun x => ?_) fun x hx => ?_
  · unfold syncConsole
    split
    · rfl
    · exact TtyTree.link?_adjust ..
  · unfold syncConsole
    split
    · rfl
    · rw [TtyTree.focusOf_adjust, if_neg fun h => hx h.2]

/-- A search along focus once the console has been looked up chooses from the focus path. -/
theorem Accounted.chosen_of_syncConsole (hs : s.Accounted given) :
    ∃ P, s.tree.FocusPath s.console TtyTree.root P ∧ ∀ test, Chosen given (s.Qualifies test) P
      (s.syncConsole.tree.firstAlongFocus s.syncConsole.console
        (s.syncConsole.firstWhere test)) := by
  have hsync := (syncConsole_changes s).invariant Accounted.of_change hs
  have hroot := focusOf_root_syncConsole hs.consistent
  have hwalk := hsync.consistent.tree.focusPath_focusChainFrom hroot TtyTree.root
  have hpath := focusPath_syncConsole hwalk
  refine ⟨_, hpath, fun test => ?_⟩
  have hfirst : s.syncConsole.firstWhere test = s.firstWhere test := by
    funext ids
    simp only [firstWhere, client?_congr (syncConsole_clients s)]
  rw [TtyTree.firstAlongFocus_eq rfl, syncConsole_console, hfirst]
  simp only [clientsOf_syncConsole]
  exact hs.chosen_of_search (hpath.ne_lobby hs.consistent.tree (by decide))

/-- In every reachable state and for every console that the host may show, the display and each key
event go to the client on the focus path that comes first, and to nobody if there is none. -/
theorem first_come_prevails [Driver σ] (h : s.ReachableWith given) (a : UInt32) :
    ∃ P, s.tree.FocusPath a TtyTree.root P ∧
      (∀ Q, s.tree.FocusPath a TtyTree.root Q → Q = P) ∧
      Chosen given (s.Qualifies (·.hasContent)) P (s.switchConsole a).displayOwner.1 ∧
      ∀ command keycode, Chosen given (s.Qualifies (·.accepts command keycode)) P
        ((s.switchConsole a).keyRecipient command keycode).1 := by
  have hs : (s.switchConsole a).Accounted given := by
    have hstep := (h.step (.console a)).accounted
    rwa [show s.grants (.console a) = [] from rfl, List.append_nil] at hstep
  obtain ⟨P, hP, hchosen⟩ := hs.chosen_of_syncConsole
  refine ⟨P, hP, fun Q hQ => ?_, hchosen _, fun command keycode => hchosen _⟩
  exact TtyTree.FocusPath.unique hs.consistent.tree hQ hP

/-- On the third console of the rehearsal the client in the tty below has the display, and the rule
says so. -/
theorem first_come_prevails_rehearsed : rehearsed.ReachableWith rehearsalGrants ∧
    (rehearsed.switchConsole 3).displayOwner.1 = some ⟨2⟩ ∧
    ∃ P, rehearsed.tree.FocusPath 3 TtyTree.root P ∧
      (∀ Q, rehearsed.tree.FocusPath 3 TtyTree.root Q → Q = P) ∧
      Chosen rehearsalGrants (rehearsed.Qualifies (·.hasContent)) P
        (rehearsed.switchConsole 3).displayOwner.1 ∧
      ∀ command keycode, Chosen rehearsalGrants (rehearsed.Qualifies (·.accepts command keycode)) P
        ((rehearsed.switchConsole 3).keyRecipient command keycode).1 :=
  ⟨rehearsed_reachable, by decide +kernel, first_come_prevails rehearsed_reachable 3⟩

end BrailleShare.Server
