import BrailleShare.Proofs.Server.Disturbances

/-!
# The host's own output

The host shows its own screen where no client is in the way. Its window passes to the device exactly
if nobody has the device to himself and no client on the focus path has content; its status cells
pass unless somebody has the device. A window that passes takes the place of what the device showed,
so that the client that is shown next is written again, although its content may have been written
before; a window that is held back leaves no trace.

That the next client is written again rests on one fact about histories: after the host's window the
server remembers nobody as written last, and it remembers somebody again only after a cycle that
shows a client. Any other event either gives the device no window (`windows_step`), and then nobody
is remembered who was not (`Changes.unshown`), or it is the host's own window again.

Main statements: somebody is shown if and only if a client is entitled to it
(`Accounted.shown_iff_occupied`), and what becomes of the host's output (`host_output_decided`).
-/

namespace BrailleShare.Server

variable {σ : Type} {s t : Server σ} {given g : List Grant} {id : ClientId} {tty : TtyId}
  {cells : Octets}

/-! ### Who is entitled to the display -/

/-- A client has content in a tty. -/
def HasContentIn (s : Server σ) (tty : TtyId) (id : ClientId) : Prop :=
  ∃ h, s.holding? id = some h ∧ h.tty = tty ∧ h.freshness ≠ .empty

/-- On the focus path of the console that the host shows some client has content. -/
def Occupied (s : Server σ) : Prop :=
  ∃ P, s.tree.FocusPath s.console TtyTree.root P ∧ ∃ tty ∈ P, ∃ id, s.HasContentIn tty id

/-- Who qualifies for the display is who has content in the tty. -/
theorem Consistent.qualifies_hasContent_iff (hs : s.Consistent) :
    s.Qualifies (·.hasContent) tty id ↔ s.HasContentIn tty id := by
  constructor
  · rintro ⟨c, hmem, rfl, ⟨h, hh, htty⟩, hcontent⟩
    have hheld : s.holding? c.id = some h := holding?_eq_some_iff.2 ⟨c, hs.client?_of_mem hmem, hh⟩
    refine ⟨h, hheld, htty, ?_⟩
    simpa [Client.hasContent, hh] using hcontent
  · rintro ⟨h, hheld, htty, hfresh⟩
    obtain ⟨c, hc, hh⟩ := holding?_eq_some_iff.1 hheld
    refine ⟨c, List.mem_of_find?_eq_some hc, id_of_client? hc, ⟨h, hh, htty⟩, ?_⟩
    simpa [Client.hasContent, hh] using hfresh

/-- Somebody is shown if and only if a client is entitled to it. -/
theorem Accounted.shown_iff_occupied (hs : s.Accounted given) :
    s.syncConsole.shownClient.isSome = true ↔ s.Occupied := by
  obtain ⟨P, hP, hchosen⟩ := hs.chosen_of_syncConsole
  have hchosen := hchosen (·.hasContent)
  rw [← shownClient] at hchosen
  constructor
  · intro hsome
    cases hr : s.syncConsole.shownClient with
    | none =>
      rw [hr] at hsome
      cases hsome
    | some id =>
      rw [hr] at hchosen
      cases hchosen with
      | client hsplit hq =>
        refine ⟨P, hP, _, ?_, id, hs.consistent.qualifies_hasContent_iff.1 hq⟩
        rw [hsplit]
        exact List.mem_append_right _ List.mem_cons_self
  · rintro ⟨Q, hQ, tty, htty, id, hcontent⟩
    obtain rfl := TtyTree.FocusPath.unique hs.consistent.tree hP hQ
    cases hr : s.syncConsole.shownClient with
    | some => rfl
    | none =>
      rw [hr] at hchosen
      cases hchosen with
      | nobody hnobody =>
        exact absurd (hs.consistent.qualifies_hasContent_iff.2 hcontent) (hnobody tty htty id)

/-! ### Nobody written last -/

/-- What gives the device no window makes nobody the last writer. -/
theorem Change.unshown (h : Change s g t) (hlast : s.lastShown = none) :
    t.lastShown = none ∨ s.windows.length < t.windows.length := by
  cases h with
  | quiet | point | spend | arrive | logIn | settle | remask | blank | draw | takeRaw
  | returnRaw => exact .inl hlast
  | presentHost => exact .inl rfl
  | leave =>
    left
    show (if s.lastShown = _ then none else s.lastShown) = none
    rw [hlast, ite_self]
  | depart =>
    left
    show (if s.lastShown = _ then none else s.lastShown) = none
    rw [hlast, ite_self]
  | present a hc hh =>
    right
    rw [windows_called]
    show s.windows.length < (s.windows ++ [_]).length
    rw [List.length_append]
    exact Nat.lt_succ_self _

/-- Changes take no window back. -/
theorem Changes.windows_le (h : Changes s g t) : s.windows.length ≤ t.windows.length :=
  (h.effects_grow.filterMap Effect.window?).length_le

/-- If nobody was written last and the device was given no window, nobody was written last in the
end. -/
theorem Changes.unshown (h : Changes s g t) (hlast : s.lastShown = none)
    (hwindows : t.windows = s.windows) : t.lastShown = none := by
  have hgrown : t.lastShown = none ∨ s.windows.length < t.windows.length := by
    clear hwindows
    induction h with
    | refl => exact .inl hlast
    | tail h hch ih =>
      rcases ih with hnone | hlt
      · exact (hch.unshown hnone).imp_right (Nat.lt_of_le_of_lt h.windows_le)
      · exact .inr (Nat.lt_of_lt_of_le hlt (Changes.one hch).windows_le)
  rcases hgrown with hnone | hlt
  · exact hnone
  · rw [hwindows] at hlt
    exact absurd hlt (Nat.lt_irrefl _)

/-- A call of the device shows in the calls. -/
theorem calls_ne_append (s : Server σ) (call : DeviceCall) : s.calls ≠ s.calls ++ [call] := by
  intro heq
  have hlength := congrArg List.length heq
  rw [List.length_append, List.length_singleton] at hlength
  omega

section driver

/-- What passes without any client being told gives the device no window. -/
theorem Unaware.windows_of_all (h : ∀ id, Unaware id s t) : t.windows = s.windows :=
  (h ⟨0⟩).windows

variable [Driver σ]

/-- A cycle in which nobody is shown: a client has the device to itself, or none is entitled to the
display. -/
def ShowsNobody (s : Server σ) : Prop :=
  s.rawHolder.isSome = true ∨ s.displayOwner.1 = none

/-- A history in which no cycle shows anybody. -/
def NobodyShown (s : Server σ) : List (Event σ) → Prop
  | [] => True
  | e :: events => (e = .cycle → s.ShowsNobody) ∧ (s.step e).NobodyShown events

/-- A cycle that shows nobody gives the device no window. -/
theorem windows_cycle (h : s.ShowsNobody) : s.cycle.2.windows = s.windows := by
  rcases h with hraw | hnobody
  · exact Unaware.windows_of_all fun _ => cycle_unaware hraw
  · cases hraw : s.rawHolder with
    | some owner =>
      have hheld : s.rawHolder.isSome = true := by rw [hraw]; rfl
      exact Unaware.windows_of_all fun _ => cycle_unaware hheld
    | none =>
      have hupdate : s.syncConsole.updateDisplay = (.ok (), s.syncConsole) := by
        have hnone : s.syncConsole.shownClient = none := hnobody
        rw [updateDisplay, hnone]
      rw [(cycle_keeps hraw).2, hupdate]
      exact (syncConsole_keeps s).1

/-- A server that closes gives the device no window. -/
theorem windows_shutdown (hs : s.Consistent) : s.shutdown.windows = s.windows := by
  cases hraw : s.rawHolder with
  | none => exact (shutdown_offstage hraw).windows
  | some owner =>
    obtain ⟨c, hc, rfl⟩ := client?_of_rawHolder hs hraw
    exact (shutdown_dealing hc hraw).windows rfl

/-- No event gives the device a window but a cycle that shows somebody and the host's own window. -/
theorem windows_step (hs : s.Consistent) {e : Event σ} (hcycle : e = .cycle → s.ShowsNobody)
    (hhost : ∀ cells, e ≠ .hostWindow cells) : (s.step e).windows = s.windows := by
  cases e with
  | arrival peer now => exact (accept_offstage s peer now).windows
  | frame x f => exact onFrame_windows hs x f
  | departure x => exact disconnect_windows hs x
  | clock now => exact (maintain_offstage hs now).windows
  | expiry now => exact (expire_offstage hs now).windows
  | closing => exact windows_shutdown hs
  | console number => rfl
  | ownerAsked => exact (syncConsole_offstage s).windows
  | recipientAsked command keycode => exact (syncConsole_offstage s).windows
  | cycle => exact windows_cycle (hcycle rfl)
  | hostWindow cells => exact absurd rfl (hhost cells)
  | hostStatus cells => exact Unaware.windows_of_all fun _ => hostStatus_unaware s cells
  | hostReset => exact Unaware.windows_of_all fun _ => .called s .reset _ rfl
  | replacement driver => exact Unaware.windows_of_all fun _ => changeDriver_unaware s driver
  | device driver => rfl

/-- The host's own window makes nobody the one that was written last. -/
theorem lastShown_hostWindow (hlast : s.lastShown = none) (cells : Octets) :
    (s.hostWindow cells).2.lastShown = none := by
  unfold hostWindow
  split
  · exact hlast
  · dsimp only
    split
    · exact (syncConsole_keeps s).2.1.trans hlast
    · rfl

/-- As long as no cycle shows anybody, nobody becomes the last writer. -/
theorem lastShown_run (hs : s.Consistent) (hlast : s.lastShown = none) {events : List (Event σ)}
    (h : s.NobodyShown events) : (s.run events).lastShown = none := by
  induction events generalizing s with
  | nil => exact hlast
  | cons e events ih =>
    obtain ⟨hcycle, hrest⟩ := h
    refine ih (hs.step e) ?_ hrest
    by_cases hhost : ∃ cells, e = .hostWindow cells
    · obtain ⟨cells, rfl⟩ := hhost
      exact lastShown_hostWindow hlast cells
    · have hwindows := windows_step hs hcycle fun cells he => hhost ⟨cells, he⟩
      exact (step_changes hs e).unshown hlast hwindows

/-- If nobody was written last, a cycle writes the window of the client that owns the display,
whatever has been written of it before. -/
theorem windows_cycle_of_unshown (hlast : s.lastShown = none) (hfree : s.rawHolder = none)
    (howner : s.displayOwner.1 = some id) : ∃ held, s.holding? id = some held ∧
      s.cycle.2.windows = s.windows ++ [held.window.render s.table] := by
  obtain ⟨hwindows, hkept, htable⟩ := syncConsole_keeps s
  obtain ⟨held, hheld, -⟩ := hasContent_of_shownClient howner
  have hdue : s.syncConsole.lastShown ≠ some id ∨ held.freshness = .pending := by
    left
    rw [hkept, hlast]
    exact nofun
  have hupdate := (updateDisplay_of_shownClient howner hheld).2
  rw [if_pos hdue, hwindows, htable] at hupdate
  refine ⟨held, ?_, ?_⟩
  · rwa [holding?, client?_congr (syncConsole_clients s)] at hheld
  · rw [(cycle_keeps hfree).2, hupdate]

/-! ### What becomes of the host's output -/

/-- The host's window passes: the driver is called once, for these cells, and the host gets its
answer. The next cycle that shows a client writes this client's window, whether or not it was
written before. -/
structure HostPasses (s : Server σ) (cells : Octets) : Prop where
  calls : (s.hostWindow cells).2.calls = s.calls ++ [.writeWindow cells]
  answer : (s.hostWindow cells).1 = (Driver.writeWindow s.driver cells).outcome
  driver : (s.hostWindow cells).2.driver = (Driver.writeWindow s.driver cells).driver
  rewrites : ∀ events, (s.hostWindow cells).2.NobodyShown events →
    ((s.hostWindow cells).2.run events).rawHolder = none →
    ∀ id, ((s.hostWindow cells).2.run events).displayOwner.1 = some id →
      ∃ held, ((s.hostWindow cells).2.run events).holding? id = some held ∧
        ((s.hostWindow cells).2.run events).cycle.2.windows =
          ((s.hostWindow cells).2.run events).windows ++
            [held.window.render ((s.hostWindow cells).2.run events).table]

/-- The host's window is held back: all is well as far as the host can tell, the driver is not
called, and nothing changes for the clients and for who was written last. -/
structure HostHeldBack (s : Server σ) (cells : Octets) : Prop where
  answer : (s.hostWindow cells).1 = .ok ()
  calls : (s.hostWindow cells).2.calls = s.calls
  driver : (s.hostWindow cells).2.driver = s.driver
  clients : (s.hostWindow cells).2.clients = s.clients
  seats : ∀ tty, (s.hostWindow cells).2.tree.clientsOf tty = s.tree.clientsOf tty
  lastShown : (s.hostWindow cells).2.lastShown = s.lastShown
  rawHolder : (s.hostWindow cells).2.rawHolder = s.rawHolder
  packets : (s.hostWindow cells).2.packets = s.packets

/-- The host's window passes if nobody has the device and nobody is to be shown. -/
theorem hostPasses (hs : s.Consistent) (hfree : s.rawHolder = none)
    (hnobody : s.syncConsole.shownClient = none) (cells : Octets) : s.HostPasses cells := by
  have hoff := syncConsole_offstage s
  have hpasses : s.hostWindow cells = ((Driver.writeWindow s.driver cells).outcome,
      ({ s.syncConsole with lastShown := none } : Server σ).called (.writeWindow cells)
        (Driver.writeWindow s.driver cells)) := by
    rw [hostWindow, hfree]
    simp only [Option.isSome_none, Bool.false_eq_true, if_false, hnobody, writeWindow, hoff.driver]
  constructor
  · rw [hpasses, calls_called]
    exact congrArg (· ++ [.writeWindow cells]) hoff.calls
  · rw [hpasses]
  · rw [hpasses]
    rfl
  · intro events hevents hfree id howner
    have hlast : (s.hostWindow cells).2.lastShown = none := by
      rw [hpasses]
      rfl
    have hconsistent : (s.hostWindow cells).2.Consistent := hs.step (.hostWindow cells)
    exact windows_cycle_of_unshown (lastShown_run hconsistent hlast hevents) hfree howner

/-- The host's window is held back if somebody has the device or is to be shown. -/
theorem hostHeldBack (h : s.rawHolder.isSome = true ∨ s.syncConsole.shownClient.isSome = true)
    (cells : Octets) : s.HostHeldBack cells := by
  cases hraw : s.rawHolder with
  | some owner =>
    have hheld : s.hostWindow cells = (.ok (), s) := by
      rw [hostWindow, hraw]
      rfl
    constructor <;> rw [hheld]
    exact fun _ => rfl
  | none =>
    have hshown : s.syncConsole.shownClient.isSome = true := by
      rw [hraw] at h
      exact h.resolve_left Bool.false_ne_true
    have hheld : s.hostWindow cells = (.ok (), s.syncConsole) := by
      simp only [hostWindow, hraw, Option.isSome_none, Bool.false_eq_true, if_false, hshown,
        if_true]
    have hoff := syncConsole_offstage s
    constructor
    · rw [hheld]
    · rw [hheld, hoff.calls]
    · rw [hheld, hoff.driver]
    · rw [hheld, syncConsole_clients]
    · rw [hheld]
      exact clientsOf_syncConsole s
    · rw [hheld, (syncConsole_keeps s).2.1]
    · rw [hheld, hoff.rawHolder]
    · rw [hheld]
      unfold syncConsole
      split
      · rfl
      · exact packets_note s _

/-- The host's status cells are held back while somebody has the device. -/
theorem hostStatus_of_held (hheld : s.rawHolder ≠ none) (cells : Octets) :
    s.hostStatus cells = (.ok (), s) :=
  if_pos (Option.isSome_iff_ne_none.2 hheld)

/-- The host's status cells pass to the driver while nobody has the device. -/
theorem hostStatus_of_free (hfree : s.rawHolder = none) (cells : Octets) :
    s.hostStatus cells = ((Driver.writeStatus s.driver cells).outcome,
      s.called (.writeStatus cells) (Driver.writeStatus s.driver cells)) := by
  rw [hostStatus, hfree]
  rfl

/-- What the host's output comes to: its window reaches the device if and only if nobody has the
device to himself and no client is entitled to the display, its status cells if and only if nobody
has the device to himself. What reaches the device leaves its mark on the driver, which becomes what
the call makes of it. -/
structure HostOutput (s : Server σ) : Prop where
  window : ∀ cells, (s.hostWindow cells).2.calls = s.calls ++ [.writeWindow cells] ↔
    s.rawHolder = none ∧ ¬ s.Occupied
  passes : ∀ cells, s.rawHolder = none → ¬ s.Occupied → s.HostPasses cells
  heldBack : ∀ cells, s.rawHolder ≠ none ∨ s.Occupied → s.HostHeldBack cells
  status : ∀ cells, (s.hostStatus cells).2.calls = s.calls ++ [.writeStatus cells] ↔
    s.rawHolder = none
  statusPasses : ∀ cells, s.rawHolder = none →
    (s.hostStatus cells).1 = (Driver.writeStatus s.driver cells).outcome ∧
      (s.hostStatus cells).2.driver = (Driver.writeStatus s.driver cells).driver
  statusHeldBack : ∀ cells, s.rawHolder ≠ none → s.hostStatus cells = (.ok (), s)

/-- In every reachable state the host's output passes where no client is in the way, and only
there. -/
theorem host_output_decided (h : s.Reachable) : s.HostOutput := by
  obtain ⟨given, h⟩ := h
  have hacc := h.accounted
  have hoccupied := hacc.shown_iff_occupied
  have hpasses : ∀ cells, s.rawHolder = none → ¬ s.Occupied → s.HostPasses cells := by
    intro cells hfree hnobody
    have hnone : s.syncConsole.shownClient = none := by
      rwa [← hoccupied, Option.not_isSome_iff_eq_none] at hnobody
    exact hostPasses hacc.consistent hfree hnone cells
  have hheldBack : ∀ cells, s.rawHolder ≠ none ∨ s.Occupied → s.HostHeldBack cells := by
    intro cells hheld
    apply hostHeldBack
    rw [hoccupied]
    exact hheld.imp_left Option.isSome_iff_ne_none.2
  constructor
  case window =>
    intro cells
    constructor
    · intro hcalls
      by_contra hnot
      have hheld : s.rawHolder ≠ none ∨ s.Occupied := by
        rcases not_and_or.1 hnot with hheld | hheld
        · exact .inl hheld
        · exact .inr (not_not.1 hheld)
      exact s.calls_ne_append _ ((hheldBack cells hheld).calls.symm.trans hcalls)
    · rintro ⟨hfree, hnobody⟩
      exact (hpasses cells hfree hnobody).calls
  case passes => exact hpasses
  case heldBack => exact hheldBack
  case status =>
    intro cells
    constructor
    · intro hcalls
      by_contra hheld
      rw [hostStatus_of_held hheld cells] at hcalls
      exact s.calls_ne_append _ hcalls
    · intro hfree
      rw [hostStatus_of_free hfree cells, calls_called]
  case statusPasses =>
    intro cells hfree
    rw [hostStatus_of_free hfree cells]
    exact ⟨rfl, rfl⟩
  case statusHeldBack => exact fun cells hheld => hostStatus_of_held hheld cells

end driver

/-- The second client's window has been written, and the host shows a console without clients. -/
def elsewhere : Server BareDriver :=
  rehearsed.run [.cycle, .console 9]

/-- The host has shown a window of its own there, and shows the third console again. -/
def returned : Server BareDriver :=
  (elsewhere.hostWindow [1, 2]).2.run [.console 3]

/-- The second client's window is written once more although it was written before. -/
theorem host_output_decided_elsewhere :
    rehearsed.Reachable ∧ rehearsed.Occupied ∧ rehearsed.HostHeldBack [1, 2] ∧
    elsewhere.Reachable ∧ elsewhere.HostPasses [1, 2] ∧
    ∃ held, returned.holding? ⟨2⟩ = some held ∧ held.freshness = .displayed ∧
      returned.cycle.2.windows = [[0xC0, 0], [1, 2]] ++ [held.window.render returned.table] := by
  have hrehearsed : rehearsed.Reachable := ⟨_, rehearsed_reachable⟩
  have hwith := (rehearsed_reachable.step .cycle).step (.console 9)
  have hreach : elsewhere.Reachable := ⟨_, hwith⟩
  have hoccupied : rehearsed.Occupied := by
    rw [← rehearsed_reachable.accounted.shown_iff_occupied]
    decide +kernel
  have hfree : ¬ elsewhere.Occupied := by
    rw [elsewhere, run_cons, run_cons, run_nil, ← hwith.accounted.shown_iff_occupied]
    decide +kernel
  have hpasses := (host_output_decided hreach).passes [1, 2] (by decide +kernel) hfree
  obtain ⟨held, hheld, hwindows⟩ := hpasses.rewrites [.console 3] ⟨nofun, trivial⟩
    (by decide +kernel) ⟨2⟩ (by decide +kernel)
  refine ⟨hrehearsed, hoccupied, ?_, hreach, hpasses, held, hheld, ?_, ?_⟩
  · exact (host_output_decided hrehearsed).heldBack [1, 2] (.inr hoccupied)
  · have hfresh : (returned.holding? ⟨2⟩).map (·.freshness) = some .displayed := by decide +kernel
    rw [returned, hheld] at hfresh
    exact Option.some.inj hfresh
  · have hbefore : returned.windows = [[0xC0, 0], [1, 2]] := by decide +kernel
    rw [← hbefore]
    exact hwindows

end BrailleShare.Server
