import BrailleShare.Proofs.Server.Device
import BrailleShare.Proofs.Server.Login
import BrailleShare.Proofs.Server.Screen

/-!
# Windows that the driver refuses

A window counts as displayed from the moment that the driver is asked to show it, whatever the
driver answers. If it refuses, the cycle fails, but the server has nothing to tell it later that the
device does not show the window; and so it is not written again for as long as the client leaves it
as it is and keeps the display.

Main statements: once the owner of the display counts as shown, nothing that the host or the device
does has its window written (`AtRest.unshown`, `AtRest.run`); and a cycle in which the driver
refuses the owner's window leads to just this state (`refused_window_is_lost`).
-/

namespace BrailleShare

/-- An event that is the host's or the device's alone. -/
def Event.isBackstage {σ : Type} : Event σ → Bool
  | .ownerAsked | .recipientAsked _ _ | .cycle | .hostWindow _ | .hostStatus _ | .hostReset
  | .replacement _ | .device _ => true
  | .arrival _ _ | .frame _ _ | .departure _ | .clock _ | .expiry _ | .closing | .console _ => false

namespace Server

variable {σ : Type} {s t u : Server σ} {id : ClientId} {held : Holding} {e : DriverError}

/-! ### Nothing shown -/

/-- From the first state to the second nothing has changed but the driver and the effects, and the
device has been given no window. -/
structure Unshown (s t : Server σ) : Prop where
  same : t = { s with driver := t.driver, effects := t.effects }
  windows : t.windows = s.windows

namespace Unshown

/-- Nothing is shown where nothing happens. -/
theorem refl (s : Server σ) : Unshown s s :=
  ⟨rfl, rfl⟩

/-- Nothing is shown in two steps if nothing is shown in either. -/
theorem trans (h : Unshown s t) (h' : Unshown t u) : Unshown s u := by
  refine ⟨?_, h'.windows.trans h.windows⟩
  rw [h'.same, h.same]

/-- A line in the log shows nothing. -/
theorem note (s : Server σ) (n : Notice) : Unshown s (s.note n) :=
  ⟨rfl, windows_note s n⟩

/-- A packet that is queued shows nothing. -/
theorem send (s : Server σ) (id : ClientId) (p : Packet) : Unshown s (s.send id p) :=
  ⟨rfl, windows_send s id p⟩

/-- A call that gives no window shows nothing. -/
theorem called {α : Type} (s : Server σ) (call : DeviceCall) (a : DriverAnswer σ α)
    (hcall : (Effect.driver call).window? = none) : Unshown s (s.called call a) := by
  refine ⟨rfl, ?_⟩
  rw [windows_called, hcall]
  exact List.append_nil _

end Unshown

/-- Delivering a key shows nothing. -/
theorem deliver_unshown (s : Server σ) (k : KeyEvent) : Unshown s (s.deliver k).2 := by
  unfold deliver
  split
  · exact .refl s
  · split
    · exact .refl s
    · split
      · exact .refl s
      · exact (Unshown.note s _).trans (.send _ _ _)

section driver

variable [Driver σ]

/-- Reading an event shows nothing. -/
theorem readEvent_unshown (s : Server σ) : Unshown s s.readEvent.2 := by
  unfold readEvent
  split
  · exact .called s .readKey _ rfl
  · exact .called s .readCommand _ rfl

/-- Reading an event and delivering it shows nothing. -/
theorem nextCommand_unshown (s : Server σ) : Unshown s s.nextCommand.2 := by
  have hread := readEvent_unshown s
  unfold nextCommand
  rcases heq : s.readEvent with ⟨e | (_ | k), t⟩ <;> rw [heq] at hread
  · exact hread
  · exact hread
  · exact hread.trans (deliver_unshown t k)

/-! ### An owner that counts as shown -/

omit [Driver σ] in
/-- A client has content if it holds a tty and has not been cleared. -/
theorem any_hasContent (s : Server σ) (id : ClientId) :
    (s.client? id).any (·.hasContent) = (s.holding? id).any (·.freshness != .empty) := by
  cases hc : s.client? id with
  | none => simp [holding?, hc]
  | some c => cases hh : c.holding <;> simp [holding?, hc, hh, Client.hasContent]

omit [Driver σ] in
/-- Who is shown depends on the ttys, on the console and on who has content. -/
theorem shownClient_congr (htree : t.tree = s.tree) (hconsole : t.console = s.console)
    (hcontent : ∀ x, (t.holding? x).any (·.freshness != .empty) =
      (s.holding? x).any (·.freshness != .empty)) : t.shownClient = s.shownClient := by
  have hfirst : t.firstWhere (·.hasContent) = s.firstWhere (·.hasContent) := by
    funext ids
    simp only [firstWhere, any_hasContent, hcontent]
  rw [shownClient, shownClient, htree, hconsole, hfirst]

/-- Nobody has the device, and as far as the server knows it shows the window of this client, who
owns the display. -/
structure AtRest (s : Server σ) (id : ClientId) : Prop where
  free : s.rawHolder = none
  /-- The console that the host shows has focus. -/
  focus : s.tree.focusOf TtyTree.root = some s.console
  owner : s.shownClient = some id
  last : s.lastShown = some id
  displayed : ∃ held, s.holding? id = some held ∧ held.freshness = .displayed

namespace AtRest

omit [Driver σ] in
/-- A server stays at rest while nothing else changes. -/
theorem of_unshown (h : s.AtRest id) (hst : Unshown s t) : t.AtRest id := by
  rw [hst.same]
  exact ⟨h.free, h.focus, h.owner, h.last, h.displayed⟩

omit [Driver σ] in
/-- At rest the tree follows the console already. -/
theorem syncConsole_eq (h : s.AtRest id) : s.syncConsole = s :=
  if_pos h.focus

/-- At rest the display needs nothing. -/
theorem updateDisplay_eq (h : s.AtRest id) : s.updateDisplay = (.ok (), s) := by
  obtain ⟨held, hheld, hfresh⟩ := h.displayed
  have hshown : s.showWindow id held = (.ok (), s) :=
    showWindow_of_shown h.last (by rw [hfresh]; decide)
  simp [updateDisplay, h.owner, hheld, hshown]

/-- A cycle has no more to do than to read an event. -/
theorem cycle_eq (h : s.AtRest id) : s.cycle = s.nextCommand := by
  simp [cycle, h.syncConsole_eq, h.free, h.updateDisplay_eq]

/-- Whatever the host or the device does, the owner's window is not written. -/
theorem unshown (h : s.AtRest id) {e : Event σ} (he : e.isBackstage = true) :
    Unshown s (s.step e) := by
  cases e with
  | ownerAsked =>
    simp only [Server.step, displayOwner, h.syncConsole_eq]
    exact .refl s
  | recipientAsked command keycode =>
    simp only [Server.step, keyRecipient, h.syncConsole_eq]
    exact .refl s
  | cycle =>
    simp only [Server.step, h.cycle_eq]
    exact nextCommand_unshown s
  | hostWindow cells =>
    -- the host's own window is held back while a client is shown
    have hheld : s.hostWindow cells = (.ok (), s) := by
      simp [hostWindow, h.free, h.syncConsole_eq, h.owner]
    rw [Server.step, hheld]
    exact .refl s
  | hostStatus cells =>
    simp only [Server.step, hostStatus, h.free, Option.isSome_none, Bool.false_eq_true, if_false]
    exact .called s _ _ rfl
  | hostReset => exact .called s .reset _ rfl
  | replacement driver =>
    simp only [Server.step, changeDriver]
    split
    · exact .refl s
    · exact (show Unshown s { s with driver } from ⟨rfl, rfl⟩).trans (.note _ _)
  | device driver => exact ⟨rfl, rfl⟩
  | arrival | frame | departure | clock | expiry | closing | console => cases he

/-- The host and the device leave a server at rest. -/
theorem step (h : s.AtRest id) {e : Event σ} (he : e.isBackstage = true) : (s.step e).AtRest id :=
  h.of_unshown (h.unshown he)

/-- However long that goes on, the owner's window is not written. -/
theorem run (h : s.AtRest id) {events : List (Event σ)}
    (he : ∀ e ∈ events, e.isBackstage = true) :
    (s.run events).AtRest id ∧ (s.run events).windows = s.windows := by
  induction events generalizing s with
  | nil => exact ⟨h, rfl⟩
  | cons e events ih =>
    have hfirst := he e List.mem_cons_self
    have hrest := ih (h.step hfirst) fun e hmem => he e (List.mem_cons_of_mem _ hmem)
    exact ⟨hrest.1, hrest.2.trans (h.unshown hfirst).windows⟩

end AtRest

/-! ### A window that is refused -/

/-- The owner's window is due, and the driver refuses it. -/
structure WindowRefused (s : Server σ) (id : ClientId) (held : Holding) (e : DriverError) :
    Prop where
  free : s.rawHolder = none
  owner : s.displayOwner.1 = some id
  holds : s.holding? id = some held
  due : s.lastShown ≠ some id ∨ held.freshness = .pending
  refused : (Driver.writeWindow s.driver (held.window.render s.table)).outcome = .error e

/-- The state to which a cycle leads that fails to write a window. -/
def afterRefusal (s : Server σ) (id : ClientId) (held : Holding) : Server σ :=
  let t := if s.lastShown = some id then s.syncConsole else s.syncConsole.note (.ownerChanged id)
  called { t.setHolding id (some { held with freshness := .displayed }) with lastShown := some id }
    (.writeWindow (held.window.render s.table))
    (Driver.writeWindow s.driver (held.window.render s.table))

namespace WindowRefused

/-- The owner of the display is to be shown. -/
theorem shown (h : s.WindowRefused id held e) : s.syncConsole.shownClient = some id :=
  h.owner

/-- It still holds what it held after the tree has followed the console. -/
theorem held_syncConsole (h : s.WindowRefused id held e) :
    s.syncConsole.holding? id = some held := by
  rw [holding?, client?_congr (syncConsole_clients s)]
  exact h.holds

/-- Nobody has the device then either. -/
theorem free_syncConsole (h : s.WindowRefused id held e) : s.syncConsole.rawHolder = none :=
  (syncConsole_offstage s).rawHolder.trans h.free

/-- The cycle fails with the driver's error, and leads to the state after a refusal. -/
theorem cycle_eq (h : s.WindowRefused id held e) :
    s.cycle = (.error e, s.afterRefusal id held) := by
  obtain ⟨-, hlast, htable⟩ := syncConsole_keeps s
  have hshow : s.syncConsole.updateDisplay = s.syncConsole.showWindow id held := by
    simp [updateDisplay, h.shown, h.held_syncConsole]
  have hdue : s.syncConsole.lastShown ≠ some id ∨ held.freshness = .pending := hlast ▸ h.due
  rw [showWindow_of_stale hdue, htable, hlast, (syncConsole_offstage s).driver] at hshow
  simp only [h.refused] at hshow
  simp only [cycle, h.free_syncConsole, hshow]
  rfl

/-- The driver was given the window once. -/
theorem windows (h : s.WindowRefused id held e) :
    (s.afterRefusal id held).windows = s.windows ++ [held.window.render s.table] := by
  obtain ⟨hwindows, hlast, htable⟩ := syncConsole_keeps s
  have hcycle := (cycle_keeps h.free).2
  have hupdate := (updateDisplay_of_shownClient h.shown h.held_syncConsole).2
  rw [h.cycle_eq, hupdate, hwindows, hlast, htable, if_pos h.due] at hcycle
  exact hcycle

/-- Of what clients hold nothing has changed but that the window counts as displayed. -/
theorem holding?_afterRefusal (h : s.WindowRefused id held e) (x : ClientId) :
    (s.afterRefusal id held).holding? x =
      if x = id then some { held with freshness := .displayed }
      else s.syncConsole.holding? x := by
  obtain ⟨c, hc, -⟩ := holding?_eq_some_iff.1 h.held_syncConsole
  obtain rfl := id_of_client? hc
  rw [← holding?_setHolding hc, afterRefusal]
  split <;> rfl

/-- Who is shown was to be shown before. -/
theorem shownClient_afterRefusal (h : s.WindowRefused id held e) :
    (s.afterRefusal id held).shownClient = some id := by
  obtain ⟨held', hheld, hcontent⟩ := hasContent_of_shownClient h.shown
  obtain rfl : held = held' := Option.some.inj (h.held_syncConsole.symm.trans hheld)
  rw [← h.shown]
  refine shownClient_congr ?_ ?_ fun x => ?_
  · rw [afterRefusal]
    split <;> rfl
  · rw [afterRefusal]
    split <;> rfl
  · rw [h.holding?_afterRefusal]
    split
    · rename_i hx
      rw [hx, h.held_syncConsole, Option.any_some, Option.any_some, bne_iff_ne.2 hcontent]
      rfl
    · rfl

/-- After the refusal the client counts as shown. -/
theorem atRest (h : s.WindowRefused id held e) (hs : s.Consistent) :
    (s.afterRefusal id held).AtRest id := by
  have hfocus := focusOf_root_syncConsole hs
  rw [← syncConsole_console s] at hfocus
  refine ⟨?_, ?_, h.shownClient_afterRefusal, rfl, ?_⟩
  · rw [← h.free_syncConsole, afterRefusal]
    split <;> rfl
  · rw [afterRefusal]
    split <;> exact hfocus
  · exact ⟨_, by rw [h.holding?_afterRefusal, if_pos rfl], rfl⟩

end WindowRefused

/-! ### Main result -/

/-- What becomes of a window that the driver has refused. -/
structure WindowLost (s : Server σ) (id : ClientId) (held : Holding) (e : DriverError) : Prop where
  /-- The cycle fails. -/
  fails : s.cycle.1 = .error e
  /-- The driver was asked once to show the window. -/
  asked : s.cycle.2.windows = s.windows ++ [held.window.render s.table]
  /-- The window counts as displayed nevertheless, and its client as the one that was written
  last. -/
  counted : s.cycle.2.holding? id = some { held with freshness := .displayed } ∧
    s.cycle.2.lastShown = some id
  /-- The client still owns the display, but its window is not written again, whatever the host and
  the device do. -/
  lost : ∀ events : List (Event σ), (∀ e ∈ events, e.isBackstage = true) →
    (s.cycle.2.run events).displayOwner.1 = some id ∧
      (s.cycle.2.run events).windows = s.cycle.2.windows

/-- If a cycle fails because the driver refuses the window of the client that owns the display, the
window counts as displayed from then on. As long as nobody but the host and the device does anything
no later cycle writes it, even if the driver would take it again or another has replaced it. -/
theorem refused_window_is_lost (h : s.Reachable) (hrefused : s.WindowRefused id held e) :
    s.WindowLost id held e := by
  obtain ⟨given, h⟩ := h
  have hrest := hrefused.atRest h.consistent
  have hcycle := hrefused.cycle_eq
  constructor
  · rw [hcycle]
  · rw [hcycle]
    exact hrefused.windows
  · rw [hcycle]
    exact ⟨(hrefused.holding?_afterRefusal id).trans (if_pos rfl), rfl⟩
  · intro events he
    rw [hcycle]
    obtain ⟨hlater, hwindows⟩ := hrest.run he
    refine ⟨?_, hwindows⟩
    rw [displayOwner, hlater.syncConsole_eq]
    exact hlater.owner

/-- A display of two cells that records what it is given, and that clients may have to
themselves. -/
def recorder : ScriptedDriver :=
  .new ⟨"pm", "Papenmeier", ⟨2, 1⟩, true, true⟩

/-- The same display behind a driver that lets no window through. -/
def jammed : FaultyDriver ScriptedDriver :=
  ⟨recorder, [(.writeWindow, .io "jammed")]⟩

/-- A client comes, takes the tty of the first console and writes the letter a to its first cell. -/
def letterWritten {σ : Type} : List (Event σ) :=
  [.arrival "a" 0,
    .frame ⟨1⟩ (.packet (.login [0x6B])),
    .frame ⟨1⟩ (.packet (.ofKind .getTty (Request.encodeTty ⟨[1], ""⟩))),
    .frame ⟨1⟩ (.packet (.ofKind .write (Octets.ofWords
      [Request.WriteFlag.region ||| Request.WriteFlag.text, 1, 1, 1] ++ [0x61])))]

/-- The host shows the first console, and the letter is due to be shown. -/
def jammedStart : Server (FaultyDriver ScriptedDriver) :=
  ((start ⟨[0x6B], 5, 30, 4096⟩ jammed 1).withTable .plain).run letterWritten

/-- A cycle has failed, and after that the driver lets windows through again. -/
def repaired : Server (FaultyDriver ScriptedDriver) :=
  jammedStart.cycle.2.step (.device (jammed.clearFault .writeWindow))

/-- The letter is due after a history from the start. -/
theorem jammedStart_reachable : jammedStart.Reachable :=
  ⟨_, _, _, _, _, _, rfl, rfl⟩

/-- The letter is refused, and it is lost. -/
theorem refused_window_is_lost_jammedStart : jammedStart.Reachable ∧
    ∃ held, jammedStart.WindowRefused ⟨1⟩ held (.io "jammed") ∧
      jammedStart.WindowLost ⟨1⟩ held (.io "jammed") := by
  have hheld : (jammedStart.holding? ⟨1⟩).isSome = true := by decide +kernel
  obtain ⟨held, hheld⟩ := Option.isSome_iff_exists.1 hheld
  have hrefused : jammedStart.WindowRefused ⟨1⟩ held (.io "jammed") :=
    ⟨by decide +kernel, by decide +kernel, hheld, .inl (by decide +kernel), rfl⟩
  exact ⟨jammedStart_reachable, held, hrefused,
    refused_window_is_lost jammedStart_reachable hrefused⟩

/-- The driver takes every window again, and the next cycle succeeds; but it writes nothing, and the
device has been given no window at all, although the client's counts as displayed. -/
theorem nothing_written_when_repaired :
    jammedStart.Reachable ∧ jammedStart.rawHolder = none ∧
      jammedStart.displayOwner.1 = some ⟨1⟩ ∧ jammedStart.cycle.1 = .error (.io "jammed") ∧
      jammedStart.cycle.2.windows = [[0x61, 0]] ∧
      (∀ cells, (Driver.writeWindow repaired.driver cells).outcome = .ok ()) ∧
      repaired.cycle.1 = .ok none ∧ repaired.cycle.2.windows = repaired.windows ∧
      repaired.cycle.2.driver.inner.windows = [] ∧
      (repaired.cycle.2.holding? ⟨1⟩).map (·.freshness) = some .displayed ∧
      repaired.cycle.2.lastShown = some ⟨1⟩ :=
  ⟨jammedStart_reachable, by decide +kernel, by decide +kernel, by decide +kernel,
    by decide +kernel, fun _ => rfl, by decide +kernel, by decide +kernel, by decide +kernel,
    by decide +kernel, by decide +kernel⟩

end driver

end Server

end BrailleShare
