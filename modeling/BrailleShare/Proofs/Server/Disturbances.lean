import BrailleShare.Proofs.Server.Isolation
import BrailleShare.Proofs.Server.LostWrites

/-!
# Disturbed devices

All that the server knows of the device is whose window it was given last and whether this window
has changed since. A device can lose the window in other ways: the host puts a freshly started
driver in place of the one that had it, the device is reset because the client that had it to itself
is gone, or such a client has sent it octets of its own. None of this changes what the server knows,
and so the window stays away until its client draws again or another one is shown in between.

Main statements: an event in which the client draws nothing and nobody else is shown tells the
server nothing about the client's window and gives the device none (`unaware_of_spares`); and so,
whatever was done to the device meanwhile, a later cycle has nothing to do for the display
(`disturbed_device_is_not_redrawn`).
-/

namespace BrailleShare

/-- A packet by which a client asks for the device, speaks to it or gives it back. -/
def Packet.isRawTalk (p : Packet) : Bool :=
  p.kind? = some .getRaw || p.kind? = some .packet || p.kind? = some .leaveRaw

/-- The window that a call gives to the device, if it gives one. -/
def DeviceCall.window? : DeviceCall → Option Octets
  | .writeWindow cells => some cells
  | _ => none

/-- A window is told by the call that gives it. -/
theorem Effect.window?_eq (e : Effect) : e.window? = e.call?.bind DeviceCall.window? := by
  cases e with
  | driver call => cases call <;> rfl
  | packet | restart | notice => rfl

namespace Server

variable {σ : Type} {s t u : Server σ} {id x : ClientId} {held : Holding} {c : Client}

/-! ### What the server does not learn -/

/-- The windows that the device was given are told by the calls to the driver. -/
theorem windows_eq_calls (s : Server σ) : s.windows = s.calls.filterMap DeviceCall.window? := by
  simp only [windows, calls, callsIn, List.filterMap_filterMap, Effect.window?_eq]

/-- Without the device no window is given. -/
theorem Offstage.windows (h : Offstage s t) : t.windows = s.windows := by
  rw [windows_eq_calls, windows_eq_calls, h.calls]

/-- If none of the calls gives a window, no window is given. -/
theorem Dealing.windows [Driver σ] {calls : List DeviceCall} {n : Nat} {a : Option ClientId}
    (h : Dealing s t calls n a) (hcalls : calls.filterMap DeviceCall.window? = []) :
    t.windows = s.windows := by
  rw [windows_eq_calls, windows_eq_calls, h.calls, List.filterMap_append, hcalls, List.append_nil]

/-- Between the two states the server has learnt nothing about a client's window, and it has given
the device no window. -/
structure Unaware (id : ClientId) (s t : Server σ) : Prop where
  last : t.lastShown = some id ↔ s.lastShown = some id
  holding : t.holding? id = s.holding? id
  windows : t.windows = s.windows

namespace Unaware

/-- Nothing is learnt where nothing happens. -/
theorem refl (id : ClientId) (s : Server σ) : Unaware id s s :=
  ⟨.rfl, rfl, rfl⟩

/-- Nothing is learnt in two steps if nothing is learnt in either. -/
theorem trans (h : Unaware id s t) (h' : Unaware id t u) : Unaware id s u :=
  ⟨h'.last.trans h.last, h'.holding.trans h.holding, h'.windows.trans h.windows⟩

/-- What concerns neither the records nor the last writer. -/
theorem of_eq (hshown : t.lastShown = s.lastShown) (hclients : t.clients = s.clients)
    (hwindows : t.windows = s.windows) : Unaware id s t := by
  refine ⟨by rw [hshown], ?_, hwindows⟩
  rw [holding?, client?_congr hclients, holding?]

/-- Nothing is learnt from a line in the log. -/
theorem note (s : Server σ) (n : Notice) : Unaware id s (s.note n) :=
  of_eq rfl rfl (windows_note s n)

/-- Nothing is learnt from a packet that is queued. -/
theorem send (s : Server σ) (x : ClientId) (p : Packet) : Unaware id s (s.send x p) :=
  of_eq rfl rfl (windows_send s x p)

/-- A call that gives the device no window. -/
theorem called {α : Type} (s : Server σ) (call : DeviceCall) (a : DriverAnswer σ α)
    (hcall : (Effect.driver call).window? = none) : Unaware id s (s.called call a) := by
  refine of_eq rfl rfl ?_
  rw [windows_called, hcall]
  exact List.append_nil _

/-- Nothing is learnt of who has the device. -/
theorem withRawHolder (s : Server σ) (rawHolder : Option ClientId) :
    Unaware id s { s with rawHolder } :=
  of_eq rfl rfl rfl

/-- What is confined to another connection. -/
theorem of_confined (h : Confined x s t) (hx : id ≠ x) (hwindows : t.windows = s.windows) :
    Unaware id s t := by
  refine ⟨h.lastShown hx, ?_, hwindows⟩
  rw [holding?, h.client?_eq hx, holding?]

end Unaware

/-- Nothing is learnt by following the console. -/
theorem syncConsole_unaware (s : Server σ) : Unaware id s s.syncConsole :=
  .of_eq (syncConsole_keeps s).2.1 (syncConsole_clients s) (syncConsole_keeps s).1

/-- What a client sends that is too long to be read is not looked at. -/
theorem onOversized_unaware (s : Server σ) (x : ClientId) (type : UInt32) (size : Nat) :
    Unaware id s (s.onOversized x type size).2 := by
  unfold onOversized
  split
  · exact .refl id s
  · split
    · exact .note s _
    · exact (Unaware.note s _).trans (.send _ _ _)

/-- Nothing is learnt of one client when another connection comes. -/
theorem accept_unaware (hs : s.Consistent) (peer : String) (now : Nat) :
    Unaware id s (s.accept peer now).2 := by
  unfold accept
  split
  · exact .refl id s
  · split
    · split
      · exact .refl id s
      · exact (Unaware.note s _).trans (.of_eq rfl rfl rfl)
    · -- whoever comes in is another client, and it holds nothing yet
      have harrive : Unaware id s { s with
          nextId := s.nextId + 1
          tree := s.tree.seat TtyTree.lobby ⟨s.nextId⟩
          clients := s.clients ++ [(⟨⟨s.nextId⟩, peer, now, false, none⟩ : Client)]
          waiting := s.waiting + 1 } :=
        ⟨.rfl, holding?_of_append rfl hs.client?_next rfl id, rfl⟩
      exact harrive.trans (.note _ _)

section driver

variable [Driver σ]

/-! ### Requests of the client itself -/

/-- Whoever has the device, asks for it or gives it back does not touch its own window by that. -/
theorem answer_unaware {p : Packet} (hp : p.isRawTalk = true) : Unaware id s (s.answer c p) := by
  have hcarry : Unaware id s (s.carryOut c p).server := by
    simp only [Packet.isRawTalk, Bool.or_eq_true, decide_eq_true_eq] at hp
    rcases hp with (hk | hk) | hk
    · simp only [carryOut, hk, takeRaw]
      split
      · exact .refl id s
      · split
        · exact .refl id s
        · split
          · exact .refl id s
          · split
            · exact .note s _
            · exact ((Unaware.withRawHolder s _).trans (.note _ _)).trans (.send _ _ _)
    · simp only [carryOut, hk, passRaw]
      split
      · split
        · exact .called s _ _ rfl
        · exact (Unaware.called s _ _ rfl).trans (.note _ _)
      · exact .refl id s
    · simp only [carryOut, hk, returnRaw]
      split
      · exact ((Unaware.withRawHolder s _).trans (.note _ _)).trans (.send _ _ _)
      · exact .refl id s
  unfold answer
  dsimp only
  split
  · exact hcarry
  · exact (hcarry.trans (.note _ _)).trans (.send _ _ _)

/-! ### Frames and ends of connections -/

/-- No frame gives the device a window. -/
theorem onFrame_windows (hs : s.Consistent) (x : ClientId) (f : Frame) :
    (s.onFrame x f).2.windows = s.windows := by
  cases f with
  | packet p =>
    simp only [onFrame, onPacket]
    split
    · rfl
    · rename_i c hc
      obtain rfl := id_of_client? hc
      split
      · have hhandled := carryOut_handled hs hc p
        have hpassed : Dealing s (s.called (.writePacket p.payload)
            (Driver.writePacket s.driver p.payload)) [.writePacket p.payload] 0 s.rawHolder :=
          .called s rfl
        rw [(answer_offstage s c p).windows]
        generalize s.carryOut c p = o at hhandled ⊢
        cases hhandled with
        | refused r _ hoff => exact hoff.windows
        | served _ _ hoff => exact hoff.windows
        | tookRaw _ _ _ hoff | returnedRaw _ _ _ hoff => exact hoff.windows
        | passedRaw => exact hpassed.windows rfl
        | failedRaw => exact (hpassed.before (.note _ _)).windows rfl
      · exact (logIn_offstage s c.id p).windows
  | oversized type size =>
    simp only [onFrame, onOversized]
    split
    · rfl
    · split
      · exact windows_note ..
      · exact (turnAway_offstage ..).windows

/-- No end of a connection gives the device a window. -/
theorem disconnect_windows (hs : s.Consistent) (x : ClientId) :
    (s.disconnect x).windows = s.windows := by
  by_cases hraw : s.rawHolder = some x
  · obtain ⟨c, hc, rfl⟩ := client?_of_rawHolder hs hraw
    exact (disconnect_dealing hc hraw).windows rfl
  · exact (disconnect_offstage hraw).windows

/-- A frame of another client, or one that is about the device alone. -/
theorem onFrame_unaware (hs : s.Consistent) (hl : s.isLoggedIn id = true) {f : Frame}
    (hf : x ≠ id ∨ ∀ p, f = .packet p → p.isRawTalk = true) : Unaware id s (s.onFrame x f).2 := by
  by_cases hx : id = x
  · subst hx
    cases f with
    | packet p =>
      have hp : p.isRawTalk = true := (hf.resolve_left (· rfl)) p rfl
      obtain ⟨c, -, -, hstep⟩ := step_frame_of_isLoggedIn hl p
      have hanswer : (s.onFrame id (.packet p)).2 = s.answer c p := hstep
      rw [hanswer]
      exact answer_unaware hp
    | oversized type size => exact onOversized_unaware s id type size
  · exact .of_confined (onFrame_confined hs.tree x f) hx (onFrame_windows hs x f)

/-- Nothing is learnt of one client when another leaves. -/
theorem disconnect_unaware (hs : s.Consistent) (hx : id ≠ x) : Unaware id s (s.disconnect x) :=
  .of_confined (disconnect_confined s x) hx (disconnect_windows hs x)

/-- Nobody who has logged in waits too long. -/
theorem expire_unaware (hs : s.Consistent) (hl : s.isLoggedIn id = true) (now : Nat) :
    Unaware id s (s.expire now).2 := by
  have hlate : ∀ c ∈ s.clients.filter (s.overdue now), id ≠ c.id := by
    rintro c hc rfl
    obtain ⟨hmem, hover⟩ := List.mem_filter.1 hc
    rw [isLoggedIn, hs.client?_of_mem hmem] at hl
    simp only [overdue, Bool.and_eq_true, Bool.not_eq_true'] at hover
    cases hl.symm.trans hover.1
  simp only [expire]
  generalize s.clients.filter (s.overdue now) = late at hlate
  clear hl
  induction late generalizing s with
  | nil => exact .refl id s
  | cons c late ih =>
    have hnoted : (s.note (.overdue c.id)).Consistent := hs.of_changes (.note s _)
    have hgone := (Unaware.note s _).trans (disconnect_unaware hnoted (hlate c List.mem_cons_self))
    refine hgone.trans (ih ?_ fun d hd => hlate d (List.mem_cons_of_mem c hd))
    exact hnoted.of_changes (disconnect_changes _ _)

/-- Nothing is learnt of a client that has logged in by the regular look after the connections. -/
theorem maintain_unaware (hs : s.Consistent) (hl : s.isLoggedIn id = true) (now : Nat) :
    Unaware id s (s.maintain now) := by
  have hexpire := expire_unaware hs hl now
  unfold maintain
  dsimp only
  split
  · exact hexpire.trans (.note _ _)
  · exact hexpire

/-! ### The host -/

/-- While a client has the device, a cycle shows nobody anything. -/
theorem cycle_unaware (h : s.rawHolder.isSome = true) : Unaware id s s.cycle.2 := by
  obtain ⟨owner, howner⟩ := Option.isSome_iff_exists.1 h
  have hraw := (syncConsole_offstage s).rawHolder.trans howner
  simp only [cycle, hraw]
  refine (syncConsole_unaware s).trans ?_
  unfold forwardRaw
  split
  · exact .refl id _
  · have hread : Unaware id s.syncConsole (s.syncConsole.called .readPacket
        (Driver.readPacket s.syncConsole.driver)) := .called _ _ _ rfl
    dsimp only
    split
    · exact hread
    · exact hread.trans (.send _ _ _)
    · exact (hread.trans (.note _ _)).trans (.send _ _ _)

/-- Nothing is learnt from the host's status cells. -/
theorem hostStatus_unaware (s : Server σ) (cells : Octets) :
    Unaware id s (s.hostStatus cells).2 := by
  unfold hostStatus
  split
  · exact .refl id s
  · exact .called s _ _ rfl

/-- Nothing is learnt from another driver. -/
theorem changeDriver_unaware (s : Server σ) (driver : σ) :
    Unaware id s (s.changeDriver driver).2 := by
  unfold changeDriver
  dsimp only
  split
  · exact .refl id s
  · exact (Unaware.of_eq rfl rfl rfl : Unaware id s { s with driver }).trans (.note _ _)

/-! ### Any of these -/

/-- The client draws nothing and keeps its tty in this event, and nobody else is shown. The driver
may be replaced, the device may be reset, and clients may take it and speak to it. -/
def spares (s : Server σ) (id : ClientId) : Event σ → Bool
  | .frame x (.packet p) => x ≠ id || p.isRawTalk
  | .departure x => x ≠ id
  | .closing => false
  | .cycle | .hostWindow _ => s.rawHolder.isSome
  | _ => true

/-- The same of a history. -/
def sparesAll (s : Server σ) (id : ClientId) : List (Event σ) → Bool
  | [] => true
  | e :: events => s.spares id e && (s.step e).sparesAll id events

/-- As far as the server knows the device shows what this client holds. -/
structure CountsAsShown (s : Server σ) (id : ClientId) (held : Holding) : Prop where
  last : s.lastShown = some id
  holds : s.holding? id = some held
  displayed : held.freshness = .displayed

omit [Driver σ] in
/-- A client counts as shown as long as nothing is learnt of it. -/
theorem CountsAsShown.of_unaware (h : s.CountsAsShown id held) (hst : Unaware id s t) :
    t.CountsAsShown id held :=
  ⟨hst.last.2 h.last, hst.holding.trans h.holds, h.displayed⟩

omit [Driver σ] in
/-- Who holds a tty has logged in. -/
theorem isLoggedIn_of_holding? (hs : s.Consistent) (h : s.holding? id = some held) :
    s.isLoggedIn id = true := by
  obtain ⟨c, hc, hheld⟩ := holding?_eq_some_iff.1 h
  rw [isLoggedIn, hc]
  exact (hs.held hc hheld).2

/-- The server learns nothing from such an event. -/
theorem unaware_of_spares (hs : s.Consistent) (hl : s.isLoggedIn id = true) {e : Event σ}
    (he : s.spares id e = true) : Unaware id s (s.step e) := by
  cases e with
  | arrival peer now => exact accept_unaware hs peer now
  | frame x f =>
    refine onFrame_unaware hs hl ?_
    cases f with
    | packet p =>
      simp only [spares, Bool.or_eq_true, decide_eq_true_eq] at he
      exact he.imp_right fun hp q hq => by cases hq; exact hp
    | oversized type size => exact .inr nofun
  | departure x =>
    have hx : x ≠ id := of_decide_eq_true he
    exact disconnect_unaware hs hx.symm
  | clock now => exact maintain_unaware hs hl now
  | expiry now => exact expire_unaware hs hl now
  | closing => cases he
  | console number => exact .of_eq rfl rfl rfl
  | ownerAsked => exact syncConsole_unaware s
  | recipientAsked command keycode => exact syncConsole_unaware s
  | cycle => exact cycle_unaware he
  | hostWindow cells =>
    have hheld : s.rawHolder.isSome = true := he
    simp only [step, hostWindow, hheld, if_true]
    exact .refl id s
  | hostStatus cells => exact hostStatus_unaware s cells
  | hostReset => exact .called s .reset _ rfl
  | replacement driver => exact changeDriver_unaware s driver
  | device driver => exact .of_eq rfl rfl rfl

/-- However long that goes on, the client counts as shown, and the device is given no window. -/
theorem CountsAsShown.run (hs : s.Consistent) (h : s.CountsAsShown id held)
    {events : List (Event σ)} (he : s.sparesAll id events = true) :
    (s.run events).CountsAsShown id held ∧ (s.run events).windows = s.windows := by
  induction events generalizing s with
  | nil => exact ⟨h, rfl⟩
  | cons e events ih =>
    simp only [sparesAll, Bool.and_eq_true] at he
    have hstep := unaware_of_spares hs (isLoggedIn_of_holding? hs h.holds) he.1
    have hrest := ih (hs.step e) (h.of_unaware hstep) he.2
    exact ⟨hrest.1, hrest.2.trans hstep.windows⟩

/-- A cycle has nothing to do for the display if the client that owns it counts as shown. -/
theorem CountsAsShown.cycle_eq (h : s.CountsAsShown id held) (hfree : s.rawHolder = none)
    (howner : s.displayOwner.1 = some id) : s.cycle = s.syncConsole.nextCommand := by
  have hsync := h.of_unaware (syncConsole_unaware s)
  have hraw := (syncConsole_offstage s).rawHolder.trans hfree
  have hshown : s.syncConsole.shownClient = some id := howner
  have hskip : s.syncConsole.showWindow id held = (.ok (), s.syncConsole) :=
    showWindow_of_shown hsync.last (by rw [h.displayed]; decide)
  have hupdate : s.syncConsole.updateDisplay = (.ok (), s.syncConsole) := by
    simp only [updateDisplay, hshown, hsync.holds, hskip]
  simp only [cycle, hraw, hupdate]

/-! ### Main result -/

/-- What becomes of a client's window when the device is disturbed. -/
structure NotRedrawn (s : Server σ) (id : ClientId) (held : Holding) (events : List (Event σ)) :
    Prop where
  /-- The client counts as shown, with the window that it had. -/
  counted : (s.run events).CountsAsShown id held
  /-- No window has been given to the device, nor to one that has taken its place. -/
  windows : (s.run events).windows = s.windows
  /-- If then nobody has the device and the client owns the display, a cycle does no more than read
  an event, -/
  idle : (s.run events).rawHolder = none → (s.run events).displayOwner.1 = some id →
    (s.run events).cycle = (s.run events).syncConsole.nextCommand
  /-- and so it gives the device no window either. -/
  blank : (s.run events).rawHolder = none → (s.run events).displayOwner.1 = some id →
    (s.run events).cycle.2.windows = s.windows

/-- A client whose window was written last and has not changed since is not written again, whatever
is done to the device behind its window: the host may replace the driver, the client that has the
device may send it octets of its own and give it back, or leave, so that the device is reset. -/
theorem disturbed_device_is_not_redrawn (h : s.Reachable) (hshown : s.CountsAsShown id held)
    {events : List (Event σ)} (he : s.sparesAll id events = true) :
    s.NotRedrawn id held events := by
  obtain ⟨given, h⟩ := h
  obtain ⟨hcounted, hwindows⟩ := hshown.run h.consistent he
  constructor
  · exact hcounted
  · exact hwindows
  · exact hcounted.cycle_eq
  · intro hfree howner
    rw [hcounted.cycle_eq hfree howner, (nextCommand_unshown _).windows,
      (syncConsole_keeps _).1, hwindows]

/-- A client has a letter on the display. -/
def litStart : Server ScriptedDriver :=
  ((start ⟨[0x6B], 5, 30, 4096⟩ recorder 1).withTable .plain).run (letterWritten ++ [.cycle])

/-- Another client comes and logs in. -/
def newcomer (id : ClientId) : List (Event ScriptedDriver) :=
  [.arrival "b" 0, .frame id (.packet (.login [0x6B]))]

/-- A client takes the device and sends it octets. -/
def rawTalk (id : ClientId) : List (Event ScriptedDriver) :=
  [.frame id (.packet (.ofKind .getRaw (Request.encodeRaw "Papenmeier"))),
    .frame id (.packet (.ofKind .packet [1, 2]))]

/-- A client gives the device back. -/
def rawEnd (id : ClientId) : Event ScriptedDriver :=
  .frame id (.packet (.ofKind .leaveRaw []))

/-- The letter is shown after a history from the start. -/
theorem litStart_reachable : litStart.Reachable :=
  ⟨_, _, _, _, _, _, rfl, rfl⟩

/-- The first client speaks to the device itself and gives it back, another one comes, speaks to
the device and leaves, and the driver is replaced: the letter of the first client is not written
again. -/
theorem disturbed_device_is_not_redrawn_litStart :
    let events := rawTalk ⟨1⟩ ++ [.cycle, rawEnd ⟨1⟩] ++ newcomer ⟨2⟩ ++ rawTalk ⟨2⟩ ++
      [.departure ⟨2⟩, .replacement recorder]
    litStart.Reachable ∧ (litStart.run events).rawHolder = none ∧
      (litStart.run events).displayOwner.1 = some ⟨1⟩ ∧
      ∃ held, litStart.CountsAsShown ⟨1⟩ held ∧ litStart.NotRedrawn ⟨1⟩ held events := by
  have hheld : (litStart.holding? ⟨1⟩).isSome = true := by decide +kernel
  obtain ⟨held, hheld⟩ := Option.isSome_iff_exists.1 hheld
  have hshown : litStart.CountsAsShown ⟨1⟩ held := by
    refine ⟨by decide +kernel, hheld, ?_⟩
    have hfresh : (litStart.holding? ⟨1⟩).map (·.freshness) = some .displayed := by decide +kernel
    rw [hheld] at hfresh
    exact Option.some.inj hfresh
  exact ⟨litStart_reachable, by decide +kernel, by decide +kernel, held, hshown,
    disturbed_device_is_not_redrawn litStart_reachable hshown (by decide +kernel)⟩

/-- The host has replaced the driver. -/
def driverReplaced : Server ScriptedDriver :=
  litStart.run [.replacement recorder]

/-- A cycle later another client has sent octets to the device and left, and the device was
reset. -/
def deviceReset : Server ScriptedDriver :=
  driverReplaced.run (.cycle :: newcomer ⟨2⟩ ++ rawTalk ⟨2⟩ ++ [.departure ⟨2⟩])

/-- A cycle later a third one has sent octets to the device and given it back. -/
def deviceReturned : Server ScriptedDriver :=
  deviceReset.run (.cycle :: newcomer ⟨3⟩ ++ rawTalk ⟨3⟩ ++ [rawEnd ⟨3⟩])

/-- After each of the three disturbances the next cycle succeeds but writes nothing: the letter was
given to the first driver alone, and the new one is given no window at all. -/
theorem nothing_written_after_disturbance :
    litStart.Reachable ∧ litStart.displayOwner.1 = some ⟨1⟩ ∧ litStart.windows = [[0x61, 0]] ∧
      (∀ s ∈ [driverReplaced, deviceReset, deviceReturned],
        s.rawHolder = none ∧ s.displayOwner.1 = some ⟨1⟩ ∧ s.cycle.1 = .ok none ∧
          s.cycle.2.windows = [[0x61, 0]] ∧ s.cycle.2.driver.windows = []) ∧
      deviceReturned.cycle.2.driver.packets = [[1, 2], [1, 2]] ∧
      deviceReturned.cycle.2.driver.resets = 1 ∧
      deviceReturned.cycle.2.calls = litStart.calls ++
        [.readKey, .writePacket [1, 2], .reset, .readKey, .writePacket [1, 2], .readKey] :=
  ⟨litStart_reachable, by decide +kernel, by decide +kernel, by decide +kernel, by decide +kernel,
    by decide +kernel, by decide +kernel⟩

end driver

end Server

end BrailleShare
