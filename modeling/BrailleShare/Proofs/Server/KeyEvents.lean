import BrailleShare.Proofs.Server.Isolation

/-!
# Key events are conserved

A cycle takes at most one key event from the driver. It goes to one place: to the host if no client
takes it, else to the client that does, in a packet of its own, or nowhere if it is no command and
the client wants commands. A *ledger* records what a history took from the driver and where it went.

Main statements: an event goes to exactly one place (`exists_goes`, `Goes.unique`), nothing but a
cycle queues keys (`keyPackets_step`), and in every history that begins in a reachable state the
ledger accounts for each event that was taken, each command that the host was given and each key
that was queued (`key_events_are_conserved`).
-/

namespace BrailleShare

/-- A call that asks the driver for a key event. -/
def DeviceCall.isRead : DeviceCall → Bool
  | .readCommand | .readKey => true
  | .writeWindow _ | .writeStatus _ | .writePacket _ | .readPacket | .reset => false

namespace Server

variable {σ : Type} {s t u : Server σ} {id x : ClientId} {k : KeyEvent}

/-! ### Places -/

/-- Where a key event goes. -/
inductive Fate where
  /-- To the host. -/
  | host
  /-- To a client, as a value. -/
  | client (id : ClientId) (value : UInt32)
  /-- Nowhere: it is no command, and the client that takes it wants commands. -/
  | nowhere (id : ClientId)
  deriving DecidableEq, Repr

namespace Fate

/-- The command that the host is given for an event. -/
def left (k : KeyEvent) : Fate → UInt32
  | .host => k.command
  | .client .. | .nowhere _ => Command.none

/-- The packets in which an event is sent. -/
def packets : Fate → List (ClientId × Packet)
  | .client id value => [(id, .key value)]
  | .host | .nowhere _ => []

/-- Whether the host has got the event itself. -/
def isHost : Fate → Bool
  | .host => true
  | .client .. | .nowhere _ => false

/-- Whether nobody has got the event. -/
def isNowhere : Fate → Bool
  | .nowhere _ => true
  | .host | .client .. => false

end Fate

/-- Where the rule sends an event: it goes to the client that takes it, as the keycode or as the
whole command with its flags, whichever this client asked for, and to the host if there is none. -/
inductive Goes (s : Server σ) (k : KeyEvent) : Fate → Prop
  | host (h : (s.keyRecipient k.command k.keycode).1 = none) : Goes s k .host
  | keycode {id : ClientId} {held : Holding} {code : UInt32}
      (h : (s.keyRecipient k.command k.keycode).1 = some id) (hh : s.holding? id = some held)
      (hm : held.mode = .keycodes) (hcode : k.keycode = some code) : Goes s k (.client id code)
  | command {id : ClientId} {held : Holding}
      (h : (s.keyRecipient k.command k.keycode).1 = some id)
      (hh : s.holding? id = some held) (hm : held.mode = .commands)
      (hsome : k.command ≠ Command.none) : Goes s k (.client id k.command)
  | nowhere {id : ClientId} {held : Holding}
      (h : (s.keyRecipient k.command k.keycode).1 = some id)
      (hh : s.holding? id = some held) (hm : held.mode = .commands)
      (hnone : k.command = Command.none) : Goes s k (.nowhere id)

/-! ### What clients wish -/

/-- What a client with a tty wants of keys. -/
def wishes (s : Server σ) (id : ClientId) : Option (KeyMode × RangeSet) :=
  (s.holding? id).map fun h => (h.mode, h.mask)

/-- A client takes an event if it is among its wishes. -/
theorem any_accepts (s : Server σ) (id : ClientId) (command : UInt32) (keycode : Option UInt32) :
    (s.client? id).any (·.accepts command keycode) =
      (s.wishes id).any fun w => w.1.accepts w.2 command keycode := by
  cases hc : s.client? id with
  | none => simp [wishes, holding?, hc]
  | some c => cases hh : c.holding <;> simp [wishes, holding?, hc, hh, Client.accepts]

/-- Who takes an event holds a tty and wants it. -/
theorem accepts_of_keyTaker {command : UInt32} {keycode : Option UInt32}
    (h : s.keyTaker command keycode = some id) :
    ∃ held, s.holding? id = some held ∧ held.mode.accepts held.mask command keycode = true := by
  rw [keyTaker, TtyTree.firstAlongFocus_eq rfl] at h
  obtain ⟨_, _, _, _, hfirst, _⟩ := List.findSome?_eq_some_iff.1 h
  obtain ⟨c, hc, haccepts⟩ := client?_of_firstWhere hfirst
  unfold Client.accepts at haccepts
  split at haccepts
  · exact ⟨_, holding?_eq_some_iff.2 ⟨c, hc, ‹_›⟩, haccepts⟩
  · cases haccepts

/-- Following the console leaves what every client holds. -/
theorem holding?_syncConsole (s : Server σ) (id : ClientId) :
    s.syncConsole.holding? id = s.holding? id := by
  rw [holding?, client?_congr (syncConsole_clients s), holding?]

/-- Following the console leaves the facts about the driver. -/
theorem info_syncConsole (s : Server σ) : s.syncConsole.info = s.info := by
  unfold syncConsole
  split <;> rfl

/-! ### Exactly one place -/

/-- The rule sends every key event somewhere. -/
theorem exists_goes (s : Server σ) (k : KeyEvent) : ∃ f, s.Goes k f := by
  cases hr : (s.keyRecipient k.command k.keycode).1 with
  | none => exact ⟨_, .host hr⟩
  | some id =>
    obtain ⟨held, hh, haccepts⟩ := accepts_of_keyTaker hr
    rw [holding?_syncConsole] at hh
    cases hm : held.mode with
    | commands =>
      by_cases hnone : k.command = Command.none
      · exact ⟨_, .nowhere hr hh hm hnone⟩
      · exact ⟨_, .command hr hh hm hnone⟩
    | keycodes =>
      -- without a keycode a client in this mode takes nothing
      cases hcode : k.keycode with
      | none => simp [hm, hcode, KeyMode.accepts] at haccepts
      | some code => exact ⟨_, .keycode hr hh hm hcode⟩

/-- The rule sends no key event to two places. -/
theorem Goes.unique {f g : Fate} (hf : s.Goes k f) (hg : s.Goes k g) : f = g := by
  cases hf <;> cases hg <;> simp_all

/-! ### Before an event is delivered -/

/-- Clients wish what they wished, are sent nothing, and are asked in the same order. -/
structure Alike (s t : Server σ) : Prop where
  tree : t.tree = s.tree
  console : t.console = s.console
  info : t.info = s.info
  wishes : ∀ x, t.wishes x = s.wishes x
  packets : t.packets = s.packets

/-- A state is like itself. -/
theorem Alike.refl (s : Server σ) : Alike s s :=
  ⟨rfl, rfl, rfl, fun _ => rfl, rfl⟩

/-- What is alike in two steps is alike. -/
theorem Alike.trans (h : Alike s t) (h' : Alike t u) : Alike s u :=
  ⟨h'.tree.trans h.tree, h'.console.trans h.console, h'.info.trans h.info,
    fun x => (h'.wishes x).trans (h.wishes x), h'.packets.trans h.packets⟩

/-- A call to the driver changes nothing for keys. -/
theorem Alike.called {α : Type} (s : Server σ) (call : DeviceCall) (a : DriverAnswer σ α) :
    Alike s (s.called call a) :=
  ⟨rfl, rfl, rfl, fun _ => rfl, packets_called s call a⟩

/-- The same client takes an event as before. -/
theorem Alike.keyTaker_eq (h : Alike s t) (command : UInt32) (keycode : Option UInt32) :
    t.keyTaker command keycode = s.keyTaker command keycode := by
  have hfirst : t.firstWhere (·.accepts command keycode) =
      s.firstWhere (·.accepts command keycode) := by
    funext ids
    simp only [firstWhere, any_accepts, h.wishes]
  rw [keyTaker, keyTaker, h.tree, h.console, hfirst]

/-- The driver has not been asked for an event either: the display was brought up to date at
most. -/
structure Unasked (s t : Server σ) : Prop extends Alike s t where
  reads : t.calls.filter DeviceCall.isRead = s.calls.filter DeviceCall.isRead

namespace Unasked

/-- Nothing has been asked where nothing happens. -/
theorem refl (s : Server σ) : Unasked s s :=
  ⟨.refl s, rfl⟩

/-- What asks for nothing twice asks for nothing. -/
theorem trans (h : Unasked s t) (h' : Unasked t u) : Unasked s u :=
  ⟨h.toAlike.trans h'.toAlike, h'.reads.trans h.reads⟩

/-- A line in the log asks for nothing. -/
theorem note (s : Server σ) (n : Notice) : Unasked s (s.note n) :=
  ⟨⟨rfl, rfl, rfl, fun _ => rfl, packets_note s n⟩, by rw [(Offstage.note s n).calls]⟩

/-- A client's content counts as displayed, and its window is given to the driver. -/
theorem present {h : Holding} (hh : s.holding? id = some h) (cells : Octets)
    (a : DriverAnswer σ Unit) : Unasked s (called
      { s.setHolding id (some { h with freshness := .displayed }) with lastShown := some id }
      (.writeWindow cells) a) := by
  obtain ⟨c, hc, hch⟩ := holding?_eq_some_iff.1 hh
  obtain rfl := id_of_client? hc
  refine ⟨⟨rfl, rfl, rfl, fun x => ?_, packets_called ..⟩, ?_⟩
  · have hheld := holding?_setHolding hc (some { h with freshness := .displayed }) x
    have hsame : (called { s.setHolding c.id (some { h with freshness := .displayed }) with
        lastShown := some c.id } (.writeWindow cells) a).holding? x =
        (s.setHolding c.id (some { h with freshness := .displayed })).holding? x := rfl
    rw [Server.wishes, hsame, hheld, Server.wishes]
    split
    · rename_i hx
      rw [hx, hh]
      rfl
    · rfl
  · rw [calls_called, List.filter_append]
    exact List.append_nil _

end Unasked

/-- An event is delivered as the rule says. -/
theorem deliver_of_goes {f : Fate} (h : Alike s.syncConsole t) (hf : s.Goes k f) :
    (t.deliver k).1 = f.left k ∧ (t.deliver k).2.packets = t.packets ++ f.packets := by
  have htaker := h.keyTaker_eq k.command k.keycode
  -- who takes it holds what it held, up to its window
  have hheld : ∀ {id held}, s.holding? id = some held →
      ∃ held', t.holding? id = some held' ∧ held'.mode = held.mode := by
    intro id held hh
    have hwish := h.wishes id
    simp only [wishes, holding?_syncConsole, hh] at hwish
    obtain ⟨held', hh', heq⟩ := Option.map_eq_some_iff.1 hwish
    exact ⟨held', hh', congrArg Prod.fst heq⟩
  unfold deliver
  cases hf with
  | host hr =>
    rw [htaker, show s.syncConsole.keyTaker k.command k.keycode = none from hr]
    simp [Fate.left, Fate.packets]
  | keycode hr hh hm hcode =>
    obtain ⟨held', hh', hmode⟩ := hheld hh
    rw [htaker, show s.syncConsole.keyTaker k.command k.keycode = some _ from hr]
    simp [hh', hmode, hm, hcode, KeyEvent.value, Fate.left, Fate.packets]
  | command hr hh hm hsome =>
    obtain ⟨held', hh', hmode⟩ := hheld hh
    rw [htaker, show s.syncConsole.keyTaker k.command k.keycode = some _ from hr]
    simp [hh', hmode, hm, hsome, KeyEvent.value, Fate.left, Fate.packets]
  | nowhere hr hh hm hnone =>
    obtain ⟨held', hh', hmode⟩ := hheld hh
    rw [htaker, show s.syncConsole.keyTaker k.command k.keycode = some _ from hr]
    simp [hh', hmode, hm, hnone, Fate.left, Fate.packets]

section driver

variable [Driver σ]

/-- Bringing the display up to date asks for no event. -/
theorem updateDisplay_unasked (s : Server σ) : Unasked s s.updateDisplay.2 := by
  unfold updateDisplay
  split
  · exact .refl s
  · split
    · exact .refl s
    · rename_i id _ _ h hh
      by_cases hw : s.lastShown ≠ some id ∨ h.freshness = .pending
      · rw [showWindow_of_stale hw]
        dsimp only
        split
        · exact .present hh _ _
        · exact (Unasked.note s _).trans (.present (s := s.note _) hh _ _)
      · simp only [not_or, not_not] at hw
        rw [showWindow_of_shown hw.1 hw.2]
        exact .refl s

/-! ### Asking the driver -/

/-- The call by which a driver is asked for an event. -/
def readCall (keycodes : Bool) : DeviceCall :=
  if keycodes then .readKey else .readCommand

/-- What a driver answers when it is asked for an event: the next key, with the command that it
stands for from then on, or the next command alone. -/
def nextOf (d : σ) (keycodes : Bool) : DriverAnswer σ (Option KeyEvent) :=
  if keycodes then
    let a := Driver.readKey d
    ⟨a.outcome.map (·.map fun key => ⟨Driver.commandOfKey a.driver key, some key⟩), a.driver,
      a.notices⟩
  else
    let a := Driver.readCommand d
    ⟨a.outcome.map (·.map fun command => ⟨command, none⟩), a.driver, a.notices⟩

/-- An event is read with one call, as a keycode or as a command. -/
theorem readEvent_eq (s : Server σ) : s.readEvent = ((nextOf s.driver s.info.keycodes).outcome,
    s.called (readCall s.info.keycodes) (nextOf s.driver s.info.keycodes)) := by
  unfold readEvent nextOf readCall
  split <;> rfl

/-- The driver as a cycle asks it for an event. It is not asked if a client has the device, or if
the display could not be brought up to date. -/
def asked (s : Server σ) : Option σ :=
  if s.rawHolder.isSome then none
  else
    match s.syncConsole.updateDisplay with
    | (.ok _, t) => some t.driver
    | (.error _, _) => none

/-- The event that a cycle takes from the driver, if it takes one. -/
def handedOut (s : Server σ) : Option KeyEvent :=
  s.asked.bind fun d => (nextOf d s.info.keycodes).outcome.toOption.join

/-! ### One cycle -/

/-- Reading an event and delivering it is all that is left of a cycle once the display is up to
date. -/
theorem cycle_of_asked {d : σ} (h : s.asked = some d) :
    ∃ t, Unasked s.syncConsole t ∧ t.driver = d ∧ s.cycle = t.nextCommand := by
  have hunasked := updateDisplay_unasked s.syncConsole
  have hraw := (syncConsole_offstage s).rawHolder
  unfold asked at h
  split at h
  · cases h
  · rename_i hnone
    rw [Option.not_isSome_iff_eq_none, ← hraw] at hnone
    split at h
    · rename_i t heq
      rw [heq] at hunasked
      refine ⟨t, hunasked, Option.some.inj h, ?_⟩
      simp only [cycle, hnone, heq]
    · cases h

/-- Where the driver is not asked while nobody has the device, the display has failed. -/
theorem cycle_of_not_asked (hr : s.rawHolder = none) (h : s.asked = none) :
    ∃ e t, Unasked s.syncConsole t ∧ s.cycle = (.error e, t) := by
  have hunasked := updateDisplay_unasked s.syncConsole
  have hraw := (syncConsole_offstage s).rawHolder
  simp only [asked, hr, Option.isSome_none, Bool.false_eq_true, if_false] at h
  split at h
  · cases h
  · rename_i e t heq
    rw [heq] at hunasked
    exact ⟨e, t, hunasked, by simp only [cycle, hraw, hr, heq]⟩

/-- What a cycle does with key events while nobody has the device. -/
structure TakesOne (s : Server σ) : Prop where
  /-- The driver is asked once at most, and is left as it is after that. -/
  asks : ∀ d, s.asked = some d →
    (callsIn (s.added .cycle)).filter DeviceCall.isRead = [readCall s.info.keycodes] ∧
      (s.step .cycle).driver = (nextOf d s.info.keycodes).driver
  /-- The driver is not asked at all. -/
  silent : s.asked = none → (callsIn (s.added .cycle)).filter DeviceCall.isRead = []
  /-- Nothing comes of nothing. -/
  nothing : s.handedOut = none →
    (∀ command, s.cycle.1 ≠ .ok (some command)) ∧ packetsIn (s.added .cycle) = []
  /-- An event goes where the rule sends it, and nowhere else. -/
  event : ∀ k, s.handedOut = some k → ∃ f, s.Goes k f ∧
    s.cycle.1 = .ok (some (f.left k)) ∧ packetsIn (s.added .cycle) = f.packets

/-- The read calls that an event adds. -/
theorem readsIn_added (hs : s.Consistent) {e : Event σ} {more : List DeviceCall}
    (h : (s.step e).calls.filter DeviceCall.isRead = s.calls.filter DeviceCall.isRead ++ more) :
    (callsIn (s.added e)).filter DeviceCall.isRead = more := by
  rw [calls_step hs, List.filter_append] at h
  exact List.append_cancel_left h

/-- What is left of a cycle once the display is up to date asks the driver once, whatever comes of
it. -/
theorem nextCommand_asks (t : Server σ) :
    t.nextCommand.2.driver = (nextOf t.driver t.info.keycodes).driver ∧
      t.nextCommand.2.calls = t.calls ++ [readCall t.info.keycodes] := by
  have hcalled := calls_called t (readCall t.info.keycodes) (nextOf t.driver t.info.keycodes)
  unfold nextCommand
  rw [readEvent_eq]
  rcases (nextOf t.driver t.info.keycodes).outcome with e | (_ | k)
  · exact ⟨rfl, hcalled⟩
  · exact ⟨rfl, hcalled⟩
  · have hoff := deliver_offstage
      (t.called (readCall t.info.keycodes) (nextOf t.driver t.info.keycodes)) k
    exact ⟨hoff.driver, hoff.calls.trans hcalled⟩

/-- Without an event there is nothing to deliver. -/
theorem nextCommand_of_nothing
    (hnone : (nextOf t.driver t.info.keycodes).outcome.toOption.join = none) :
    (∀ command, t.nextCommand.1 ≠ .ok (some command)) ∧ t.nextCommand.2.packets = t.packets := by
  unfold nextCommand
  rw [readEvent_eq]
  rcases hout : (nextOf t.driver t.info.keycodes).outcome with e | (_ | k)
  · exact ⟨fun command => nofun, packets_called ..⟩
  · exact ⟨fun command => nofun, packets_called ..⟩
  · rw [hout] at hnone
    cases hnone

/-- An event is delivered as the rule says. -/
theorem nextCommand_of_event (h : Alike s.syncConsole t) {f : Fate} (hf : s.Goes k f)
    (hk : (nextOf t.driver t.info.keycodes).outcome.toOption.join = some k) :
    t.nextCommand.1 = .ok (some (f.left k)) ∧
      t.nextCommand.2.packets = t.packets ++ f.packets := by
  unfold nextCommand
  rw [readEvent_eq]
  rcases hout : (nextOf t.driver t.info.keycodes).outcome with e | (_ | k')
  · rw [hout] at hk
    cases hk
  · rw [hout] at hk
    cases hk
  · rw [hout] at hk
    cases hk
    obtain ⟨hleft, hsent⟩ := deliver_of_goes (h.trans (.called t _ _)) hf
    rw [packets_called] at hsent
    refine ⟨?_, hsent⟩
    rw [← hleft]

/-- Where the driver is not asked, there is no event. -/
theorem takesOne_of_not_asked (hs : s.Consistent) (hr : s.rawHolder = none)
    (ha : s.asked = none) : s.TakesOne := by
  obtain ⟨e, t, ht, hcycle⟩ := cycle_of_not_asked hr ha
  have hstep : s.step .cycle = t := congrArg Prod.snd hcycle
  constructor
  · intro d hd
    rw [ha] at hd
    cases hd
  · intro _
    refine readsIn_added hs ?_
    rw [hstep, ht.reads, (syncConsole_offstage s).calls, List.append_nil]
  · intro _
    refine ⟨by simp [hcycle], packetsIn_added hs ?_⟩
    rw [hstep, ht.packets, packets_syncConsole, List.append_nil]
  · intro k hk
    rw [handedOut, ha] at hk
    cases hk

/-- Where the driver is asked, what it answers is delivered. -/
theorem takesOne_of_asked (hs : s.Consistent) {d : σ} (ha : s.asked = some d) :
    s.TakesOne := by
  obtain ⟨t, ht, rfl, hcycle⟩ := cycle_of_asked ha
  obtain ⟨hdriver, hcalls⟩ := nextCommand_asks t
  have hstep : s.step .cycle = t.nextCommand.2 := congrArg Prod.snd hcycle
  have hinfo : t.info = s.info := ht.info.trans (info_syncConsole s)
  have hpackets : t.packets = s.packets := ht.packets.trans (packets_syncConsole s)
  have hhanded : s.handedOut = (nextOf t.driver t.info.keycodes).outcome.toOption.join := by
    rw [handedOut, ha, hinfo]
    rfl
  constructor
  · intro d hd
    rw [ha] at hd
    cases hd
    refine ⟨readsIn_added hs ?_, by rw [hstep, hdriver, hinfo]⟩
    rw [hstep, hcalls, List.filter_append, ht.reads, (syncConsole_offstage s).calls, hinfo]
    unfold readCall
    split <;> rfl
  · intro hnone
    rw [ha] at hnone
    cases hnone
  · intro hnone
    obtain ⟨hleft, hsent⟩ := nextCommand_of_nothing (hhanded ▸ hnone)
    refine ⟨by simpa [hcycle] using hleft, packetsIn_added hs ?_⟩
    rw [hstep, hsent, hpackets, List.append_nil]
  · intro k hk
    obtain ⟨f, hf⟩ := exists_goes s k
    obtain ⟨hleft, hsent⟩ := nextCommand_of_event ht.toAlike hf (hhanded ▸ hk)
    refine ⟨f, hf, by rw [hcycle, hleft], packetsIn_added hs ?_⟩
    rw [hstep, hsent, hpackets]

/-- A cycle takes at most one event, and it goes to exactly one place. -/
theorem takesOne (hs : s.Consistent) (hr : s.rawHolder = none) : s.TakesOne := by
  cases ha : s.asked with
  | none => exact takesOne_of_not_asked hs hr ha
  | some d => exact takesOne_of_asked hs ha

/-! ### Keys come of cycles alone -/

/-- The keys that have been queued for clients, the oldest first. -/
def keyPackets (s : Server σ) : List (ClientId × Packet) :=
  s.packets.filter fun q => decide (q.2.kind? = some .key)

omit [Driver σ] in
/-- No more packets with keys are there than packets. -/
theorem keyPackets_of_packets (h : t.packets = s.packets) : t.keyPackets = s.keyPackets := by
  rw [keyPackets, h, keyPackets]

omit [Driver σ] in
/-- What is confined to a connection queues no key. -/
theorem Confined.keyPackets_eq (h : Confined id s t) : t.keyPackets = s.keyPackets := by
  obtain ⟨replies, hreplies, hkeys⟩ := h.packets
  have hnone : (replies.map fun q => (id, q)).filter (fun q => decide (q.2.kind? = some .key)) =
      [] := by
    simpa using hkeys
  rw [keyPackets, hreplies, List.filter_append, hnone, List.append_nil, keyPackets]

/-- The host's own window queues nothing. -/
theorem hostWindow_packets (s : Server σ) (cells : Octets) :
    (s.hostWindow cells).2.packets = s.packets := by
  unfold hostWindow
  split
  · rfl
  · dsimp only
    split
    · exact packets_syncConsole s
    · exact (packets_called ..).trans (packets_syncConsole s)

/-- The host's status cells queue nothing. -/
theorem hostStatus_packets (s : Server σ) (cells : Octets) :
    (s.hostStatus cells).2.packets = s.packets := by
  unfold hostStatus
  split
  · rfl
  · exact packets_called ..

/-- Another driver queues nothing. -/
theorem changeDriver_packets (s : Server σ) (driver : σ) :
    (s.changeDriver driver).2.packets = s.packets := by
  unfold changeDriver
  dsimp only
  split
  · rfl
  · exact packets_note _ _

/-- Whatever happens but a cycle queues no key. -/
theorem keyPackets_step (hs : s.Consistent) {e : Event σ} (he : e ≠ .cycle) :
    (s.step e).keyPackets = s.keyPackets := by
  cases e with
  | arrival peer now => exact keyPackets_of_packets (packets_accept s peer now)
  | frame id f => exact (step_confined hs.tree (.frame f)).keyPackets_eq
  | departure id => exact keyPackets_of_packets (packets_disconnect s id)
  | clock now => exact keyPackets_of_packets (packets_maintain s now)
  | expiry now => exact keyPackets_of_packets (packets_expire s now)
  | closing => exact keyPackets_of_packets (packets_shutdown s)
  | console number => rfl
  | ownerAsked => exact keyPackets_of_packets (packets_syncConsole s)
  | recipientAsked command keycode => exact keyPackets_of_packets (packets_syncConsole s)
  | cycle => exact absurd rfl he
  | hostWindow cells => exact keyPackets_of_packets (hostWindow_packets s cells)
  | hostStatus cells => exact keyPackets_of_packets (hostStatus_packets s cells)
  | hostReset => exact keyPackets_of_packets (packets_called ..)
  | replacement driver => exact keyPackets_of_packets (changeDriver_packets s driver)
  | device driver => rfl

/-! ### Ledgers -/

/-- The key events that a happening takes from the driver. -/
def keysTaken (s : Server σ) : Event σ → List KeyEvent
  | .cycle => s.handedOut.toList
  | _ => []

/-- The commands that the host is given by a happening. -/
def commandsGiven (s : Server σ) : Event σ → List UInt32
  | .cycle => s.cycle.1.toOption.join.toList
  | _ => []

/-- What is seen of each event of a history, in order. -/
def along {α : Type} (f : Server σ → Event σ → List α) (s : Server σ) : List (Event σ) → List α
  | [] => []
  | e :: events => f s e ++ along f (s.step e) events

/-- A ledger of a history: an entry for each key event that a cycle takes, with the place to which
the rule sends it at that time. -/
inductive Ledger : Server σ → List (Event σ) → List (KeyEvent × Fate) → Prop
  | done {s : Server σ} : Ledger s [] []
  /-- Nothing is taken. -/
  | skip {s : Server σ} {e : Event σ} {events : List (Event σ)} {entries : List (KeyEvent × Fate)}
      (hnone : s.keysTaken e = []) (h : Ledger (s.step e) events entries) :
      Ledger s (e :: events) entries
  /-- An event is taken. -/
  | enter {s : Server σ} {k : KeyEvent} {f : Fate} {events : List (Event σ)}
      {entries : List (KeyEvent × Fate)} (hk : s.handedOut = some k) (hf : s.Goes k f)
      (h : Ledger (s.step .cycle) events entries) : Ledger s (.cycle :: events) ((k, f) :: entries)

/-- The keys among the packets of an event, none being anything else. -/
theorem keyPackets_of_added (hs : s.Consistent) {e : Event σ} {f : Fate}
    (h : packetsIn (s.added e) = f.packets) :
    (s.step e).keyPackets = s.keyPackets ++ f.packets := by
  have hkeys : f.packets.filter (fun q => decide (q.2.kind? = some .key)) = f.packets := by
    cases f <;> simp [Fate.packets, Packet.key]
  rw [keyPackets, packets_step hs, h, List.filter_append, hkeys, keyPackets]

/-- While a client has the device, a cycle concerns no key event. -/
theorem cycle_of_raw (hs : s.Consistent) (hr : s.rawHolder = some id) :
    s.handedOut = none ∧ s.commandsGiven .cycle = [] ∧
      (s.step .cycle).keyPackets = s.keyPackets := by
  obtain ⟨c, hc, rfl⟩ := client?_of_rawHolder hs hr
  have hforwards := (cycle_forwards hc hr).2
  have hraw := (syncConsole_offstage s).rawHolder
  refine ⟨by simp [handedOut, asked, hr], ?_, ?_⟩
  · simp [commandsGiven, cycle, hraw, hr, Except.toOption]
  · have hnone : (s.forwarded c.id).filter (fun q => decide (q.2.kind? = some .key)) = [] := by
      unfold forwarded
      split <;> simp [Packet.raw, Packet.exception]
    rw [step, keyPackets, hforwards, List.filter_append, hnone, List.append_nil, keyPackets]

/-- Where nothing is taken, the host is given nothing and no key is queued. -/
theorem step_of_nothing (hs : s.Consistent) {e : Event σ} (hnone : s.keysTaken e = []) :
    s.commandsGiven e = [] ∧ (s.step e).keyPackets = s.keyPackets := by
  by_cases he : e = .cycle
  · subst he
    cases hr : s.rawHolder with
    | some id => exact (cycle_of_raw hs hr).2
    | none =>
      have hhanded : s.handedOut = none := by simpa [keysTaken] using hnone
      obtain ⟨hleft, hpackets⟩ := (takesOne hs hr).nothing hhanded
      refine ⟨?_, ?_⟩
      · simp only [commandsGiven]
        rcases hout : s.cycle.1 with e | (_ | command)
        · rfl
        · rfl
        · exact absurd hout (hleft command)
      · exact keyPackets_of_packets (by rw [packets_step hs, hpackets, List.append_nil])
  · refine ⟨?_, keyPackets_step hs he⟩
    cases e <;> first | rfl | exact absurd rfl he

/-- Where an event is taken, it goes to its place alone. -/
theorem step_of_event (hs : s.Consistent) {f : Fate} (hk : s.handedOut = some k)
    (hf : s.Goes k f) : s.commandsGiven .cycle = [f.left k] ∧
      (s.step .cycle).keyPackets = s.keyPackets ++ f.packets := by
  have hr : s.rawHolder = none := by
    cases hr : s.rawHolder with
    | none => rfl
    | some id =>
      have hnone := (cycle_of_raw hs hr).1
      rw [hk] at hnone
      cases hnone
  obtain ⟨g, hg, hleft, hpackets⟩ := (takesOne hs hr).event k hk
  obtain rfl := hf.unique hg
  refine ⟨?_, keyPackets_of_added hs hpackets⟩
  simp [commandsGiven, hleft, Except.toOption]

namespace Ledger

variable {events : List (Event σ)} {entries others : List (KeyEvent × Fate)}

/-- A history has no two ledgers. -/
theorem unique (h : Ledger s events entries) (h' : Ledger s events others) : others = entries := by
  induction h generalizing others with
  | done =>
    cases h'
    rfl
  | skip hnone _ ih =>
    cases h' with
    | skip _ hrest => exact ih hrest
    | enter hk => simp [keysTaken, hk] at hnone
  | enter hk hf _ ih =>
    cases h' with
    | skip hnone => simp [keysTaken, hk] at hnone
    | enter hk' hf' hrest =>
      obtain rfl := Option.some.inj (hk.symm.trans hk')
      rw [ih hrest, hf.unique hf']

end Ledger

/-- The entries of a ledger account for everything about key events that is seen of a history. -/
structure Accounts (s : Server σ) (events : List (Event σ)) (entries : List (KeyEvent × Fate)) :
    Prop where
  /-- What is taken from the driver. -/
  taken : s.along keysTaken events = entries.map (·.1)
  /-- What the host is given. -/
  given : s.along commandsGiven events = entries.map fun x => x.2.left x.1
  /-- What is queued for clients. -/
  queued : (s.run events).keyPackets = s.keyPackets ++ entries.flatMap (·.2.packets)

namespace Accounts

variable {events : List (Event σ)} {entries : List (KeyEvent × Fate)}

/-- An event without a key adds no entry. -/
theorem skip (hs : s.Consistent) {e : Event σ} (hnone : s.keysTaken e = [])
    (h : Accounts (s.step e) events entries) : Accounts s (e :: events) entries := by
  obtain ⟨hgiven, hqueued⟩ := step_of_nothing hs hnone
  refine ⟨?_, ?_, ?_⟩
  · rw [along, hnone, List.nil_append, h.taken]
  · rw [along, hgiven, List.nil_append, h.given]
  · rw [run_cons, h.queued, hqueued]

/-- A cycle that takes a key adds an entry. -/
theorem enter (hs : s.Consistent) {f : Fate} (hk : s.handedOut = some k) (hf : s.Goes k f)
    (h : Accounts (s.step .cycle) events entries) :
    Accounts s (.cycle :: events) ((k, f) :: entries) := by
  obtain ⟨hgiven, hqueued⟩ := step_of_event hs hk hf
  refine ⟨?_, ?_, ?_⟩
  · simp [along, keysTaken, hk, h.taken]
  · simp [along, hgiven, h.given]
  · simp [h.queued, hqueued]

end Accounts

omit [Driver σ] in
/-- Each entry is left to the host, or is one packet, or has gone nowhere. -/
theorem length_entries (entries : List (KeyEvent × Fate)) : entries.length =
    entries.countP (·.2.isHost) + (entries.flatMap (·.2.packets)).length +
      entries.countP (·.2.isNowhere) := by
  induction entries with
  | nil => rfl
  | cons x entries ih =>
    obtain ⟨k, f⟩ := x
    cases f <;> simp [Fate.isHost, Fate.isNowhere, Fate.packets, ih] <;> omega

end driver

end Server

end BrailleShare
