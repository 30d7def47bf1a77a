import BrailleShare.Proofs.Server.Arbitration
import BrailleShare.Proofs.Server.Refusals

/-!
# Dealing with the device

Which calls the parts of an operation make to the driver, and what becomes of the client that has
the device to itself. While nobody has it, the output cycle calls the driver for the display and for
the keys; while somebody has it, the cycle reads the device for this client and does nothing else.
The end of a connection concerns the device only if it is the connection of the client that has it.

Main statements: what a cycle does in either case (`cycle_ordinary`, `cycle_forwards`), and that the
device is reset once if the client that has it goes, alone or with all the others
(`disconnect_dealing`, `shutdown_dealing`), and not for any other client (`disconnect_offstage`,
`expire_offstage`).
-/

namespace BrailleShare

/-- A call that belongs to the display or to the keys, for which nobody may have the device to
himself. -/
def DeviceCall.isOrdinary : DeviceCall → Bool
  | .writeWindow _ | .writeStatus _ | .readCommand | .readKey => true
  | .writePacket _ | .readPacket | .reset => false

/-- What a call makes of the driver. -/
def DeviceCall.carriedOut {σ : Type} [Driver σ] (driver : σ) : DeviceCall → σ
  | .writeWindow cells => (Driver.writeWindow driver cells).driver
  | .writeStatus cells => (Driver.writeStatus driver cells).driver
  | .readCommand => (Driver.readCommand driver).driver
  | .readKey => (Driver.readKey driver).driver
  | .writePacket data => (Driver.writePacket driver data).driver
  | .readPacket => (Driver.readPacket driver).driver
  | .reset => (Driver.reset driver).driver

/-- What calls make of the driver, one after the other. -/
def DeviceCall.replay {σ : Type} [Driver σ] (driver : σ) (calls : List DeviceCall) : σ :=
  calls.foldl carriedOut driver

/-- What calls make of a driver may be told in two parts. -/
theorem DeviceCall.replay_append {σ : Type} [Driver σ] (driver : σ)
    (calls more : List DeviceCall) :
    replay driver (calls ++ more) = replay (replay driver calls) more :=
  List.foldl_append

namespace Server

variable {σ : Type} {s t u : Server σ} {c : Client} {p : Packet} {id : ClientId}

/-! ### Dealing with the device -/

/-- On the way to the second state the driver was called so, it has become what these calls make of
it, the host was asked for so many restarts, and in the end this client has the device. -/
structure Dealing [Driver σ] (s t : Server σ) (calls : List DeviceCall) (restarts : Nat)
    (holder : Option ClientId) : Prop where
  driver : t.driver = DeviceCall.replay s.driver calls
  calls : t.calls = s.calls ++ calls
  restarts : t.restarts = s.restarts + restarts
  rawHolder : t.rawHolder = holder

section dealing

variable [Driver σ]

namespace Dealing

variable {calls more : List DeviceCall} {n m : Nat} {a b : Option ClientId}

/-- What happens without the device makes no call. -/
theorem of_offstage (h : Offstage s t) : Dealing s t [] 0 s.rawHolder :=
  ⟨h.driver, h.calls.trans (List.append_nil _).symm, h.restarts, h.rawHolder⟩

/-- Two dealings with the device, one after the other, are one. -/
theorem trans (h : Dealing s t calls n a) (h' : Dealing t u more m b) :
    Dealing s u (calls ++ more) (n + m) b := by
  refine ⟨?_, ?_, ?_, h'.rawHolder⟩
  · rw [h'.driver, h.driver, DeviceCall.replay_append]
  · rw [h'.calls, h.calls, List.append_assoc]
  · rw [h'.restarts, h.restarts, Nat.add_assoc]

/-- Something without the device may happen before. -/
theorem after (h : Dealing t u calls n a) (hoff : Offstage s t) : Dealing s u calls n a := by
  have hboth := (of_offstage hoff).trans h
  rwa [List.nil_append, Nat.zero_add] at hboth

/-- Something without the device may happen after. -/
theorem before (h : Dealing s t calls n a) (hoff : Offstage t u) : Dealing s u calls n a := by
  have hboth := h.trans (of_offstage hoff)
  rwa [List.append_nil, Nat.add_zero, h.rawHolder] at hboth

/-- A call whose answer is the driver's own. -/
theorem called {α : Type} (s : Server σ) {call : DeviceCall} {answer : DriverAnswer σ α}
    (h : answer.driver = call.carriedOut s.driver) :
    Dealing s (s.called call answer) [call] 0 s.rawHolder :=
  ⟨h, calls_called .., restarts_called .., rfl⟩

end Dealing

/-- The device was called for the display and the keys at most. -/
def Ordinary (s t : Server σ) : Prop :=
  ∃ calls, Dealing s t calls 0 s.rawHolder ∧ ∀ call ∈ calls, call.isOrdinary = true

namespace Ordinary

/-- What happens without the device is ordinary. -/
theorem of_offstage (h : Offstage s t) : Ordinary s t :=
  ⟨[], .of_offstage h, by simp⟩

/-- A call for the display or the keys is ordinary. -/
theorem called {α : Type} (s : Server σ) {call : DeviceCall} {answer : DriverAnswer σ α}
    (h : answer.driver = call.carriedOut s.driver) (hcall : call.isOrdinary = true) :
    Ordinary s (s.called call answer) :=
  ⟨[call], .called s h, by simpa using hcall⟩

/-- What is ordinary twice is ordinary. -/
theorem trans (h : Ordinary s t) (h' : Ordinary t u) : Ordinary s u := by
  obtain ⟨calls, hd, hcalls⟩ := h
  obtain ⟨more, hd', hmore⟩ := h'
  refine ⟨calls ++ more, ?_, fun call hcall => ?_⟩
  · have hboth := hd.trans hd'
    rwa [hd.rawHolder] at hboth
  · exact (List.mem_append.1 hcall).elim (hcalls call) (hmore call)

end Ordinary

end dealing

/-! ### The output cycle -/

/-- Following the console has nothing to do with the device. -/
theorem syncConsole_offstage (s : Server σ) : Offstage s s.syncConsole := by
  unfold syncConsole
  split
  · exact .refl s
  · exact (Offstage.note s _).trans (.withTree _ _)

/-- A key is delivered without the device. -/
theorem deliver_offstage (s : Server σ) (e : KeyEvent) : Offstage s (s.deliver e).2 := by
  unfold deliver
  split
  · exact .refl s
  · split
    · exact .refl s
    · split
      · exact .refl s
      · exact (Offstage.note s _).trans (.send _ _ _)

/-- Following the console queues nothing. -/
theorem packets_syncConsole (s : Server σ) : s.syncConsole.packets = s.packets := by
  unfold syncConsole
  split
  · rfl
  · exact packets_note s _

/-! ### Coming and logging in -/

/-- A connection comes without the device. -/
theorem accept_offstage (s : Server σ) (peer : String) (now : Nat) :
    Offstage s (s.accept peer now).2 := by
  unfold accept
  split
  · exact .refl s
  · split
    · split
      · exact .refl s
      · exact (Offstage.note s _).trans (.of_eq rfl rfl rfl)
    · have harrive : Offstage s { s with
          nextId := s.nextId + 1
          tree := s.tree.seat TtyTree.lobby ⟨s.nextId⟩
          clients := s.clients ++ [(⟨⟨s.nextId⟩, peer, now, false, none⟩ : Client)]
          waiting := s.waiting + 1 } := .of_eq rfl rfl rfl
      exact harrive.trans (.note _ _)

/-- A connection that comes is sent nothing yet. -/
theorem packets_accept (s : Server σ) (peer : String) (now : Nat) :
    (s.accept peer now).2.packets = s.packets := by
  unfold accept
  split
  · rfl
  · split
    · split
      · rfl
      · exact packets_note s _
    · exact packets_note _ _

/-- A client is turned away without the device. -/
theorem turnAway_offstage (s : Server σ) (id : ClientId) (code : ErrorCode) (n : Notice) :
    Offstage s (s.turnAway id code n).2 :=
  (Offstage.note s n).trans (.send _ _ _)

/-- A client logs in without the device. -/
theorem logIn_offstage (s : Server σ) (id : ClientId) (p : Packet) :
    Offstage s (s.logIn id p).2 := by
  unfold logIn
  split
  · exact turnAway_offstage ..
  · split
    · exact turnAway_offstage ..
    · split
      · exact turnAway_offstage ..
      · split
        · exact turnAway_offstage ..
        · have hlogin : Offstage s
              (s.modifyClient id fun c => { c with loggedIn := true }).releaseWaiting :=
            .of_eq rfl rfl rfl
          exact (hlogin.trans (.note _ _)).trans (.send _ _ _)

/-- Whoever has the device is known. -/
theorem client?_of_rawHolder (hs : s.Consistent) (h : s.rawHolder = some id) :
    ∃ c, s.client? c.id = some c ∧ c.id = id := by
  have hlogin := hs.raw h
  cases hc : s.client? id with
  | none => simp [isLoggedIn, hc] at hlogin
  | some c =>
    have hid := id_of_client? hc
    exact ⟨c, hid ▸ hc, hid⟩

/-! ### Steps towards the end of a connection -/

/-- A client gives up its seat without the device. -/
theorem unseat_offstage (s : Server σ) (c : Client) : Offstage s (s.unseat c) := by
  unfold unseat
  split
  · exact ((Offstage.withTree s _).trans (.clearTty _ _)).trans (.note _ _)
  · exact .withTree s _

/-- A client that gives up its seat is sent nothing. -/
theorem packets_unseat (s : Server σ) (c : Client) : (s.unseat c).packets = s.packets := by
  unfold unseat
  split
  · exact (packets_note ..).trans (packets_clearTty ..)
  · rfl

/-- A client gives up its seat without any change to the records. -/
theorem unseat_clients (s : Server σ) (c : Client) : (s.unseat c).clients = s.clients := by
  unfold unseat
  split
  · dsimp only
    rw [clearTty_eq]
    rfl
  · rfl

/-- A connection that does not have the device is struck off without it. -/
theorem strikeOff_offstage (h : s.rawHolder ≠ some c.id) : Offstage s (s.strikeOff c) := by
  rw [strikeOff_eq]
  exact .of_eq rfl rfl (if_neg h)

/-- That the server closes is not yet the end of a connection. -/
theorem closed_offstage (s : Server σ) (n : Notice) :
    Offstage s (({ s with closed := true } : Server σ).note n) := by
  have hclosed : Offstage s { s with closed := true } := .of_eq rfl rfl rfl
  exact hclosed.trans (.note _ n)

section driver

variable [Driver σ]

/-- Showing a window is ordinary. -/
theorem showWindow_ordinary (s : Server σ) (id : ClientId) (h : Holding) :
    Ordinary s (s.showWindow id h).2 := by
  by_cases hw : s.lastShown ≠ some id ∨ h.freshness = .pending
  · rw [showWindow_of_stale hw]
    dsimp only
    refine .trans (.of_offstage ?_) (.called _ ?_ rfl)
    · split
      · exact .of_eq rfl rfl rfl
      · exact (Offstage.note s (.ownerChanged id)).trans (.of_eq rfl rfl rfl)
    · split <;> rfl
  · simp only [not_or, not_not] at hw
    rw [showWindow_of_shown hw.1 hw.2]
    exact .of_offstage (.refl s)

/-- Bringing the display up to date is ordinary. -/
theorem updateDisplay_ordinary (s : Server σ) : Ordinary s s.updateDisplay.2 := by
  unfold updateDisplay
  split
  · exact .of_offstage (.refl s)
  · split
    · exact .of_offstage (.refl s)
    · exact showWindow_ordinary ..

/-- Reading an event is ordinary. -/
theorem readEvent_ordinary (s : Server σ) : Ordinary s s.readEvent.2 := by
  unfold readEvent
  split
  · exact .called s rfl rfl
  · exact .called s rfl rfl

/-- Reading an event and delivering it is ordinary. -/
theorem nextCommand_ordinary (s : Server σ) : Ordinary s s.nextCommand.2 := by
  have hread := readEvent_ordinary s
  unfold nextCommand
  rcases heq : s.readEvent with ⟨e | (_ | e), t⟩ <;> rw [heq] at hread
  · exact hread
  · exact hread
  · exact hread.trans (.of_offstage (deliver_offstage t e))

/-- While nobody has the device, a cycle calls the driver for the display and the keys. -/
theorem cycle_ordinary (h : s.rawHolder = none) : Ordinary s s.cycle.2 := by
  have hsync := syncConsole_offstage s
  have hupdate := updateDisplay_ordinary s.syncConsole
  simp only [cycle, hsync.rawHolder, h]
  refine .trans (.of_offstage hsync) ?_
  rcases heq : s.syncConsole.updateDisplay with ⟨e | _, t⟩ <;> rw [heq] at hupdate
  · exact hupdate
  · exact hupdate.trans (nextCommand_ordinary t)

/-- What the client that has the device is sent when the device is read. -/
def forwarded (s : Server σ) (id : ClientId) : List (ClientId × Packet) :=
  match (Driver.readPacket s.driver).outcome with
  | .ok none => []
  | .ok (some data) => [(id, .raw data)]
  | .error _ => [(id, .exception .driverError ⟨PacketKind.packet.code, []⟩)]

/-- For the client that has it, the device is read once, and what it sends goes to this client. -/
theorem forwardRaw_forwards (hc : s.client? c.id = some c) :
    Dealing s (s.forwardRaw c.id) [.readPacket] 0 s.rawHolder ∧
      (s.forwardRaw c.id).packets = s.packets ++ s.forwarded c.id := by
  have hread : Dealing s (s.called .readPacket (Driver.readPacket s.driver)) [.readPacket] 0
      s.rawHolder := .called s rfl
  simp only [forwardRaw, hc, forwarded]
  rcases (Driver.readPacket s.driver).outcome with e | (_ | data)
  · exact ⟨(hread.before (.note _ _)).before (.send _ _ _), by simp⟩
  · exact ⟨hread, by simp⟩
  · exact ⟨hread.before (.send _ _ _), by simp⟩

/-- While a client has the device, a cycle reads the device for it and does nothing else. -/
theorem cycle_forwards (hc : s.client? c.id = some c) (h : s.rawHolder = some c.id) :
    Dealing s s.cycle.2 [.readPacket] 0 (some c.id) ∧
      s.cycle.2.packets = s.packets ++ s.forwarded c.id := by
  have hsync := syncConsole_offstage s
  have hknown : s.syncConsole.client? c.id = some c := by
    rw [client?_congr (syncConsole_clients s), hc]
  obtain ⟨hdealing, hpackets⟩ := forwardRaw_forwards hknown
  have hforwarded : s.syncConsole.forwarded c.id = s.forwarded c.id := by
    rw [forwarded, hsync.driver, forwarded]
  rw [hsync.rawHolder, h] at hdealing
  rw [packets_syncConsole, hforwarded] at hpackets
  simp only [cycle, hsync.rawHolder, h]
  exact ⟨hdealing.after hsync, hpackets⟩

/-! ### The end of a connection -/

/-- How many restarts the host is asked for if the device is reset for a client. -/
def restartsOfReset (s : Server σ) : Nat :=
  if (Driver.reset s.driver).outcome.isOk then 0 else 1

/-- A reset is one call, and a restart is asked for if it fails. -/
theorem resetDevice_dealing (s : Server σ) :
    Dealing s s.resetDevice [.reset] s.restartsOfReset s.rawHolder := by
  have hreset : Dealing s (s.called .reset (Driver.reset s.driver)) [.reset] 0 s.rawHolder :=
    .called s rfl
  unfold resetDevice restartsOfReset
  dsimp only
  split
  · rename_i hok
    rw [hok]
    exact hreset
  · rename_i e herror
    rw [herror]
    have hnotes := (hreset.before (.note _ (.resetFailed e))).before (.note _ .restartRequested)
    have hrestart : ∀ t : Server σ, Dealing t (t.emit .restart) [] 1 t.rawHolder := fun t => by
      refine ⟨rfl, ?_, ?_, rfl⟩
      · simp [Server.calls, callsIn, emit, Effect.call?]
      · simp [Server.restarts, restartsIn, emit]
    exact hnotes.trans (hrestart _)

/-- A reset leaves the records as they are. -/
theorem resetDevice_clients (s : Server σ) : s.resetDevice.clients = s.clients := by
  unfold resetDevice
  dsimp only
  split <;> rfl

/-- A reset queues nothing. -/
theorem packets_resetDevice (s : Server σ) : s.resetDevice.packets = s.packets := by
  have hreset := packets_called s .reset (Driver.reset s.driver)
  unfold resetDevice
  dsimp only
  split
  · exact hreset
  · have hrestart : ∀ t : Server σ, (t.emit .restart).packets = t.packets := fun t => by
      simp [packets, packetsIn, emit, Effect.packet?]
    exact (hrestart _).trans ((packets_note ..).trans ((packets_note ..).trans hreset))

/-- A connection that ends is sent nothing, and nobody else is. -/
theorem packets_disconnect (s : Server σ) (id : ClientId) :
    (s.disconnect id).packets = s.packets := by
  unfold disconnect
  split
  · rfl
  · rename_i c _
    have hstrike : (s.strikeOff c).packets = s.packets := by
      rw [strikeOff_eq]
      rfl
    have hends := (packets_note ((s.strikeOff c).unseat c) (.disconnected id c.peer)).trans
      ((packets_unseat ..).trans hstrike)
    dsimp only
    split
    · exact (packets_resetDevice _).trans ((packets_note ..).trans hends)
    · exact hends

/-- The end of a connection that does not have the device leaves the device alone. -/
theorem disconnect_offstage (h : s.rawHolder ≠ some id) : Offstage s (s.disconnect id) := by
  unfold disconnect
  split
  · exact .refl s
  · rename_i c hc
    obtain rfl := id_of_client? hc
    dsimp only
    rw [if_neg (mt isRaw_iff.1 h)]
    exact ((strikeOff_offstage h).trans (unseat_offstage _ c)).trans (.note _ _)

/-- The device is taken from a connection that ends, and reset; a reset that fails is followed by a
request for a restart. -/
theorem disconnect_dealing (hc : s.client? c.id = some c) (h : s.rawHolder = some c.id) :
    Dealing s (s.disconnect c.id) [.reset] s.restartsOfReset none := by
  have hstrike : Offstage { s with rawHolder := none } (s.strikeOff c) := by
    rw [strikeOff_eq]
    exact .of_eq rfl rfl (if_pos h)
  have hnotes := ((hstrike.trans (unseat_offstage _ c)).trans
    (.note _ (.disconnected c.id c.peer))).trans (.note _ (.rawModeAbandoned c.id))
  have hreset := (resetDevice_dealing _).after hnotes
  rw [restartsOfReset, hnotes.driver, hnotes.rawHolder] at hreset
  simp only [disconnect, hc]
  rw [if_pos (isRaw_iff.2 h)]
  exact ⟨hreset.driver, hreset.calls, hreset.restarts, hreset.rawHolder⟩

/-- A connection that has ended is not known any more, and it is the only one. -/
theorem client?_disconnect (s : Server σ) (id x : ClientId) :
    (s.disconnect id).client? x = if x = id then none else s.client? x := by
  cases hc : s.client? id with
  | none =>
    have hsame : s.disconnect id = s := by simp [disconnect, hc]
    rw [hsame]
    split
    · rename_i hx
      rw [hx, hc]
    · rfl
  | some c =>
    obtain rfl := id_of_client? hc
    refine client?_of_filter ?_ x
    simp only [disconnect, hc]
    split
    · rw [resetDevice_clients]
      exact (unseat_clients ..).trans (by rw [strikeOff_eq])
    · exact (unseat_clients ..).trans (by rw [strikeOff_eq])

/-! ### The end of several connections -/

/-- Only connections that have not logged in wait too long, and none of these has the device. -/
theorem expire_offstage (hs : s.Consistent) (now : Nat) : Offstage s (s.expire now).2 := by
  refine Offstage.foldl _ fun t c hc ht => ?_
  refine (Offstage.note t _).trans (disconnect_offstage ?_)
  intro hraw
  obtain ⟨hmem, hlate⟩ := List.mem_filter.1 hc
  have hlogin := hs.raw (ht.rawHolder.symm.trans hraw)
  simp only [overdue, Bool.and_eq_true, Bool.not_eq_true'] at hlate
  simp [isLoggedIn, hs.client?_of_mem hmem, hlate.1] at hlogin

/-- The regular look after the connections has nothing to do with the device. -/
theorem maintain_offstage (hs : s.Consistent) (now : Nat) : Offstage s (s.maintain now) := by
  unfold maintain
  dsimp only
  split
  · exact (expire_offstage hs now).trans (.note _ _)
  · exact expire_offstage hs now

/-- Connections that waited too long are sent nothing. -/
theorem packets_expire (s : Server σ) (now : Nat) : (s.expire now).2.packets = s.packets := by
  refine List.foldlRecOn (motive := fun t : Server σ => t.packets = s.packets) _ _ rfl ?_
  exact fun t ht c _ => (packets_disconnect ..).trans ((packets_note t _).trans ht)

/-- The regular look after the connections queues nothing. -/
theorem packets_maintain (s : Server σ) (now : Nat) : (s.maintain now).packets = s.packets := by
  unfold maintain
  dsimp only
  split
  · exact (packets_note ..).trans (packets_expire s now)
  · exact packets_expire s now

/-- A server that closes sends nothing. -/
theorem packets_shutdown (s : Server σ) : s.shutdown.packets = s.packets := by
  refine List.foldlRecOn (motive := fun t : Server σ => t.packets = s.packets) _ _ ?_ ?_
  · exact packets_note _ _
  · exact fun t ht c _ => (packets_disconnect ..).trans ht

/-- After several ends the connections that have ended are not known any more. -/
theorem client?_foldl_disconnect (cs : List Client) (s : Server σ) (x : ClientId) :
    (cs.foldl (fun s c => s.disconnect c.id) s).client? x =
      if x ∈ cs.map (·.id) then none else s.client? x := by
  induction cs generalizing s with
  | nil => rfl
  | cons c cs ih =>
    rw [List.foldl_cons, ih, client?_disconnect]
    by_cases hx : x = c.id <;> simp [hx]

/-- No connection outlives the server. -/
theorem client?_shutdown (s : Server σ) (x : ClientId) : s.shutdown.client? x = none := by
  have hstart : (({ s with closed := true } : Server σ).note
      (.closingAll s.clients.length)).client? x = s.client? x := client?_congr rfl x
  rw [shutdown, client?_foldl_disconnect, hstart]
  split
  · rfl
  · rename_i hx
    cases hc : s.client? x with
    | none => rfl
    | some c =>
      have hmem := List.mem_of_find?_eq_some hc
      exact absurd (List.mem_map.2 ⟨c, hmem, id_of_client? hc⟩) hx

/-- A server closes without the device if nobody has it. -/
theorem shutdown_offstage (h : s.rawHolder = none) : Offstage s s.shutdown := by
  have hclosed := closed_offstage s (.closingAll s.clients.length)
  refine hclosed.trans (Offstage.foldl _ fun t c _ ht => disconnect_offstage ?_)
  rw [ht.rawHolder, hclosed.rawHolder, h]
  exact nofun

/-- If one of the connections that end has the device, the device is reset once, when the turn comes
to this one. -/
theorem foldl_disconnect_dealing (hc : s.client? c.id = some c) (h : s.rawHolder = some c.id)
    {before : List Client} (after : List Client) (hne : ∀ d ∈ before, d.id ≠ c.id) :
    Dealing s ((before ++ c :: after).foldl (fun s c => s.disconnect c.id) s) [.reset]
      s.restartsOfReset none := by
  rw [List.foldl_append, List.foldl_cons]
  have hbefore : Offstage s (before.foldl (fun s c => s.disconnect c.id) s) := by
    refine Offstage.foldl _ fun t d hd ht => disconnect_offstage ?_
    rw [ht.rawHolder, h]
    exact fun heq => hne d hd (Option.some.inj heq).symm
  have hknown : (before.foldl (fun s c => s.disconnect c.id) s).client? c.id = some c := by
    rw [client?_foldl_disconnect, if_neg, hc]
    rintro hmem
    obtain ⟨d, hd, heq⟩ := List.mem_map.1 hmem
    exact hne d hd heq
  have hends := (disconnect_dealing hknown (hbefore.rawHolder.trans h)).after hbefore
  rw [restartsOfReset, hbefore.driver] at hends
  refine hends.before (Offstage.foldl _ fun t d _ ht => disconnect_offstage ?_)
  rw [ht.rawHolder, hends.rawHolder]
  exact nofun

/-- When the server closes, the client with the device is one of those whose connections end. -/
theorem shutdown_dealing (hc : s.client? c.id = some c) (h : s.rawHolder = some c.id) :
    Dealing s s.shutdown [.reset] s.restartsOfReset none := by
  obtain ⟨-, before, after, hclients, hbefore⟩ := List.find?_eq_some_iff_append.1 hc
  have hne : ∀ d ∈ before, d.id ≠ c.id := fun d hd => by simpa using hbefore d hd
  have hends := foldl_disconnect_dealing
    (s := ({ s with closed := true } : Server σ).note (.closingAll s.clients.length)) hc h after hne
  rw [← hclients] at hends
  exact hends.after (closed_offstage s _)

end driver

end Server

end BrailleShare
