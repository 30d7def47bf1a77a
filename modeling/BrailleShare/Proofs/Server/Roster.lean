import BrailleShare.Proofs.Server.Isolation
import BrailleShare.Proofs.Server.Login

/-!
# The roster

Who is connected, who has logged in, how many have yet to, and whether anybody is let in: this part
of a server's state, its *roster*, is a matter of coming and going alone. What an event does to it
is a list of *moves*, which the state before the event tells. Requests, the display and the device
make no moves: they stand aside (`Aside`), and that nobody is let in because too many wait is no
matter of theirs either.

Main statement: the roster after an event is what the moves of the event make of the roster before
it (`roster_step`). This holds in any state, whether or not the count is the right one.
-/

namespace BrailleShare

/-! ### Rosters -/

/-- What a server keeps of its connections for those who come and go. -/
structure Roster where
  settings : Settings
  closed : Bool
  /-- The number of the next connection. -/
  next : Nat
  /-- How many connections have yet to log in, by the count that is kept. -/
  waiting : Nat
  /-- Each connection, and whether it has logged in. -/
  members : List (ClientId × Bool)
  deriving DecidableEq

/-- What becomes of a roster. -/
inductive Move where
  /-- The next connection is let in. -/
  | enter
  /-- A connection logs in. -/
  | logIn (id : ClientId)
  /-- A connection ends. -/
  | part (id : ClientId)
  /-- No connection is let in any more. -/
  | close
  deriving DecidableEq

namespace Roster

/-- Whether a connection has logged in, if it is there. -/
def flag? (r : Roster) (id : ClientId) : Option Bool :=
  (r.members.find? fun m => m.1 == id).map (·.2)

/-- The roster after a move. The count is lowered as the server lowers it, so that none stays
none. -/
def move (r : Roster) : Move → Roster
  | .enter => { r with
      next := r.next + 1
      waiting := r.waiting + 1
      members := r.members ++ [(⟨r.next⟩, false)] }
  | .logIn id => { r with
      waiting := r.waiting - 1
      members := r.members.map fun m => if m.1 = id then (m.1, true) else m }
  | .part id => { r with
      waiting := if r.flag? id = some false then r.waiting - 1 else r.waiting
      members := r.members.filter fun m => m.1 != id }
  | .close => { r with closed := true }

end Roster

/-- No warning that too many wait is among what a driver has written. -/
def DriverAnswer.Discreet {σ α : Type} (a : DriverAnswer σ α) : Prop :=
  ∀ limit, .tooManyWaiting limit ∉ a.notices

/-- A driver that writes nothing writes no warning. -/
theorem DriverAnswer.Discreet.of_quiet {σ α : Type} {a : DriverAnswer σ α} (h : a.notices = []) :
    a.Discreet := fun _ => by simp [h]

/-- A driver that leaves the warning that too many wait to the server. -/
structure Driver.Discreet (σ : Type) [Driver σ] : Prop where
  writeWindow : ∀ (d : σ) (cells : Octets), (Driver.writeWindow d cells).Discreet
  writeStatus : ∀ (d : σ) (cells : Octets), (Driver.writeStatus d cells).Discreet
  readCommand : ∀ d : σ, (Driver.readCommand d).Discreet
  readKey : ∀ d : σ, (Driver.readKey d).Discreet
  writePacket : ∀ (d : σ) (data : Octets), (Driver.writePacket d data).Discreet
  readPacket : ∀ d : σ, (Driver.readPacket d).Discreet
  reset : ∀ d : σ, (Driver.reset d).Discreet

namespace Server

variable {σ : Type} {s : Server σ} {c : Client} {p : Packet} {id : ClientId}

/-- The roster of a server. -/
def roster (s : Server σ) : Roster :=
  ⟨s.settings, s.closed, s.nextId, s.waiting, s.clients.map fun c => (c.id, c.loggedIn)⟩

/-- The roster tells whether a client is known and has logged in. -/
theorem flag?_roster (s : Server σ) (id : ClientId) :
    s.roster.flag? id = (s.client? id).map (·.loggedIn) := by
  simp only [Roster.flag?, roster, List.find?_map, Option.map_map, client?]
  rfl

/-- The moves that an event makes. -/
def moves (s : Server σ) : Event σ → List Move
  | .arrival _ _ =>
    if s.closed = false ∧ s.waiting < s.settings.maxWaiting then [.enter] else []
  | .frame id (.packet p) =>
    if s.roster.flag? id = some false ∧ p = .login s.settings.key then [.logIn id] else []
  | .departure id => [.part id]
  | .clock now | .expiry now => (s.clients.filter (s.overdue now)).map fun c => .part c.id
  | .closing => .close :: s.clients.map fun c => .part c.id
  | _ => []

/-! ### Standing aside -/

section aside

variable [Driver σ] {t u : Server σ}

/-- The second state comes from the first one without the warning that too many wait, as long as the
driver does not write it. -/
def Hushed (s t : Server σ) : Prop :=
  ∃ more, t.effects = s.effects ++ more ∧
    (Driver.Discreet σ → ∀ limit, .notice (.tooManyWaiting limit) ∉ more)

namespace Hushed

/-- No new effects are no warning. -/
theorem of_eq (h : t.effects = s.effects) : Hushed s t :=
  ⟨[], by rw [h, List.append_nil], by simp⟩

/-- What is hushed twice is hushed. -/
theorem trans (h : Hushed s t) (h' : Hushed t u) : Hushed s u := by
  obtain ⟨more, heffects, hmore⟩ := h
  obtain ⟨more', heffects', hmore'⟩ := h'
  refine ⟨more ++ more', by rw [heffects', heffects, List.append_assoc], fun hd limit hmem => ?_⟩
  exact (List.mem_append.1 hmem).elim (hmore hd limit) (hmore' hd limit)

/-- Any other line is no warning. -/
theorem note (s : Server σ) (n : Notice) (h : ∀ limit, n ≠ .tooManyWaiting limit) :
    Hushed s (s.note n) :=
  ⟨[.notice n], rfl, fun _ limit hmem =>
    h limit (Effect.notice.inj (List.mem_singleton.1 hmem)).symm⟩

/-- A call is hushed if the driver is discreet. -/
theorem called {α : Type} (s : Server σ) (call : DeviceCall) (a : DriverAnswer σ α)
    (h : Driver.Discreet σ → a.Discreet) : Hushed s (s.called call a) :=
  ⟨_, rfl, fun hd limit hmem => h hd limit (by simpa using hmem)⟩

/-- Lines of another kind. -/
theorem notes {α : Type} (line : α → Notice) (as : List α) (heffects : t.effects =
    s.effects ++ as.map fun a => .notice (line a)) (h : ∀ a limit, line a ≠ .tooManyWaiting limit) :
    Hushed s t :=
  ⟨_, heffects, fun _ limit hmem => by
    obtain ⟨a, -, ha⟩ := List.mem_map.1 hmem
    exact h a limit (Effect.notice.inj ha)⟩

end Hushed

/-- Those who come and go have no part in what leads to the second state: the roster is what it was,
nothing has been noted, and there has been no warning. -/
structure Aside (s t : Server σ) : Prop where
  roster : t.roster = s.roster
  noted : t.refusalNoted = s.refusalNoted
  hushed : Hushed s t

namespace Aside

/-- Those who come and go have no part where the roster, the note and the effects are the same. -/
theorem of_eq (hroster : t.roster = s.roster) (hnoted : t.refusalNoted = s.refusalNoted)
    (heffects : t.effects = s.effects) : Aside s t :=
  ⟨hroster, hnoted, .of_eq heffects⟩

/-- They have no part where nothing happens. -/
theorem refl (s : Server σ) : Aside s s :=
  .of_eq rfl rfl rfl

/-- They have no part in two steps if they have none in either. -/
theorem trans (h : Aside s t) (h' : Aside t u) : Aside s u :=
  ⟨h'.roster.trans h.roster, h'.noted.trans h.noted, h.hushed.trans h'.hushed⟩

/-- They have no part in any other line. -/
theorem note (s : Server σ) (n : Notice) (h : ∀ limit, n ≠ .tooManyWaiting limit) :
    Aside s (s.note n) :=
  ⟨rfl, rfl, .note s n h⟩

/-- They have no part in a packet that is queued. -/
theorem send (s : Server σ) (id : ClientId) (p : Packet) : Aside s (s.send id p) :=
  ⟨rfl, rfl, [.packet id p], rfl, by simp⟩

/-- They have no part in a request for a restart. -/
theorem restart (s : Server σ) : Aside s (s.emit .restart) :=
  ⟨rfl, rfl, [.restart], rfl, by simp⟩

/-- They have no part in a call, if the driver is discreet. -/
theorem called {α : Type} (s : Server σ) (call : DeviceCall) (a : DriverAnswer σ α)
    (h : Driver.Discreet σ → a.Discreet) : Aside s (s.called call a) :=
  ⟨rfl, rfl, .called s call a h⟩

/-- What a client holds is its own affair. -/
theorem setHolding (s : Server σ) (id : ClientId) (h : Option Holding) :
    Aside s (s.setHolding id h) := by
  have hmembers : (s.setHolding id h).clients.map (fun c => (c.id, c.loggedIn)) =
      s.clients.map fun c => (c.id, c.loggedIn) := by
    simp only [Server.setHolding, modifyClient, List.map_map]
    refine List.map_congr_left fun c _ => ?_
    by_cases hc : c.id = id <;> simp [hc]
  refine .of_eq ?_ rfl rfl
  simp only [Server.roster, hmembers]
  rfl

/-- They have no part in a change of the tree. -/
theorem withTree (s : Server σ) (tree : TtyTree ClientId) : Aside s { s with tree } :=
  .of_eq rfl rfl rfl

/-- They have no part in forgetting the last writer. -/
theorem forgetShown (s : Server σ) (id : ClientId) : Aside s (s.forgetShown id) := by
  rw [forgetShown_eq]
  exact .of_eq rfl rfl rfl

/-- They have no part in the lines about ttys that were made. -/
theorem noteMade (s : Server σ) (made : List (UInt32 × TtyId)) : Aside s (s.noteMade made) := by
  rw [noteMade_eq]
  exact ⟨rfl, rfl, .notes (fun m : UInt32 × TtyId => .ttyMade m.1 m.2) made rfl (by simp)⟩

/-- They have no part in clearing a tty. -/
theorem clearTty (s : Server σ) (tty : TtyId) : Aside s (s.clearTty tty).1 := by
  rw [clearTty_eq]
  exact ⟨rfl, rfl, .notes (fun m : UInt32 × TtyId => .ttyFreed m.1 m.2) (s.tree.collect tty).2 rfl
    (by simp)⟩

/-- They have no part in following the console. -/
theorem syncConsole (s : Server σ) : Aside s s.syncConsole := by
  unfold Server.syncConsole
  split
  · exact .refl s
  · exact (Aside.note s _ (by simp)).trans (.withTree _ _)

end Aside

/-- A request makes no moves. -/
abbrev Outcome.Seated (s : Server σ) (o : Outcome σ) : Prop :=
  Aside s o.server

/-- An acknowledgement has no part in who comes and goes. -/
theorem acknowledge_seated (h : Aside s t) (id : ClientId) : (t.acknowledge id).Seated s :=
  h.trans (.send ..)

/-- A request for facts has no part in who comes and goes. -/
theorem tell_seated (s : Server σ) (c : Client) (payload : Octets) (answer : Packet) :
    (s.tell c payload answer).Seated s := by
  unfold tell
  split
  · exact .refl s
  · split
    · exact .refl s
    · exact .send ..

/-- What depends on the tty of a client has none if it has none for any tty. -/
theorem withHolding_seated {f : Holding → Outcome σ} (hf : ∀ h, (f h).Seated s) :
    (s.withHolding c f).Seated s := by
  unfold withHolding
  split
  · exact .refl s
  · split
    · exact .refl s
    · exact hf _

/-- Seating a client has no part in who comes and goes. -/
theorem seatClient_seated (s : Server σ) (c : Client) (tty : TtyId) (path : List UInt32)
    (mode : KeyMode) : (s.seatClient c tty path mode).Seated s := by
  unfold seatClient
  split
  · exact .clearTty s tty
  · exact acknowledge_seated ((Aside.withTree s _).trans
      ((Aside.setHolding ..).trans (.note _ _ (by simp)))) c.id

/-- A request for a tty has no part in who comes and goes. -/
theorem takeTty_seated (s : Server σ) (c : Client) (payload : Octets) :
    (s.takeTty c payload).Seated s := by
  have hallot := takeTty_allotment s c payload
  generalize s.takeTty c payload = o at hallot ⊢
  cases hallot with
  | refused code => exact .refl s
  | crowded made e =>
    exact (Aside.withTree s _).trans ((Aside.noteMade _ made).trans (.note _ _ (by simp)))
  | seated mode made =>
    exact (Aside.withTree s _).trans ((Aside.noteMade _ made).trans (seatClient_seated ..))

/-- A change of focus has no part in who comes and goes. -/
theorem focusChild_seated (s : Server σ) (c : Client) (payload : Octets) :
    (s.focusChild c payload).Seated s := by
  apply withHolding_seated
  intro h
  split
  · exact .refl s
  · split
    · exact .refl s
    · exact .withTree s _

/-- Giving a tty back has no part in who comes and goes. -/
theorem returnTty_seated (s : Server σ) (c : Client) : (s.returnTty c).Seated s := by
  apply withHolding_seated
  intro h
  split
  · exact .refl s
  · rename_i tree _
    have hleft := (Aside.withTree s tree).trans (.setHolding _ c.id none)
    exact acknowledge_seated (hleft.trans ((Aside.clearTty ..).trans
      ((Aside.note _ _ (by simp)).trans (.forgetShown ..)))) c.id

/-- A new mask has no part in who comes and goes. -/
theorem putMask_seated (s : Server σ) (c : Client) (h : Holding) (mask : RangeSet) :
    (s.putMask c h mask).Seated s :=
  acknowledge_seated (.setHolding ..) c.id

/-- A change of a range of keys has no part in who comes and goes. -/
theorem changeRange_seated (s : Server σ) (c : Client) (payload : Octets) (change : MaskEdit) :
    (s.changeRange c payload change).Seated s := by
  apply withHolding_seated
  intro h
  split
  · exact .refl s
  · split
    · exact .refl s
    · exact putMask_seated ..

/-- A change of a set of keys has no part in who comes and goes. -/
theorem changeSet_seated (s : Server σ) (c : Client) (payload : Octets) (change : MaskEdit) :
    (s.changeSet c payload change).Seated s := by
  apply withHolding_seated
  intro h
  split
  · exact .refl s
  · exact putMask_seated ..

/-- A request to write has no part in who comes and goes. -/
theorem write_seated (s : Server σ) (c : Client) (payload : Octets) :
    (s.write c payload).Seated s := by
  unfold write
  split
  · exact .refl s
  · apply withHolding_seated
    intro h
    split
    · exact .refl s
    · exact .setHolding ..
    · exact .setHolding ..

/-- A request for the device has no part in who comes and goes. -/
theorem takeRaw_seated (s : Server σ) (c : Client) (payload : Octets) :
    (s.takeRaw c payload).Seated s := by
  unfold takeRaw
  split
  · exact .refl s
  · split
    · exact .refl s
    · split
      · exact .refl s
      · split
        · exact .note _ _ (by simp)
        · have hraw : Aside s { s with rawHolder := some c.id } := .of_eq rfl rfl rfl
          exact acknowledge_seated (hraw.trans (.note _ _ (by simp))) c.id

/-- Giving the device back has no part in who comes and goes. -/
theorem returnRaw_seated (s : Server σ) (c : Client) : (s.returnRaw c).Seated s := by
  unfold returnRaw
  split
  · have hraw : Aside s { s with rawHolder := none } := .of_eq rfl rfl rfl
    exact acknowledge_seated (hraw.trans (.note _ _ (by simp))) c.id
  · exact .refl s

/-- Octets for the device have no part in who comes and goes. -/
theorem passRaw_seated (s : Server σ) (c : Client) (payload : Octets) :
    (s.passRaw c payload).Seated s := by
  have hcalled : Aside s (s.called (.writePacket payload) (Driver.writePacket s.driver payload)) :=
    .called _ _ _ fun hd => hd.writePacket _ _
  unfold passRaw
  split
  · dsimp only
    split
    · exact hcalled
    · exact hcalled.trans (.note _ _ (by simp))
  · exact .refl s

/-- No request makes a move. -/
theorem carryOut_seated (s : Server σ) (c : Client) (p : Packet) : (s.carryOut c p).Seated s := by
  unfold carryOut
  split
  · exact tell_seated ..
  · exact tell_seated ..
  · exact tell_seated ..
  · exact takeTty_seated ..
  · exact focusChild_seated ..
  · exact returnTty_seated ..
  · exact changeRange_seated ..
  · exact changeRange_seated ..
  · exact changeSet_seated ..
  · exact changeSet_seated ..
  · exact write_seated ..
  · exact takeRaw_seated ..
  · exact returnRaw_seated ..
  · exact passRaw_seated ..
  · exact .refl s

/-- No answer to a request has a part in who comes and goes. -/
theorem answer_aside (s : Server σ) (c : Client) (p : Packet) : Aside s (s.answer c p) := by
  have hcarry := carryOut_seated s c p
  unfold answer
  dsimp only
  split
  · exact hcarry
  · exact hcarry.trans ((Aside.note _ _ (by simp)).trans (.send ..))

/-- Delivering a key has no part in who comes and goes. -/
theorem deliver_aside (s : Server σ) (e : KeyEvent) : Aside s (s.deliver e).2 := by
  unfold deliver
  split
  · exact .refl s
  · split
    · exact .refl s
    · split
      · exact .refl s
      · exact (Aside.note s _ (by simp)).trans (.send ..)

/-- Bringing the display up to date has no part in who comes and goes. -/
theorem updateDisplay_aside (s : Server σ) : Aside s s.updateDisplay.2 := by
  unfold updateDisplay
  split
  · exact .refl s
  · rename_i id _
    have hshown : Aside s { s with lastShown := some id } := .of_eq rfl rfl rfl
    split
    · exact .refl s
    · unfold showWindow
      dsimp only
      split
      · refine hshown.trans (Aside.trans ?_ (.called _ _ _ fun hd => hd.writeWindow _ _))
        split
        · exact (Aside.setHolding ..).trans (.note _ _ (by simp))
        · exact .setHolding ..
      · exact hshown

/-- Reading an event has no part in who comes and goes. -/
theorem readEvent_aside (s : Server σ) : Aside s s.readEvent.2 := by
  unfold readEvent
  split
  · exact .called _ _ _ fun hd => hd.readKey _
  · exact .called _ _ _ fun hd => hd.readCommand _

/-- Reading an event and delivering it has no part in who comes and goes. -/
theorem nextCommand_aside (s : Server σ) : Aside s s.nextCommand.2 := by
  have hread := readEvent_aside s
  unfold nextCommand
  rcases heq : s.readEvent with ⟨e | (_ | e), t⟩ <;> rw [heq] at hread
  · exact hread
  · exact hread
  · exact hread.trans (deliver_aside t e)

/-- Reading the device for a client has no part in who comes and goes. -/
theorem forwardRaw_aside (s : Server σ) (owner : ClientId) : Aside s (s.forwardRaw owner) := by
  have hcalled : Aside s (s.called .readPacket (Driver.readPacket s.driver)) :=
    .called _ _ _ fun hd => hd.readPacket _
  unfold forwardRaw
  split
  · exact .refl s
  · dsimp only
    split
    · exact hcalled
    · exact hcalled.trans (.send ..)
    · exact hcalled.trans ((Aside.note _ _ (by simp)).trans (.send ..))

/-- No cycle makes a move. -/
theorem cycle_aside (s : Server σ) : Aside s s.cycle.2 := by
  have hsync := Aside.syncConsole s
  unfold cycle
  dsimp only
  split
  · exact hsync.trans (forwardRaw_aside ..)
  · have hupdate := hsync.trans (updateDisplay_aside s.syncConsole)
    rcases heq : s.syncConsole.updateDisplay with ⟨e | u, t⟩ <;> rw [heq] at hupdate
    · exact hupdate
    · exact hupdate.trans (nextCommand_aside t)

/-- The host's own window has no part in who comes and goes. -/
theorem hostWindow_aside (s : Server σ) (cells : Octets) : Aside s (s.hostWindow cells).2 := by
  have hsync := Aside.syncConsole s
  unfold hostWindow
  split
  · exact .refl s
  · dsimp only
    split
    · exact hsync
    · have hshown : Aside s.syncConsole { s.syncConsole with lastShown := none } :=
        .of_eq rfl rfl rfl
      exact hsync.trans (hshown.trans (.called _ _ _ fun hd => hd.writeWindow _ _))

/-- The host's status cells have no part in who comes and goes. -/
theorem hostStatus_aside (s : Server σ) (cells : Octets) : Aside s (s.hostStatus cells).2 := by
  unfold hostStatus
  split
  · exact .refl s
  · exact .called _ _ _ fun hd => hd.writeStatus _ _

/-- A reset by the host has no part in who comes and goes. -/
theorem hostReset_aside (s : Server σ) : Aside s s.hostReset.2 :=
  .called _ _ _ fun hd => hd.reset _

/-- Another driver has no part in who comes and goes. -/
theorem changeDriver_aside (s : Server σ) (driver : σ) : Aside s (s.changeDriver driver).2 := by
  unfold changeDriver
  dsimp only
  split
  · exact .refl s
  · have hdriver : Aside s { s with driver } := .of_eq rfl rfl rfl
    exact hdriver.trans (.note _ _ (by simp))

/-- A reset of the device has no part in who comes and goes. -/
theorem resetDevice_aside (s : Server σ) : Aside s s.resetDevice := by
  have hcalled : Aside s (s.called .reset (Driver.reset s.driver)) :=
    .called _ _ _ fun hd => hd.reset _
  unfold resetDevice
  dsimp only
  split
  · exact hcalled
  · exact hcalled.trans ((Aside.note _ _ (by simp)).trans
      ((Aside.note _ _ (by simp)).trans (.restart _)))

/-- Giving up a seat has no part in who comes and goes. -/
theorem unseat_aside (s : Server σ) (c : Client) : Aside s (s.unseat c) := by
  unfold unseat
  split
  · exact (Aside.withTree s _).trans ((Aside.clearTty ..).trans (.note _ _ (by simp)))
  · exact .withTree s _

end aside

/-! ### Coming -/

/-- A connection that is let in enters the roster. -/
theorem accept_roster (s : Server σ) (peer : String) (now : Nat) :
    (s.accept peer now).2.roster = (if s.closed = false ∧ s.waiting < s.settings.maxWaiting then
      s.roster.move .enter else s.roster) := by
  unfold accept
  by_cases hc : s.closed
  · simp [hc]
  · by_cases hw : s.settings.maxWaiting ≤ s.waiting
    · have hfull : ¬ (s.closed = false ∧ s.waiting < s.settings.maxWaiting) := fun h =>
        absurd h.2 (Nat.not_lt.2 hw)
      rw [if_neg hc, if_pos hw, if_neg hfull]
      dsimp only
      split <;> rfl
    · rw [if_neg hc, if_neg hw, if_pos ⟨by simpa using hc, Nat.not_le.1 hw⟩]
      simp [roster, Roster.move, note, emit]

/-- A login that succeeds is noted, and takes one from the count. -/
theorem loggedIn_roster (s : Server σ) (id : ClientId) :
    (s.modifyClient id fun c => { c with loggedIn := true }).releaseWaiting.roster =
      s.roster.move (.logIn id) := by
  have hmembers : (s.modifyClient id fun c => { c with loggedIn := true }).clients.map
        (fun c => (c.id, c.loggedIn)) =
      (s.clients.map fun c => (c.id, c.loggedIn)).map
        fun m => if m.1 = id then (m.1, true) else m := by
    simp only [modifyClient, List.map_map]
    refine List.map_congr_left fun c _ => ?_
    by_cases hc : c.id = id <;> simp [hc]
  simp only [roster, Roster.move, ← hmembers]
  rfl

/-- Connections that end one by one. -/
theorem foldl_roster {f : Server σ → Client → Server σ}
    (hf : ∀ s c, (f s c).roster = s.roster.move (.part c.id)) (cs : List Client) (s : Server σ) :
    (cs.foldl f s).roster = (cs.map fun c => Move.part c.id).foldl Roster.move s.roster := by
  induction cs generalizing s with
  | nil => rfl
  | cons c cs ih => rw [List.foldl_cons, ih, hf]; rfl

section driver

variable [Driver σ]

/-- A frame other than the proper login of a connection that has yet to log in makes no move. -/
theorem onFrame_aside (s : Server σ) (id : ClientId) (f : Frame)
    (h : ¬ (s.roster.flag? id = some false ∧ f = .packet (.login s.settings.key))) :
    Aside s (s.onFrame id f).2 := by
  rw [flag?_roster] at h
  cases hc : s.client? id with
  | none => cases f <;> simpa [onFrame, onPacket, onOversized, hc] using Aside.refl s
  | some c =>
    cases hl : c.loggedIn with
    | true =>
      cases f with
      | packet p => simpa [onFrame, onPacket, hc, hl] using answer_aside s c p
      | oversized type size =>
        simpa [onFrame, onOversized, hc, hl] using Aside.note s _ (by simp)
    | false =>
      have hf : f ≠ .packet (.login s.settings.key) := fun hf => h ⟨by simp [hc, hl], hf⟩
      obtain ⟨n, hnotice, hn⟩ := onFrame_of_waiting hc hl hf
      rw [hn]
      exact (Aside.note s n hnotice).trans (.send ..)

/-- A frame makes a move if it is the proper login of a connection that has yet to log in. -/
theorem onFrame_roster (s : Server σ) (id : ClientId) (f : Frame) :
    (s.onFrame id f).2.roster =
      if s.roster.flag? id = some false ∧ f = .packet (.login s.settings.key) then
        s.roster.move (.logIn id)
      else s.roster := by
  split
  · rename_i h
    obtain ⟨hflag, rfl⟩ := h
    rw [flag?_roster] at hflag
    obtain ⟨c, hc, hl⟩ := Option.map_eq_some_iff.1 hflag
    rw [onFrame_login hc hl]
    exact loggedIn_roster s id
  · exact (onFrame_aside s id f ‹_›).roster

/-! ### Going -/

/-- Whatever else the end of a connection does, for those who come and go the connection is struck
off. -/
theorem disconnect_aside (hc : s.client? id = some c) :
    Aside (s.strikeOff c) (s.disconnect id) := by
  have hnoted := (unseat_aside (s.strikeOff c) c).trans
    (.note _ (.disconnected id c.peer) (by simp))
  simp only [disconnect, hc]
  split
  · exact hnoted.trans ((Aside.note _ _ (by simp)).trans (resetDevice_aside _))
  · exact hnoted

/-- A connection that ends leaves the roster. -/
theorem disconnect_roster (s : Server σ) (id : ClientId) :
    (s.disconnect id).roster = s.roster.move (.part id) := by
  simp only [Roster.move, flag?_roster]
  cases hc : s.client? id with
  | none =>
    have hall : s.roster.members.filter (fun m => m.1 != id) = s.roster.members := by
      refine List.filter_eq_self.2 fun m hm => ?_
      obtain ⟨c, hmem, rfl⟩ := List.mem_map.1 hm
      simpa using List.find?_eq_none.1 hc c hmem
    simp [disconnect, hc, hall]
  | some c =>
    obtain rfl := id_of_client? hc
    rw [(disconnect_aside hc).roster, strikeOff_eq]
    simp only [roster, List.filter_map, Option.map_some, Option.some.injEq]
    cases c.loggedIn <;> rfl

/-- Connections that waited too long leave the roster one after the other. -/
theorem expire_roster (s : Server σ) (now : Nat) : (s.expire now).2.roster =
    ((s.clients.filter (s.overdue now)).map fun c => Move.part c.id).foldl Roster.move s.roster :=
  foldl_roster (f := fun s c => (s.note (.overdue c.id)).disconnect c.id)
    (fun _ c => disconnect_roster _ c.id) _ s

/-! ### Any event -/

/-- The roster after an event is what the moves of the event make of the roster before it. -/
theorem roster_step (s : Server σ) (e : Event σ) :
    (s.step e).roster = (s.moves e).foldl Roster.move s.roster := by
  cases e with
  | arrival peer now =>
    simp only [step, moves, accept_roster]
    split <;> rfl
  | frame id f =>
    rw [step, onFrame_roster]
    cases f with
    | packet p =>
      simp only [moves, Frame.packet.injEq]
      split <;> rfl
    | oversized type size => simp [moves]
  | departure id => exact disconnect_roster s id
  | clock now =>
    simp only [step, maintain]
    split
    · exact expire_roster s now
    · exact expire_roster s now
  | expiry now => exact expire_roster s now
  | closing =>
    rw [moves, List.foldl_cons]
    exact foldl_roster (fun _ c => disconnect_roster _ c.id) s.clients _
  | ownerAsked | recipientAsked => exact (Aside.syncConsole s).roster
  | cycle => exact (cycle_aside s).roster
  | hostWindow cells => exact (hostWindow_aside s cells).roster
  | hostStatus cells => exact (hostStatus_aside s cells).roster
  | replacement driver => exact (changeDriver_aside s driver).roster
  | console | hostReset | device => rfl

end driver

end Server

end BrailleShare
