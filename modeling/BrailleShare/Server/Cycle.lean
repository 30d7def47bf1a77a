import BrailleShare.Server.Precedence

/-!
# The output cycle

Time and again the host asks for a command. The server then brings the display up to date and reads
one event from the driver: if a client takes it, the host gets no command, otherwise it gets this
one. While a client has the device to itself nothing of that happens, and what the device sends goes
to that client. The host's own output reaches the device only while no client is shown.
-/

namespace BrailleShare.Server

variable {σ : Type} [Driver σ]

/-! ## The display -/

/-- Gives a window to the driver. -/
def writeWindow (s : Server σ) (cells : Octets) : Except DriverError Unit × Server σ :=
  let a := Driver.writeWindow s.driver cells
  (a.outcome, s.called (.writeWindow cells) a)

/-- Writes a client's window if another was written last or the content has changed since. It counts
as displayed from then on, before the driver has been asked. -/
def showWindow (s : Server σ) (id : ClientId) (h : Holding) : Except DriverError Unit × Server σ :=
  let changed := decide (s.lastShown ≠ some id)
  let s := { s with lastShown := some id }
  if h.freshness = .pending ∨ changed then
    let s := s.setHolding id (some { h with freshness := .displayed })
    let s := if changed then s.note (.ownerChanged id) else s
    s.writeWindow (h.window.render s.table)
  else (.ok (), s)

/-- Brings the display up to date if a client is to be shown. -/
def updateDisplay (s : Server σ) : Except DriverError Unit × Server σ :=
  match s.shownClient with
  | none => (.ok (), s)
  | some id =>
    match s.holding? id with
    | none => (.ok (), s)
    | some h => s.showWindow id h

/-! ## Events -/

/-- A key event: the command, and the keycode if the driver reports keycodes. -/
structure KeyEvent where
  command : UInt32
  keycode : Option UInt32
  deriving DecidableEq, Repr

/-- Reads the next event from the driver. -/
def readEvent (s : Server σ) : Except DriverError (Option KeyEvent) × Server σ :=
  if s.info.keycodes then
    let a := Driver.readKey s.driver
    let t := s.called .readKey a
    (a.outcome.map (·.map fun k => ⟨Driver.commandOfKey t.driver k, some k⟩), t)
  else
    let a := Driver.readCommand s.driver
    (a.outcome.map (·.map fun command => ⟨command, none⟩), s.called .readCommand a)

/-- What a client in a given mode receives of an event. -/
def KeyEvent.value (e : KeyEvent) : KeyMode → UInt32
  | .commands => e.command
  | .keycodes => e.keycode.getD e.command

/-- Sends an event to the client that takes it. A client that wants commands is not bothered with no
command at all. Gives what is left for the host. -/
def deliver (s : Server σ) (e : KeyEvent) : UInt32 × Server σ :=
  match s.keyTaker e.command e.keycode with
  | none => (e.command, s)
  | some id =>
    match s.holding? id with
    | none => (e.command, s)
    | some h =>
      if h.mode = .commands ∧ e.command = Command.none then (Command.none, s)
      else
        let value := e.value h.mode
        (Command.none, (s.note (.keyDelivered id value)).send id (.key value))

/-- Passes on what the device sends to the client that has it. -/
def forwardRaw (s : Server σ) (owner : ClientId) : Server σ :=
  match s.client? owner with
  | none => s
  | some c =>
    let a := Driver.readPacket s.driver
    let s := s.called .readPacket a
    match a.outcome with
    | .ok none => s
    | .ok (some data) => s.send c.id (.raw data)
    | .error e =>
      (s.note (.rawReadFailed c.id e)).send c.id
        (.exception .driverError ⟨PacketKind.packet.code, []⟩)

/-! ## The cycle -/

/-- Reads an event and gives the host what no client takes. -/
def nextCommand (s : Server σ) : Except DriverError (Option UInt32) × Server σ :=
  match s.readEvent with
  | (.error e, s) => (.error e, s)
  | (.ok none, s) => (.ok none, s)
  | (.ok (some e), s) =>
    let r := s.deliver e
    (.ok (some r.1), r.2)

/-- One cycle: the display, then one event. Gives the command that is left for the host. -/
def cycle (s : Server σ) : Except DriverError (Option UInt32) × Server σ :=
  let s := s.syncConsole
  match s.rawHolder with
  | some owner => (.ok none, s.forwardRaw owner)
  | none =>
    match s.updateDisplay with
    | (.error e, s) => (.error e, s)
    | (.ok _, s) => s.nextCommand

/-! ## The host's own output -/

/-- Shows a window of the host while no client is shown. The next client to be shown is written
whatever it has. -/
def hostWindow (s : Server σ) (cells : Octets) : Except DriverError Unit × Server σ :=
  if s.rawHolder.isSome then (.ok (), s)
  else
    let s := s.syncConsole
    if s.shownClient.isSome then (.ok (), s)
    else ({ s with lastShown := none } : Server σ).writeWindow cells

/-- Shows the host's status cells while no client has the device to itself. -/
def hostStatus (s : Server σ) (cells : Octets) : Except DriverError Unit × Server σ :=
  if s.rawHolder.isSome then (.ok (), s)
  else
    let a := Driver.writeStatus s.driver cells
    (a.outcome, s.called (.writeStatus cells) a)

/-- Resets the device for the host. -/
def hostReset (s : Server σ) : Except DriverError Unit × Server σ :=
  let a := Driver.reset s.driver
  (a.outcome, s.called .reset a)

/-- What the host sees of the driver: it may ask for the display alone, neither for keycodes nor for
raw packets. -/
def hostInfo (s : Server σ) : DriverInfo :=
  { s.info with raw := false, keycodes := false }

end BrailleShare.Server
