import BrailleShare.Driver.Virtual

/-!
# Drivers for rehearsals

Three drivers that need no device. A *scripted* driver answers from queues filled beforehand and
records what it is given. A *bare* driver has only what every driver must have and leaves the rest
to `Driver.Plain`, whatever it claims to support. A *faulty* driver stands before another and
refuses the calls for which a fault is set; the driver behind it does not learn of them.
-/

namespace BrailleShare

/-! ## Scripted drivers -/

/-- A driver whose input is scripted and whose output is recorded. -/
structure ScriptedDriver where
  facts : DriverInfo
  /-- The windows it was given, the oldest first. -/
  windows : List Octets
  /-- The status cells it was given, the oldest first. -/
  status : List Octets
  /-- The packets it was given, the oldest first. -/
  packets : List Octets
  /-- The commands to come. -/
  commands : List UInt32
  /-- The keycodes to come. -/
  keys : List UInt32
  /-- The command of each keycode, the latest first. -/
  keymap : List (UInt32 × UInt32)
  /-- What reading packets will bring. -/
  rawReplies : List (Except DriverError Octets)
  /-- How often it was reset, refused resets included. -/
  resets : Nat
  /-- Whether resets are refused. -/
  refusesReset : Bool

namespace ScriptedDriver

/-- A driver with nothing in store. -/
def new (facts : DriverInfo) : ScriptedDriver :=
  ⟨facts, [], [], [], [], [], [], [], 0, false⟩

/-- A display of forty cells with every ability. -/
def papenmeier : ScriptedDriver :=
  new ⟨"pm", "Papenmeier", ⟨40, 1⟩, true, true⟩

/-- Puts a command in store. -/
def queueCommand (d : ScriptedDriver) (command : UInt32) : ScriptedDriver :=
  { d with commands := d.commands ++ [command] }

/-- Puts a key in store, which from now on stands for a command. -/
def pressKey (d : ScriptedDriver) (keycode command : UInt32) : ScriptedDriver :=
  { d with keys := d.keys ++ [keycode], keymap := (keycode, command) :: d.keymap }

/-- Puts the result of a packet read in store. -/
def queueRaw (d : ScriptedDriver) (r : Except DriverError Octets) : ScriptedDriver :=
  { d with rawReplies := d.rawReplies ++ [r] }

/-- The command of a keycode, or none. -/
def commandOf (d : ScriptedDriver) (keycode : UInt32) : UInt32 :=
  ((d.keymap.find? fun p => p.1 == keycode).map (·.2)).getD Command.none

/-- The next packet in store. -/
def nextRaw (d : ScriptedDriver) : DriverAnswer ScriptedDriver (Option Octets) :=
  match d.rawReplies with
  | [] => .ok d none
  | .ok data :: rest => .ok { d with rawReplies := rest } (some data)
  | .error e :: rest => .fail { d with rawReplies := rest } e

/-- Counts a reset and grants or refuses it. -/
def resetOnce (d : ScriptedDriver) : DriverAnswer ScriptedDriver Unit :=
  let d := { d with resets := d.resets + 1 }
  if d.refusesReset then .fail d (.io "reset refused") else .ok d ()

instance : Driver ScriptedDriver where
  info d := d.facts
  writeWindow d cells := .ok { d with windows := d.windows ++ [cells] } ()
  writeStatus d cells := .ok { d with status := d.status ++ [cells] } ()
  readCommand d := .ok { d with commands := d.commands.tail } d.commands.head?
  readKey d := .ok { d with keys := d.keys.tail } d.keys.head?
  commandOfKey := commandOf
  writePacket d data := .ok { d with packets := d.packets ++ [data] } ()
  readPacket := nextRaw
  reset := resetOnce

end ScriptedDriver

/-! ## Bare drivers -/

/-- A driver that shows windows and does nothing else. -/
structure BareDriver where
  facts : DriverInfo
  deriving DecidableEq, Repr

instance : Driver BareDriver where
  info d := d.facts
  writeWindow d _ := .ok d ()
  writeStatus := Driver.Plain.writeStatus
  readCommand := Driver.Plain.readNothing
  readKey := Driver.Plain.readNothing
  commandOfKey _ _ := Command.none
  writePacket d _ := Driver.Plain.unsupported d.facts.code d
  readPacket d := Driver.Plain.unsupported d.facts.code d
  reset d := Driver.Plain.unsupported d.facts.code d

/-! ## Faulty drivers -/

/-- The calls that a fault can stop. -/
inductive CallName where
  | writeWindow
  | writeStatus
  | readCommand
  | readKey
  | writePacket
  | readPacket
  | reset
  deriving DecidableEq, Repr

/-- A driver with faults before it. -/
structure FaultyDriver (σ : Type) where
  inner : σ
  /-- The failure of each call that is stopped, the latest first. -/
  faults : List (CallName × DriverError)

namespace FaultyDriver

variable {σ α : Type}

/-- Lets a call fail from now on. -/
def setFault (d : FaultyDriver σ) (call : CallName) (e : DriverError) : FaultyDriver σ :=
  { d with faults := (call, e) :: d.faults }

/-- Lets a call through again. -/
def clearFault (d : FaultyDriver σ) (call : CallName) : FaultyDriver σ :=
  { d with faults := d.faults.filter fun f => f.1 != call }

/-- Makes a call unless a fault stops it. -/
def attempt (d : FaultyDriver σ) (call : CallName) (f : σ → DriverAnswer σ α) :
    DriverAnswer (FaultyDriver σ) α :=
  match d.faults.find? fun x => x.1 == call with
  | some (_, e) => .fail d e
  | none => (f d.inner).lift fun inner => { d with inner }

instance [Driver σ] : Driver (FaultyDriver σ) where
  info d := Driver.info d.inner
  writeWindow d cells := d.attempt .writeWindow (Driver.writeWindow · cells)
  writeStatus d cells := d.attempt .writeStatus (Driver.writeStatus · cells)
  readCommand d := d.attempt .readCommand Driver.readCommand
  readKey d := d.attempt .readKey Driver.readKey
  commandOfKey d keycode := Driver.commandOfKey d.inner keycode
  writePacket d data := d.attempt .writePacket (Driver.writePacket · data)
  readPacket d := d.attempt .readPacket Driver.readPacket
  reset d := d.attempt .reset Driver.reset

end FaultyDriver

/-! ## One of several -/

/-- A driver of any kind that a rehearsal can use. -/
inductive RehearsalDriver where
  | scripted (d : ScriptedDriver)
  | virtual (d : VirtualDisplay)
  | bare (d : BareDriver)

namespace RehearsalDriver

/-- Makes a call to whichever driver it is. -/
def each {α : Type} (s : ScriptedDriver → DriverAnswer ScriptedDriver α)
    (v : VirtualDisplay → DriverAnswer VirtualDisplay α)
    (b : BareDriver → DriverAnswer BareDriver α) :
    RehearsalDriver → DriverAnswer RehearsalDriver α
  | scripted d => (s d).lift scripted
  | virtual d => (v d).lift virtual
  | bare d => (b d).lift bare

/-- Changes a scripted driver; any other stays as it is. -/
def script (d : RehearsalDriver) (f : ScriptedDriver → ScriptedDriver) : RehearsalDriver :=
  match d with
  | scripted s => scripted (f s)
  | d => d

instance : Driver RehearsalDriver where
  info
    | scripted d => Driver.info d
    | virtual d => Driver.info d
    | bare d => Driver.info d
  writeWindow d cells :=
    d.each (Driver.writeWindow · cells) (Driver.writeWindow · cells) (Driver.writeWindow · cells)
  writeStatus d cells :=
    d.each (Driver.writeStatus · cells) (Driver.writeStatus · cells) (Driver.writeStatus · cells)
  readCommand := each Driver.readCommand Driver.readCommand Driver.readCommand
  readKey := each Driver.readKey Driver.readKey Driver.readKey
  commandOfKey
    | scripted d => Driver.commandOfKey d
    | virtual d => Driver.commandOfKey d
    | bare d => Driver.commandOfKey d
  writePacket d data :=
    d.each (Driver.writePacket · data) (Driver.writePacket · data) (Driver.writePacket · data)
  readPacket := each Driver.readPacket Driver.readPacket Driver.readPacket
  reset := each Driver.reset Driver.reset Driver.reset

end RehearsalDriver

end BrailleShare
