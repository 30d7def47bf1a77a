import BrailleShare.Notice

/-!
# Drivers

A driver speaks to the device. To the server it is a state `σ` with the calls of the class
`Driver`; what a call does to the device is the new state, and what comes back is an answer or a
failure. Nothing is assumed of a driver beyond that: it may refuse any call at any time.

The functions under `Driver.Plain` are what a driver answers that has nothing of its own to say to
a call.
-/

namespace BrailleShare

/-- What came of a call to a driver. -/
structure DriverAnswer (σ α : Type) where
  outcome : Except DriverError α
  driver : σ
  /-- What the driver has written to the log. -/
  notices : List Notice

/-- The calls a server makes to its driver. -/
class Driver (σ : Type) where
  info : σ → DriverInfo
  /-- Shows one dot pattern per cell. -/
  writeWindow : σ → Octets → DriverAnswer σ Unit
  /-- Shows the status cells, if the device has any. -/
  writeStatus : σ → Octets → DriverAnswer σ Unit
  /-- The next command, if a key was pressed. -/
  readCommand : σ → DriverAnswer σ (Option UInt32)
  /-- The next keycode, if a key was pressed. -/
  readKey : σ → DriverAnswer σ (Option UInt32)
  /-- The command that a keycode stands for. -/
  commandOfKey : σ → UInt32 → UInt32
  /-- Sends octets to the device as they are. -/
  writePacket : σ → Octets → DriverAnswer σ Unit
  /-- Octets from the device as they are, if any are waiting. -/
  readPacket : σ → DriverAnswer σ (Option Octets)
  /-- Brings the device back to a known state. -/
  reset : σ → DriverAnswer σ Unit

namespace DriverAnswer

variable {σ τ α : Type}

/-- An answer without a word in the log. -/
def ok (driver : σ) (a : α) : DriverAnswer σ α :=
  ⟨.ok a, driver, []⟩

/-- A failure that leaves the driver as it was. -/
def fail (driver : σ) (e : DriverError) : DriverAnswer σ α :=
  ⟨.error e, driver, []⟩

/-- The answer of a part of a driver. -/
def lift (f : σ → τ) (a : DriverAnswer σ α) : DriverAnswer τ α :=
  ⟨a.outcome, f a.driver, a.notices⟩

end DriverAnswer

namespace Driver.Plain

variable {σ : Type}

/-- Status cells that the device does not have are ignored. -/
def writeStatus (d : σ) (_cells : Octets) : DriverAnswer σ Unit :=
  .ok d ()

/-- No key is ever pressed. -/
def readNothing {α : Type} (d : σ) : DriverAnswer σ (Option α) :=
  .ok d none

/-- A call that the driver of the given code does not know. -/
def unsupported {α : Type} (code : String) (d : σ) : DriverAnswer σ α :=
  .fail d (.unsupported code)

end Driver.Plain

/-- The calls that reach a driver, as a record of what was done to the device. -/
inductive DeviceCall where
  | writeWindow (cells : Octets)
  | writeStatus (cells : Octets)
  | readCommand
  | readKey
  | writePacket (data : Octets)
  | readPacket
  | reset
  deriving DecidableEq, Repr

end BrailleShare
