import BrailleShare.Window

/-!
# Facts about drivers

What a server remembers of its driver, and the ways in which a driver fails.
-/

namespace BrailleShare

/-- The facts that answer requests about the driver. -/
structure DriverInfo where
  /-- A short name of a few letters. -/
  code : String
  /-- The full name, which clients quote to get keycodes or raw mode. -/
  name : String
  size : DisplaySize
  /-- Whether packets can be exchanged with the device. -/
  raw : Bool
  /-- Whether the driver reports keycodes. -/
  keycodes : Bool
  deriving DecidableEq, Repr

/-- Why a driver did not do what it was asked. -/
inductive DriverError where
  /-- The device did not take or give data. -/
  | io (reason : String)
  /-- The driver cannot do such a thing. -/
  | unsupported (what : String)
  deriving DecidableEq, Repr

/-- The failure in words. -/
def DriverError.message : DriverError → String
  | .io reason => s!"device I/O failed: {reason}"
  | .unsupported what => s!"operation not supported by driver {what}"

end BrailleShare
