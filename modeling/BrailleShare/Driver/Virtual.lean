import BrailleShare.Driver

/-!
# The virtual display

A driver without a device. It keeps the last window it was given and writes to the log each window
that differs from the one before; it has no keys, no status cells and no raw mode.
-/

namespace BrailleShare

/-- A display that exists in the log alone. -/
structure VirtualDisplay where
  size : DisplaySize
  /-- The window it was given last. -/
  contents : Octets
  deriving DecidableEq, Repr

namespace VirtualDisplay

/-- A display that has been given no window yet. -/
def new (size : DisplaySize) : VirtualDisplay :=
  ⟨size, []⟩

/-- The short name of the driver. -/
def code : String := "vr"

/-- Keeps a window, and tells the log if it is another than before. -/
def put (d : VirtualDisplay) (cells : Octets) : DriverAnswer VirtualDisplay Unit :=
  if cells = d.contents then .ok d ()
  else ⟨.ok (), { d with contents := cells }, [.windowShown cells]⟩

instance : Driver VirtualDisplay where
  info d := ⟨code, "Virtual", d.size, false, false⟩
  writeWindow := VirtualDisplay.put
  writeStatus := Driver.Plain.writeStatus
  readCommand := Driver.Plain.readNothing
  readKey := Driver.Plain.readNothing
  commandOfKey _ _ := Command.none
  writePacket d _ := Driver.Plain.unsupported code d
  readPacket := Driver.Plain.unsupported code
  reset d := .ok { d with contents := [] } ()

end VirtualDisplay

end BrailleShare
