import BrailleShare.RangeSet

/-!
# Keys and what clients receive of them

A key event is a command, 32 bits of which the low 16 name the command and the next 8 are flags.
A driver may report the device's own keycode with it. A client asks for commands or for keycodes
when it takes a tty, and keeps a mask: the set of values that it wants to receive.
-/

namespace BrailleShare

/-! ## Commands -/

namespace Command

/-- No command. -/
def none : UInt32 := 0

/-- Go to the previous console. -/
def previousConsole : UInt32 := 63

/-- Go to the next console. -/
def nextConsole : UInt32 := 64

/-- Bring the cursor to a line. -/
def cursorToLine : UInt32 := 65

/-- Insert the clipboard. -/
def paste : UInt32 := 66

/-- Restart the braille driver. -/
def restartBraille : UInt32 := 67

/-- Restart the speech driver. -/
def restartSpeech : UInt32 := 68

/-- Go to the console whose number is in the argument bits. -/
def switchConsole : UInt32 := 0x600

/-- The bits of a command that are its argument. -/
def argumentMask : UInt32 := 0xFF

/-- The bits of a command that name its block. -/
def blockMask : UInt32 := 0xFF00

/-- The bits of a command that are flags. -/
def flagMask : UInt32 := 0xFF0000

/-- The bits that name a command, flags apart. -/
def nameMask : UInt32 := 0xFFFF

/-- The greatest value that names a command. -/
def greatest : UInt32 := 0xFFFF

end Command

/-! ## Delivery -/

/-- What a client receives of a key event. -/
inductive KeyMode where
  /-- The command, the same for every driver. -/
  | commands
  /-- The keycode of the driver that the client named. -/
  | keycodes
  deriving DecidableEq, Repr

namespace KeyMode

/-- The mode that a client asks for by name. No name means commands; the name of the driver means
keycodes, provided that the driver reports them. -/
def ofName? (name driver : String) (reportsKeycodes : Bool) : Option KeyMode :=
  if name = "" then some .commands
  else if reportsKeycodes ∧ name = driver then some .keycodes
  else none

/-- What a client wants before it says anything: every command but those that change the console
or restart a driver, which stay with the server; no keycode at all. -/
def defaultMask : KeyMode → RangeSet
  | .commands =>
    RangeSet.empty.insert ⟨0, Command.greatest⟩
      |>.erase ⟨Command.previousConsole, Command.nextConsole⟩
      |>.erase ⟨Command.restartBraille, Command.restartSpeech⟩
      |>.erase ⟨Command.switchConsole, Command.switchConsole ||| Command.argumentMask⟩
  | .keycodes => .empty

/-- The value that is looked up in the mask for an event: the command without its flags, or the
keycode. -/
def maskValue (mode : KeyMode) (command keycode : UInt32) : UInt32 :=
  match mode with
  | .commands => command &&& Command.nameMask
  | .keycodes => keycode

/-- A client in this mode with this mask takes the event. Without a keycode no client in keycodes
mode does. -/
def accepts (mode : KeyMode) (mask : RangeSet) (command : UInt32) (keycode : Option UInt32) :
    Bool :=
  match mode, keycode with
  | .keycodes, none => false
  | mode, keycode => mask.contains (mode.maskValue command (keycode.getD 0))

end KeyMode

end BrailleShare
