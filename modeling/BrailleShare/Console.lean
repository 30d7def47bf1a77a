import BrailleShare.Text.Blank
import BrailleShare.Text.Numeral

/-!
# The host's console

Where the host says which console it shows: a file that holds the name of the console. A file that
cannot be read or holds anything else means a console that was fixed beforehand. A request to
restart the driver is remembered until it is asked for.
-/

namespace BrailleShare

namespace Console

/-- The file in which the system keeps the name of the active console. -/
def activeFile : String := "/sys/class/tty/tty0/active"

/-- The number of a console by its name, blanks around it aside. -/
def number? (name : List Char) : Option UInt32 :=
  match Text.trim name with
  | 't' :: 't' :: 'y' :: digits => (Text.numeral? 4294967295 digits).map UInt32.ofNat
  | _ => none

/-- The active console: what the file says, or the one fixed beforehand. -/
def active (fallback : UInt32) (file : Option (List Char)) : UInt32 :=
  (file.bind number?).getD fallback

end Console

/-- Whether a restart of the driver has been asked for since it was last looked at. -/
structure RestartFlag where
  raised : Bool
  deriving DecidableEq, Repr

namespace RestartFlag

/-- Asks for a restart. -/
def raise (_f : RestartFlag) : RestartFlag :=
  ⟨true⟩

/-- Tells whether a restart was asked for, and forgets it. -/
def take (f : RestartFlag) : Bool × RestartFlag :=
  (f.raised, ⟨false⟩)

end RestartFlag

end BrailleShare
