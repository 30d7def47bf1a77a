import BrailleShare.Key
import BrailleShare.Tty
import BrailleShare.Window

/-!
# Clients

What a server knows of a connection. Only a client that has taken a tty has a window, a mask and a
mode, so the four are kept together as its *holding*; a client that leaves its tty keeps none of
them.
-/

namespace BrailleShare

/-- What a connection is known by. Ids are never used twice. -/
structure ClientId where
  val : Nat
  deriving DecidableEq, Repr

/-- A connection's id in a log line. -/
def ClientId.text (id : ClientId) : String :=
  s!"#{id.val}"

/-- What a client has while it holds a tty. -/
structure Holding where
  tty : TtyId
  mode : KeyMode
  /-- The values that the client wants to receive. -/
  mask : RangeSet
  window : Window
  freshness : Freshness
  deriving DecidableEq, Repr

/-- A connection. -/
structure Client where
  id : ClientId
  /-- The other end, for log lines. -/
  peer : String
  /-- When the connection was made. -/
  since : Nat
  /-- Whether the client has shown the key. -/
  loggedIn : Bool
  holding : Option Holding
  deriving DecidableEq, Repr

namespace Client

/-- The client has content that wants to be shown. -/
def hasContent (c : Client) : Bool :=
  match c.holding with
  | some h => h.freshness != .empty
  | none => false

/-- The client takes a key event. -/
def accepts (c : Client) (command : UInt32) (keycode : Option UInt32) : Bool :=
  match c.holding with
  | some h => h.mode.accepts h.mask command keycode
  | none => false

end Client

end BrailleShare
