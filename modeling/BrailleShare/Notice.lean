import BrailleShare.Client
import BrailleShare.Driver.Info
import BrailleShare.Request.Reader
import BrailleShare.Text.Line
import BrailleShare.Text.Tame

/-!
# Notices

What a server writes to its log: one constructor for each thing worth a line, with what the line
says about it. A line is a message followed by fields.
-/

namespace BrailleShare

/-- How much a notice matters. -/
inductive Level where
  | error
  | warn
  | info
  | debug
  | trace
  deriving DecidableEq, Repr

namespace Level

/-- The level at the head of a line. -/
def text : Level → String
  | error => "ERROR"
  | warn => "WARN"
  | info => "INFO"
  | debug => "DEBUG"
  | trace => "TRACE"

/-- The lower, the more it matters. -/
def rank : Level → Nat
  | error => 0
  | warn => 1
  | info => 2
  | debug => 3
  | trace => 4

/-- The level with a given name. -/
def ofName? : String → Option Level
  | "error" => some error
  | "warn" => some warn
  | "info" => some info
  | "debug" => some debug
  | "trace" => some trace
  | _ => none

end Level

/-- Why a connection was not let in. -/
inductive AdmissionError where
  /-- So many connections have yet to log in that no other may. -/
  | tooManyWaiting (limit : Nat)
  /-- The server is shutting down. -/
  | shuttingDown
  deriving DecidableEq, Repr

/-- The reason in words. -/
def AdmissionError.message : AdmissionError → String
  | .tooManyWaiting limit => s!"too many unauthenticated connections (limit {limit})"
  | .shuttingDown => "server is shutting down"

/-- Something worth a line in the log. -/
inductive Notice where
  | driverAttached (info : DriverInfo)
  | driverReplaced
  | accepted (id : ClientId) (peer : String)
  | tooManyWaiting (limit : Nat)
  | disconnected (id : ClientId) (peer : String)
  | rawModeAbandoned (id : ClientId)
  | resetFailed (e : DriverError)
  | restartRequested
  | overdue (id : ClientId)
  | expired (count : Nat)
  | closingAll (count : Nat)
  | notALogin (id : ClientId) (type : UInt32)
  | malformedLogin (id : ClientId) (e : RequestError)
  | wrongVersion (id : ClientId) (version : UInt32)
  | wrongKey (id : ClientId)
  | loggedIn (id : ClientId)
  | requestFailed (id : ClientId) (type : UInt32) (code : ErrorCode) (style : ReplyStyle)
  | oversized (id : ClientId) (type : UInt32) (size : Nat)
  | oversizedLogin (id : ClientId) (size : Nat)
  | ttyMade (number : UInt32) (tty : TtyId)
  | ttyFreed (number : UInt32) (tty : TtyId)
  | pathRefused (id : ClientId) (e : TtyError)
  | ttyAcquired (id : ClientId) (path : List UInt32) (mode : KeyMode)
  | ttyReleased (id : ClientId) (freed : Nat)
  | ttyReleasedAtEnd (id : ClientId) (freed : Nat)
  | rawModeBusy (id owner : ClientId)
  | rawModeGranted (id : ClientId)
  | rawModeReleased (id : ClientId)
  | rawWriteFailed (id : ClientId) (e : DriverError)
  | rawReadFailed (id : ClientId) (e : DriverError)
  | consoleChanged (active : UInt32)
  | ownerChanged (id : ClientId)
  | keyDelivered (id : ClientId) (value : UInt32)
  | windowShown (cells : Octets)
  | connectionRefused (e : AdmissionError) (peer : String)
  | sessionDropped (id : ClientId)
  | clientLeft (id : ClientId)
  deriving DecidableEq, Repr

namespace Notice

/-- How much a notice matters. -/
def level : Notice → Level
  | tooManyWaiting _ | rawModeAbandoned _ | resetFailed _ | restartRequested | notALogin ..
  | malformedLogin .. | wrongVersion .. | wrongKey _ | oversized .. | oversizedLogin ..
  | pathRefused .. | rawWriteFailed .. | rawReadFailed .. => .warn
  | driverAttached _ | driverReplaced | accepted .. | disconnected .. | overdue _ | closingAll _
  | loggedIn _ | rawModeGranted _ | rawModeReleased _ => .info
  | expired _ | requestFailed .. | ttyMade .. | ttyFreed .. | ttyAcquired .. | ttyReleased ..
  | ttyReleasedAtEnd .. | rawModeBusy .. | consoleChanged _ | ownerChanged _ | keyDelivered ..
  | windowShown _ | connectionRefused .. | sessionDropped _ | clientLeft _ => .debug

/-- A reply style by name. -/
def styleText : ReplyStyle → String
  | .error => "Error"
  | .exception => "Exception"

/-- A delivery mode by name. -/
def modeText : KeyMode → String
  | .commands => "Commands"
  | .keycodes => "Keycodes"

/-- A path between brackets. -/
def pathText (path : List UInt32) : String :=
  "[" ++ ", ".intercalate (path.map toString) ++ "]"

/-- What the line says, without its level and its fields. -/
def message : Notice → String
  | driverAttached _ => "braille driver attached"
  | driverReplaced => "braille driver restarted"
  | accepted .. => "connection accepted"
  | tooManyWaiting _ => "too many unauthenticated connections, refusing new ones"
  | disconnected .. => "connection closed"
  | rawModeAbandoned _ => "client left raw mode abruptly, resetting driver"
  | resetFailed e => s!"driver reset failed: {e.message}"
  | restartRequested => "braille driver restart requested"
  | overdue _ => "dropping connection that never authenticated"
  | expired _ => "expired unauthenticated connections"
  | closingAll _ => "closing all connections"
  | notALogin .. => "first packet is not authentication"
  | malformedLogin _ e => s!"malformed authentication: {e.message}"
  | wrongVersion .. => "unsupported protocol version"
  | wrongKey _ => "authentication failed"
  | loggedIn _ => "client authenticated"
  | requestFailed _ _ code style => s!"request failed: {code.text} ({styleText style})"
  | oversized .. => "discarded oversized packet"
  | oversizedLogin .. => "oversized packet before authentication"
  | ttyMade .. => "created tty"
  | ttyFreed .. => "freeing tty"
  | pathRefused _ e => s!"cannot create tty path: {e.message}"
  | ttyAcquired .. => "tty acquired"
  | ttyReleased .. => "tty released"
  | ttyReleasedAtEnd .. => "released tty on disconnect"
  | rawModeBusy .. => "raw mode busy"
  | rawModeGranted _ => "raw mode granted"
  | rawModeReleased _ => "raw mode released"
  | rawWriteFailed _ e => s!"raw write failed: {e.message}"
  | rawReadFailed _ e => s!"raw read failed: {e.message}"
  | consoleChanged _ => "host console changed"
  | ownerChanged _ => "display owner changed, redrawing"
  | keyDelivered .. => "key delivered"
  | windowShown _ => "virtual display"
  | connectionRefused e _ => s!"refusing connection: {e.message}"
  | sessionDropped _ => "session closed by server"
  | clientLeft _ => "client closed the connection"

/-- What the line says beyond its message: names with values. -/
def fields : Notice → List (String × String)
  | driverAttached info =>
    [("driver", info.name), ("columns", toString info.size.columns),
      ("rows", toString info.size.rows)]
  | accepted id peer => [("id", id.text), ("peer", Text.quoted peer)]
  | tooManyWaiting limit => [("limit", toString limit)]
  | disconnected id peer => [("id", id.text), ("peer", peer)]
  | expired count => [("expired", toString count)]
  | closingAll count => [("connections", toString count)]
  | notALogin id type => [("id", id.text), ("packet_type", toString type)]
  | wrongVersion id version => [("id", id.text), ("version", toString version)]
  | requestFailed id type _ _ => [("id", id.text), ("packet_type", toString type)]
  | oversized id type size =>
    [("id", id.text), ("packet_type", toString type), ("size", toString size)]
  | oversizedLogin id size => [("id", id.text), ("size", toString size)]
  | ttyMade number tty | ttyFreed number tty =>
    [("number", toString number), ("id", s!"TtyId({tty.val})")]
  | ttyAcquired id path mode => [("id", id.text), ("path", pathText path), ("mode", modeText mode)]
  | ttyReleased id freed | ttyReleasedAtEnd id freed => [("id", id.text), ("freed", toString freed)]
  | rawModeBusy id owner => [("id", id.text), ("owner", owner.text)]
  | consoleChanged active => [("active", toString active)]
  | keyDelivered id value => [("id", id.text), ("value", toString value)]
  | windowShown cells => [("window", Braille.line cells)]
  | connectionRefused _ peer => [("peer", peer)]
  | rawModeAbandoned id | overdue id | malformedLogin id _ | wrongKey id | loggedIn id
  | pathRefused id _ | rawModeGranted id | rawModeReleased id | rawWriteFailed id _
  | rawReadFailed id _ | ownerChanged id | sessionDropped id | clientLeft id => [("id", id.text)]
  | driverReplaced | resetFailed _ | restartRequested => []

/-- The notice as it is written to the log: the level, the message without controls for a terminal,
and the fields. -/
def text (n : Notice) : String :=
  " ".intercalate
    (n.level.text :: Text.tame n.message :: n.fields.map fun f => s!"{f.1}={f.2}")

/-- The lines of the log. There is one, unless a line ends within the notice. -/
def lines (n : Notice) : List String :=
  Text.trimmedLines n.text

end Notice

end BrailleShare
