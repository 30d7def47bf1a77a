import BrailleShare.Driver

/-!
# Servers

A server shares one display among its clients. Its state is a plain value, and what it does to the
world outside is written down in order as *effects*, which the outer layer carries out: packets for
clients, calls that reached the driver, a request to the host to restart the driver, and notices for
the log.

The state keeps the count of connections that have yet to log in beside the connections, because
the count decides who is let in. The tree of ttys keeps for each tty the clients in it, the lobby
those without one.

Operations are taken as a whole: however many sessions there are, what they ask for is done in some
order, and nobody sees it half done. Left out are an allocation that fails, ids beyond 64 bits and
the wakening of a session whose connection has ended; that the session ends with it is said where
sessions are.
-/

namespace BrailleShare

/-- What a server is told when it starts. -/
structure Settings where
  /-- The key that clients have to show. -/
  key : Octets
  /-- How many connections may wait to log in. -/
  maxWaiting : Nat
  /-- How long a connection may wait to log in. -/
  loginTime : Nat
  /-- How many ttys there may be. -/
  maxTtys : Nat
  deriving DecidableEq, Repr

/-- What a server has done to the world outside. -/
inductive Effect where
  /-- A packet waits to be sent to a client. -/
  | packet (id : ClientId) (p : Packet)
  /-- A call reached the driver. -/
  | driver (call : DeviceCall)
  /-- The host is asked to restart the driver. -/
  | restart
  /-- A line goes to the log. -/
  | notice (n : Notice)
  deriving DecidableEq, Repr

/-- The state of a server with a driver `σ`. -/
structure Server (σ : Type) where
  settings : Settings
  /-- The facts about the driver, as it gave them at the start. -/
  info : DriverInfo
  /-- The dots of characters outside the braille block. -/
  table : DotTable
  driver : σ
  /-- The console that the host shows. -/
  console : UInt32
  tree : TtyTree ClientId
  /-- The connections, in the order in which they were let in. -/
  clients : List Client
  /-- How many connections have yet to log in. -/
  waiting : Nat
  /-- Whether it has been noted that too many connections wait. -/
  refusalNoted : Bool
  /-- The number of the next connection. -/
  nextId : Nat
  /-- Whether no connection is let in any more. -/
  closed : Bool
  /-- The client that has the device to itself. -/
  rawHolder : Option ClientId
  /-- The client whose window was written to the device last. -/
  lastShown : Option ClientId
  /-- What has been done since the effects were last taken away, the oldest first. -/
  effects : List Effect

/-- Whether a connection is to go on after a packet. -/
inductive Verdict where
  | proceed
  | close
  deriving DecidableEq, Repr

namespace Server

variable {σ α : Type}

/-! ## Effects -/

/-- Writes down an effect. -/
def emit (s : Server σ) (e : Effect) : Server σ :=
  { s with effects := s.effects ++ [e] }

/-- Writes a line to the log. -/
def note (s : Server σ) (n : Notice) : Server σ :=
  s.emit (.notice n)

/-- Queues a packet for a client. -/
def send (s : Server σ) (id : ClientId) (p : Packet) : Server σ :=
  s.emit (.packet id p)

/-- Takes in what a call to the driver came to. -/
def called (s : Server σ) (call : DeviceCall) (a : DriverAnswer σ α) : Server σ :=
  { s with
    driver := a.driver
    effects := s.effects ++ .driver call :: a.notices.map .notice }

/-- The server once its effects have been carried out. -/
def settled (s : Server σ) : Server σ :=
  { s with effects := [] }

/-! ## Clients -/

/-- A connection by its id. -/
def client? (s : Server σ) (id : ClientId) : Option Client :=
  s.clients.find? fun c => c.id == id

/-- What a client holds. -/
def holding? (s : Server σ) (id : ClientId) : Option Holding :=
  (s.client? id).bind (·.holding)

/-- Changes what is known of a connection. -/
def modifyClient (s : Server σ) (id : ClientId) (f : Client → Client) : Server σ :=
  { s with clients := s.clients.map fun c => if c.id = id then f c else c }

/-- Changes what a client holds. -/
def setHolding (s : Server σ) (id : ClientId) (h : Option Holding) : Server σ :=
  s.modifyClient id fun c => { c with holding := h }

/-- Whether a client has the device to itself. -/
def isRaw (s : Server σ) (id : ClientId) : Bool :=
  s.rawHolder == some id

/-- Whether a connection has logged in. -/
def isLoggedIn (s : Server σ) (id : ClientId) : Bool :=
  match s.client? id with
  | some c => c.loggedIn
  | none => false

/-- The window of a client, if it holds a tty. -/
def window? (s : Server σ) (id : ClientId) : Option Window :=
  (s.holding? id).map (·.window)

/-- One connection fewer waits to log in; once there is room again, the next lack of it is worth a
notice again. -/
def releaseWaiting (s : Server σ) : Server σ :=
  { s with
    waiting := s.waiting - 1
    refusalNoted := if s.waiting - 1 < s.settings.maxWaiting then false else s.refusalNoted }

/-- The last writer is forgotten if it is this client. -/
def forgetShown (s : Server σ) (id : ClientId) : Server σ :=
  if s.lastShown = some id then { s with lastShown := none } else s

/-! ## Ttys -/

/-- Writes the ttys that were made to the log. -/
def noteMade (s : Server σ) (made : List (UInt32 × TtyId)) : Server σ :=
  made.foldl (fun s m => s.note (.ttyMade m.1 m.2)) s

/-- Clears a tty away if it is empty, and with it the ttys around it that this leaves empty. Gives
their number. -/
def clearTty (s : Server σ) (tty : TtyId) : Server σ × Nat :=
  let r := s.tree.collect tty
  (r.2.foldl (fun s m => s.note (.ttyFreed m.1 m.2)) { s with tree := r.1 }, r.2.length)

/-! ## Starting -/

/-- A server that no client has connected to yet. -/
def start [Driver σ] (settings : Settings) (driver : σ) (console : UInt32) : Server σ :=
  note
    { settings
      info := Driver.info driver
      table := .plain
      driver
      console
      tree := .withLimit settings.maxTtys
      clients := []
      waiting := 0
      refusalNoted := false
      nextId := 1
      closed := false
      rawHolder := none
      lastShown := none
      effects := [] }
    (.driverAttached (Driver.info driver))

/-- The server with other dots for the characters outside the braille block. -/
def withTable (s : Server σ) (table : DotTable) : Server σ :=
  { s with table }

/-- The host shows another console. -/
def switchConsole (s : Server σ) (console : UInt32) : Server σ :=
  { s with console }

end Server

end BrailleShare
