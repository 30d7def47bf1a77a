import BrailleShare.Request
import BrailleShare.Server

/-!
# Coming and going

Connections are let in while the server is open and fewer than the limit wait to log in. A
connection ends when its client leaves, when it has waited too long, or when the server shuts down;
whatever it held goes back: its place in the tree, raw mode, its part in the count.
-/

namespace BrailleShare.Server

variable {σ : Type}

/-! ## Coming -/

/-- Lets a connection in at a given time, or says why not. That too many wait is noted once, until
there is room again. -/
def accept (s : Server σ) (peer : String) (now : Nat) :
    Except AdmissionError ClientId × Server σ :=
  if s.closed then (.error .shuttingDown, s)
  else if s.settings.maxWaiting ≤ s.waiting then
    (.error (.tooManyWaiting s.settings.maxWaiting),
      if s.refusalNoted then s
      else { s.note (.tooManyWaiting s.settings.maxWaiting) with refusalNoted := true })
  else
    let id : ClientId := ⟨s.nextId⟩
    let s := { s with
      nextId := s.nextId + 1
      tree := s.tree.seat TtyTree.lobby id
      clients := s.clients ++ [(⟨id, peer, now, false, none⟩ : Client)]
      waiting := s.waiting + 1 }
    (.ok id, s.note (.accepted id peer))

/-- Turns a packet away that is no proper login. -/
def turnAway (s : Server σ) (id : ClientId) (code : ErrorCode) (n : Notice) :
    Verdict × Server σ :=
  (.close, (s.note n).send id (.error code))

/-- Takes the first packet of a connection: the protocol version and the key. -/
def logIn (s : Server σ) (id : ClientId) (p : Packet) : Verdict × Server σ :=
  if p.kind? ≠ some .auth then s.turnAway id .connectionRefused (.notALogin id p.type)
  else
    match Request.decodeLogin p.payload with
    | .error e => s.turnAway id .connectionRefused (.malformedLogin id e)
    | .ok login =>
      if login.version ≠ protocolVersion then
        s.turnAway id .protocolVersion (.wrongVersion id login.version)
      else if login.key ≠ s.settings.key then
        s.turnAway id .connectionRefused (.wrongKey id)
      else
        (.proceed,
          (((s.modifyClient id fun c => { c with loggedIn := true }).releaseWaiting).note
            (.loggedIn id)).send id .ack)

/-! ## Going -/

/-- Resets the device; if that fails the host is asked to restart the driver. -/
def resetDevice [Driver σ] (s : Server σ) : Server σ :=
  let a := Driver.reset s.driver
  let s := s.called .reset a
  match a.outcome with
  | .ok _ => s
  | .error e => ((s.note (.resetFailed e)).note .restartRequested).emit .restart

/-- Takes a connection out of the records, the count, the raw mode and the last writer. -/
def strikeOff (s : Server σ) (c : Client) : Server σ :=
  let s := { s with clients := s.clients.filter fun d => d.id != c.id }
  let s := if c.loggedIn then s else s.releaseWaiting
  let s := if s.isRaw c.id then { s with rawHolder := none } else s
  s.forgetShown c.id

/-- Takes a connection out of the tree. -/
def unseat (s : Server σ) (c : Client) : Server σ :=
  match c.holding with
  | some h =>
    let r := ({ s with tree := s.tree.detach h.tty c.id } : Server σ).clearTty h.tty
    r.1.note (.ttyReleasedAtEnd c.id r.2)
  | none => { s with tree := s.tree.detach TtyTree.lobby c.id }

/-- Ends a connection; an unknown one is none. A client that had the device to itself may have left
it in any state, so the device is reset. -/
def disconnect [Driver σ] (s : Server σ) (id : ClientId) : Server σ :=
  match s.client? id with
  | none => s
  | some c =>
    let t := ((s.strikeOff c).unseat c).note (.disconnected id c.peer)
    if s.isRaw id then (t.note (.rawModeAbandoned id)).resetDevice else t

/-- A connection has waited longer than it may. An age that would be negative is zero. -/
def overdue (s : Server σ) (now : Nat) (c : Client) : Bool :=
  !c.loggedIn && decide (s.settings.loginTime < now - c.since)

/-- Ends every connection that has waited longer than it may. Gives their number. -/
def expire [Driver σ] (s : Server σ) (now : Nat) : Nat × Server σ :=
  let late := s.clients.filter (s.overdue now)
  (late.length, late.foldl (fun s c => (s.note (.overdue c.id)).disconnect c.id) s)

/-- Looks after the connections that wait, and notes how many were ended, if any. -/
def maintain [Driver σ] (s : Server σ) (now : Nat) : Server σ :=
  let r := s.expire now
  if 0 < r.1 then r.2.note (.expired r.1) else r.2

/-- Ends every connection and lets none in from now on. -/
def shutdown [Driver σ] (s : Server σ) : Server σ :=
  let t := ({ s with closed := true } : Server σ).note (.closingAll s.clients.length)
  s.clients.foldl (fun s c => s.disconnect c.id) t

/-! ## The driver -/

/-- Puts another driver in place of the one there is. It has to have a display of the same size, for
which the windows were made. -/
def changeDriver [Driver σ] (s : Server σ) (driver : σ) : Except DriverError Unit × Server σ :=
  let info := Driver.info driver
  if info.size ≠ s.info.size then
    (.error (.unsupported s!"{info.code} has a different display size"), s)
  else (.ok (), ({ s with driver } : Server σ).note .driverReplaced)

end BrailleShare.Server
