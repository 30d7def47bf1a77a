import BrailleShare.Server.History
import Mathlib.Logic.Function.Basic

/-!
# Connections in separate stores

A `Client` has all that comes with a tty in one place. Here nothing but the operations keeps it
together. The entry of a connection in the list tells its tty and its mode; its mask, its window and
how far the window has come are kept behind a *handle*, each by itself, and with them whether
packets may still be queued. The sessions know the handles, so that one outlives the entry it was
made for: at the end of a connection it is closed, and what is sent to it later is dropped.

The functions are those of a server with other stores, under the same names and in the same order of
effects. What is not kept with a connection is left to the server itself.

Main definitions: `SplitServer`, its `step` and `run`, and the server that its stores amount to when
they are read together (`SplitServer.server`).
-/

namespace BrailleShare

/-- What the list of connections tells of one. -/
structure Registration where
  id : ClientId
  /-- The other end, for log lines. -/
  peer : String
  /-- When the connection was made. -/
  since : Nat
  /-- Whether the client has shown the key. -/
  loggedIn : Bool
  /-- The tty that the client holds. -/
  tty : Option TtyId
  /-- What keys are to the client; what stands here without a tty means nothing. -/
  mode : KeyMode
  deriving DecidableEq, Repr

/-- What a connection shares with its session. -/
structure Handle where
  /-- Whether packets may still be queued. -/
  isOpen : Bool
  /-- The values that the client wants to receive. -/
  mask : RangeSet
  window : Option Window
  freshness : Freshness
  deriving DecidableEq, Repr

/-- The handle of a connection that is made now. -/
def Handle.fresh : Handle :=
  ⟨true, .empty, none, .empty⟩

/-- The handle of a connection that nobody has made. -/
def Handle.unused : Handle :=
  ⟨false, .empty, none, .empty⟩

/-- The entry and the handle of a connection, read together. -/
def Registration.client (r : Registration) (h : Handle) : Client where
  id := r.id
  peer := r.peer
  since := r.since
  loggedIn := r.loggedIn
  holding :=
    match r.tty, h.window with
    | some tty, some window => some ⟨tty, r.mode, h.mask, window, h.freshness⟩
    | _, _ => none

/-- The state of a server that keeps its connections in separate stores. -/
structure SplitServer (σ : Type) where
  /-- All that is not kept with a connection. Its own list of connections stays empty. -/
  common : Server σ
  /-- The connections, in the order in which they were let in. -/
  records : List Registration
  handle : ClientId → Handle

namespace SplitServer

variable {σ α : Type}

/-! ## The stores -/

/-- The entry of a connection. -/
def record? (d : SplitServer σ) (id : ClientId) : Option Registration :=
  d.records.find? fun r => r.id == id

/-- Changes what is not kept with a connection. -/
def onCommon (d : SplitServer σ) (f : Server σ → Server σ) : SplitServer σ :=
  { d with common := f d.common }

/-- Changes what is not kept with a connection, and gives what came of it. -/
def through (d : SplitServer σ) (f : Server σ → α × Server σ) : α × SplitServer σ :=
  ((f d.common).1, d.onCommon fun s => (f s).2)

/-- Changes an entry. -/
def modifyRecord (d : SplitServer σ) (id : ClientId) (f : Registration → Registration) :
    SplitServer σ :=
  { d with records := d.records.map fun r => if r.id = id then f r else r }

/-- Changes what is behind a handle. -/
def modifyHandle (d : SplitServer σ) (id : ClientId) (f : Handle → Handle) : SplitServer σ :=
  { d with handle := Function.update d.handle id (f (d.handle id)) }

/-- What is beside the connections is not behind their handles. -/
@[simp]
theorem handle_onCommon (d : SplitServer σ) (f : Server σ → Server σ) :
    (d.onCommon f).handle = d.handle :=
  rfl

/-- Nor is an entry. -/
@[simp]
theorem handle_modifyRecord (d : SplitServer σ) (id : ClientId)
    (f : Registration → Registration) : (d.modifyRecord id f).handle = d.handle :=
  rfl

/-- What is behind the handle that is changed. -/
@[simp]
theorem handle_modifyHandle (d : SplitServer σ) (id : ClientId) (f : Handle → Handle) :
    (d.modifyHandle id f).handle id = f (d.handle id) :=
  Function.update_self ..

/-- Writes a line to the log. -/
def note (d : SplitServer σ) (n : Notice) : SplitServer σ :=
  d.onCommon (·.note n)

/-- A line in the log changes nothing behind the handles. -/
@[simp]
theorem handle_note (d : SplitServer σ) (n : Notice) : (d.note n).handle = d.handle :=
  rfl

/-- Queues a packet for a client; it is dropped if the handle is closed. -/
def send (d : SplitServer σ) (id : ClientId) (p : Packet) : SplitServer σ :=
  if (d.handle id).isOpen then d.onCommon (·.send id p) else d

/-- Closes a handle. What is queued stays queued. -/
def close (d : SplitServer σ) (id : ClientId) : SplitServer σ :=
  d.modifyHandle id ({ · with isOpen := false })

/-- Whether a client has the device to itself. -/
def isRaw (d : SplitServer σ) (id : ClientId) : Bool :=
  d.common.isRaw id

/-- The entry of a connection and what is behind its handle. -/
def client (d : SplitServer σ) (r : Registration) : Client :=
  r.client (d.handle r.id)

/-- The server that the stores amount to. -/
def server (d : SplitServer σ) : Server σ :=
  { d.common with clients := d.records.map d.client }

/-! ## Coming -/

/-- Lets a connection in at a given time, or says why not. -/
def accept (d : SplitServer σ) (peer : String) (now : Nat) :
    Except AdmissionError ClientId × SplitServer σ :=
  let limit := d.common.settings.maxWaiting
  if d.common.closed then (.error .shuttingDown, d)
  else if limit ≤ d.common.waiting then
    (.error (.tooManyWaiting limit),
      if d.common.refusalNoted then d
      else d.onCommon fun s => { s.note (.tooManyWaiting limit) with refusalNoted := true })
  else
    let id : ClientId := ⟨d.common.nextId⟩
    let d : SplitServer σ :=
      { common := { d.common with
          nextId := d.common.nextId + 1
          tree := d.common.tree.seat TtyTree.lobby id
          waiting := d.common.waiting + 1 }
        records := d.records ++ [⟨id, peer, now, false, none, .commands⟩]
        handle := Function.update d.handle id .fresh }
    (.ok id, d.note (.accepted id peer))

/-- Turns a packet away that is no proper login. -/
def turnAway (d : SplitServer σ) (id : ClientId) (code : ErrorCode) (n : Notice) :
    Verdict × SplitServer σ :=
  (.close, (d.note n).send id (.error code))

/-- Takes the first packet of a connection: the protocol version and the key. -/
def logIn (d : SplitServer σ) (id : ClientId) (p : Packet) : Verdict × SplitServer σ :=
  if p.kind? ≠ some .auth then d.turnAway id .connectionRefused (.notALogin id p.type)
  else
    match Request.decodeLogin p.payload with
    | .error e => d.turnAway id .connectionRefused (.malformedLogin id e)
    | .ok login =>
      if login.version ≠ protocolVersion then
        d.turnAway id .protocolVersion (.wrongVersion id login.version)
      else if login.key ≠ d.common.settings.key then
        d.turnAway id .connectionRefused (.wrongKey id)
      else
        (.proceed,
          (((d.modifyRecord id fun r => { r with loggedIn := true }).onCommon
            (·.releaseWaiting)).note (.loggedIn id)).send id .ack)

/-! ## Going -/

/-- Takes a connection out of the list, the count, the raw mode and the last writer. -/
def strikeOff (d : SplitServer σ) (r : Registration) : SplitServer σ :=
  let d := { d with records := d.records.filter fun q => q.id != r.id }
  let d := if r.loggedIn then d else d.onCommon (·.releaseWaiting)
  let d := if d.isRaw r.id then d.onCommon ({ · with rawHolder := none }) else d
  d.onCommon (·.forgetShown r.id)

/-- Takes a connection out of the tree. -/
def unseat (d : SplitServer σ) (r : Registration) : SplitServer σ :=
  match r.tty with
  | some tty =>
    let q := d.through fun s =>
      let q := ({ s with tree := s.tree.detach tty r.id } : Server σ).clearTty tty
      (q.2, q.1)
    q.2.note (.ttyReleasedAtEnd r.id q.1)
  | none => d.onCommon fun s => { s with tree := s.tree.detach TtyTree.lobby r.id }

/-- Ends a connection; an unknown one is none. -/
def disconnect [Driver σ] (d : SplitServer σ) (id : ClientId) : SplitServer σ :=
  match d.record? id with
  | none => d
  | some r =>
    let t := (((d.strikeOff r).unseat r).close r.id).note (.disconnected id r.peer)
    if d.isRaw id then (t.note (.rawModeAbandoned id)).onCommon (·.resetDevice) else t

/-- A connection has waited longer than it may. -/
def overdue (d : SplitServer σ) (now : Nat) (r : Registration) : Bool :=
  !r.loggedIn && decide (d.common.settings.loginTime < now - r.since)

/-- Ends every connection that has waited longer than it may. Gives their number. -/
def expire [Driver σ] (d : SplitServer σ) (now : Nat) : Nat × SplitServer σ :=
  let late := d.records.filter (d.overdue now)
  (late.length, late.foldl (fun d r => (d.note (.overdue r.id)).disconnect r.id) d)

/-- Looks after the connections that wait, and notes how many were ended, if any. -/
def maintain [Driver σ] (d : SplitServer σ) (now : Nat) : SplitServer σ :=
  let r := d.expire now
  if 0 < r.1 then r.2.note (.expired r.1) else r.2

/-- Lets nobody in from now on; the connections there are have yet to end. -/
def closeDoor (d : SplitServer σ) : SplitServer σ :=
  (d.onCommon ({ · with closed := true })).note (.closingAll d.records.length)

/-- Ends every connection and lets none in from now on. -/
def shutdown [Driver σ] (d : SplitServer σ) : SplitServer σ :=
  d.records.foldl (fun d r => d.disconnect r.id) d.closeDoor

/-! ## Requests -/

/-- What came of a request: why it was refused, if it was. -/
abbrev Outcome (σ : Type) := Option Server.Refusal × SplitServer σ

/-- The request was carried out. -/
def done (d : SplitServer σ) : Outcome σ :=
  (none, d)

/-- The request was carried out, and the client is told so. -/
def acknowledge (d : SplitServer σ) (id : ClientId) : Outcome σ :=
  (d.send id .ack).done

/-- The request was refused. -/
def refuse (d : SplitServer σ) (code : ErrorCode) : Outcome σ :=
  (some (.request code), d)

/-- The request was refused by the tree. -/
def refuseTty (d : SplitServer σ) (e : TtyError) : Outcome σ :=
  (some (.tty e), d)

/-- Answers a question about the driver that takes no arguments. -/
def tell (d : SplitServer σ) (r : Registration) (payload : Octets) (answer : Packet) : Outcome σ :=
  if payload ≠ [] then d.refuse .invalidPacket
  else if d.isRaw r.id then d.refuse .illegalInstruction
  else (d.send r.id answer).done

/-- Seats a client from the lobby in a tty. The entry tells the tty and the mode; then the mask is
set, and then the window. -/
def seatClient (d : SplitServer σ) (r : Registration) (tty : TtyId) (path : List UInt32)
    (mode : KeyMode) : Outcome σ :=
  match d.common.tree.move r.id TtyTree.lobby tty with
  | .error e => (d.onCommon fun s => (s.clearTty tty).1).refuseTty e
  | .ok tree =>
    let d := d.onCommon ({ · with tree })
    let d := d.modifyRecord r.id ({ · with tty := some tty, mode })
    let d := d.modifyHandle r.id ({ · with mask := mode.defaultMask })
    let d := d.modifyHandle r.id ({ · with
      window := some (.blank d.common.info.size.cells), freshness := .empty })
    (d.note (.ttyAcquired r.id path mode)).acknowledge r.id

/-- Gives a client the tty of a path, which is made if it is not there. The mode that a client has
is looked up in the list again. -/
def takeTty (d : SplitServer σ) (r : Registration) (payload : Octets) : Outcome σ :=
  if d.isRaw r.id then d.refuse .illegalInstruction
  else
    match Request.decodeTty payload with
    | .error e => d.refuse e.code
    | .ok request =>
      match KeyMode.ofName? request.mode d.common.info.name d.common.info.keycodes with
      | none => d.refuse .notSupported
      | some mode =>
        match d.common.tree.lookup request.path, r.tty with
        | .found tty, some held =>
          if tty = held then
            d.refuse (if (d.record? r.id).any (·.mode == mode) then .illegalInstruction
              else .notSupported)
          else d.refuse .invalidParameter
        | .missing .., some _ => d.refuse .invalidParameter
        | .found tty, none => d.seatClient r tty request.path mode
        | .missing deepest matched, none =>
          let made := d.common.tree.create deepest (request.path.drop matched)
          let d := d.onCommon fun s => ({ s with tree := made.tree } : Server σ).noteMade made.made
          match made.result with
          | .error e => (d.note (.pathRefused r.id e)).refuseTty e
          | .ok tty => d.seatClient r tty request.path mode

/-- Carries out a request for which a client has to hold a tty and not to be in raw mode. -/
def withTty (d : SplitServer σ) (r : Registration) (f : TtyId → Outcome σ) : Outcome σ :=
  if d.isRaw r.id then d.refuse .illegalInstruction
  else
    match r.tty with
    | none => d.refuse .illegalInstruction
    | some tty => f tty

/-- Gives focus to a child of the client's tty. -/
def focusChild (d : SplitServer σ) (r : Registration) (payload : Octets) : Outcome σ :=
  d.withTty r fun tty =>
    match Request.decodeFocus payload with
    | .error e => d.refuse e.code
    | .ok number =>
      match d.common.tree.setFocus tty (some number) with
      | .error e => d.refuseTty e
      | .ok tree => (d.onCommon ({ · with tree })).done

/-- Takes a client back to the lobby. The entry loses its tty, then the mask is emptied, then the
window goes. -/
def returnTty (d : SplitServer σ) (r : Registration) : Outcome σ :=
  d.withTty r fun tty =>
    match d.common.tree.move r.id tty TtyTree.lobby with
    | .error e => d.refuseTty e
    | .ok tree =>
      let d := (d.onCommon ({ · with tree })).modifyRecord r.id ({ · with tty := none })
      let q := d.through fun s => ((s.clearTty tty).2, (s.clearTty tty).1)
      let d := (q.2.note (.ttyReleased r.id q.1)).onCommon (·.forgetShown r.id)
      let d := d.modifyHandle r.id ({ · with mask := .empty })
      let d := d.modifyHandle r.id ({ · with window := none, freshness := .empty })
      d.acknowledge r.id

/-- Changes a range of the client's mask. -/
def changeRange (d : SplitServer σ) (r : Registration) (payload : Octets)
    (change : Server.MaskEdit) : Outcome σ :=
  d.withTty r fun _ =>
    match Request.decodeRange payload with
    | .error e => d.refuse e.code
    | .ok (lo, hi) =>
      match change.onRange (d.handle r.id).mask lo hi with
      | .error _ => d.refuse .invalidParameter
      | .ok mask => (d.modifyHandle r.id ({ · with mask })).acknowledge r.id

/-- Changes single values of the client's mask. -/
def changeSet (d : SplitServer σ) (r : Registration) (payload : Octets)
    (change : Server.MaskEdit) : Outcome σ :=
  d.withTty r fun _ =>
    match Request.decodeKeys payload with
    | .error e => d.refuse e.code
    | .ok keys =>
      (d.modifyHandle r.id fun h => { h with mask := keys.foldl change.onValue h.mask }).acknowledge
        r.id

/-- Changes the client's window, or stops showing it. An update for a client without a window is
refused. -/
def write (d : SplitServer σ) (r : Registration) (payload : Octets) : Outcome σ :=
  if payload.length < 4 then d.refuse .invalidPacket
  else d.withTty r fun _ =>
    match Request.decodeWindow d.common.info.size.cells payload with
    | .error e => d.refuse e.code
    | .ok .clear => (d.modifyHandle r.id ({ · with freshness := .empty })).done
    | .ok (.update u) =>
      match (d.handle r.id).window with
      | none => d.refuse .illegalInstruction
      | some w =>
        (d.modifyHandle r.id ({ · with window := some (w.apply u), freshness := .pending })).done

/-- Gives the device to a client that knows the driver by name. -/
def takeRaw (d : SplitServer σ) (r : Registration) (payload : Octets) : Outcome σ :=
  if d.isRaw r.id then d.refuse .illegalInstruction
  else
    match Request.decodeRaw payload with
    | .error e => d.refuse e.code
    | .ok name =>
      if name ≠ d.common.info.name ∨ d.common.info.raw = false then d.refuse .notSupported
      else
        match d.common.rawHolder with
        | some owner => (d.note (.rawModeBusy r.id owner)).refuse .rawModeBusy
        | none =>
          ((d.onCommon ({ · with rawHolder := some r.id })).note
            (.rawModeGranted r.id)).acknowledge r.id

/-- Takes the device back from the client that has it. -/
def returnRaw (d : SplitServer σ) (r : Registration) : Outcome σ :=
  if d.isRaw r.id then
    ((d.onCommon ({ · with rawHolder := none })).note (.rawModeReleased r.id)).acknowledge r.id
  else d.refuse .illegalInstruction

/-- Hands octets to the device for the client that has it. -/
def passRaw [Driver σ] (d : SplitServer σ) (r : Registration) (payload : Octets) : Outcome σ :=
  if d.isRaw r.id then
    let a := Driver.writePacket d.common.driver payload
    let d := d.onCommon (·.called (.writePacket payload) a)
    match a.outcome with
    | .ok _ => d.done
    | .error e => (d.note (.rawWriteFailed r.id e)).refuse .driverError
  else d.refuse .illegalInstruction

/-- Carries out the request of a client that has logged in. -/
def carryOut [Driver σ] (d : SplitServer σ) (r : Registration) (p : Packet) : Outcome σ :=
  let info := d.common.info
  match p.kind? with
  | some .getDriverId => d.tell r p.payload (.driverText .getDriverId info.code)
  | some .getDriverName => d.tell r p.payload (.driverText .getDriverName info.name)
  | some .getDisplaySize => d.tell r p.payload (.displaySize info.size.columns info.size.rows)
  | some .getTty => d.takeTty r p.payload
  | some .setFocus => d.focusChild r p.payload
  | some .leaveTty => d.returnTty r
  | some .ignoreKeyRange => d.changeRange r p.payload .ignore
  | some .unignoreKeyRange => d.changeRange r p.payload .unignore
  | some .ignoreKeySet => d.changeSet r p.payload .ignore
  | some .unignoreKeySet => d.changeSet r p.payload .unignore
  | some .write => d.write r p.payload
  | some .getRaw => d.takeRaw r p.payload
  | some .leaveRaw => d.returnRaw r
  | some .packet => d.passRaw r p.payload
  | _ => d.refuse .unknownInstruction

/-- Carries out a request and reports a refusal to the client. -/
def answer [Driver σ] (d : SplitServer σ) (r : Registration) (p : Packet) : SplitServer σ :=
  let o := d.carryOut r p
  match o.1 with
  | none => o.2
  | some e =>
    let style := ReplyStyle.ofKind p.kind?
    (o.2.note (.requestFailed r.id p.type e.code style)).send r.id (style.report e.code p)

/-- Handles a packet from a connection: a login first, requests afterwards. -/
def onPacket [Driver σ] (d : SplitServer σ) (id : ClientId) (p : Packet) :
    Verdict × SplitServer σ :=
  match d.record? id with
  | none => (.close, d)
  | some r => if r.loggedIn then (.proceed, d.answer r p) else d.logIn id p

/-- Handles the report that a packet was too long to be read. -/
def onOversized (d : SplitServer σ) (id : ClientId) (type : UInt32) (size : Nat) :
    Verdict × SplitServer σ :=
  match d.record? id with
  | none => (.close, d)
  | some r =>
    if r.loggedIn then (.proceed, d.note (.oversized id type size))
    else d.turnAway id .connectionRefused (.oversizedLogin id size)

/-- Handles whatever a frame amounts to. -/
def onFrame [Driver σ] (d : SplitServer σ) (id : ClientId) : Frame → Verdict × SplitServer σ
  | .packet p => d.onPacket id p
  | .oversized type size => d.onOversized id type size

/-! ## Precedence -/

/-- The first of the clients in a tty whose entry passes a test. -/
def firstWhere (d : SplitServer σ) (test : Registration → Bool) (ids : List ClientId) :
    Option ClientId :=
  ids.find? fun id => (d.record? id).any test

/-- The client whose window is to be on the display. How far a window has come is read behind the
handle. -/
def shownClient (d : SplitServer σ) : Option ClientId :=
  d.common.tree.firstAlongFocus d.common.console
    (d.firstWhere fun r => (d.handle r.id).freshness != .empty)

/-- The client that takes a key event, by the mode in the entry and the mask behind the handle. -/
def keyTaker (d : SplitServer σ) (command : UInt32) (keycode : Option UInt32) : Option ClientId :=
  d.common.tree.firstAlongFocus d.common.console
    (d.firstWhere fun r => r.mode.accepts (d.handle r.id).mask command keycode)

/-- Gives focus to the console that the host shows. -/
def syncConsole (d : SplitServer σ) : SplitServer σ :=
  d.onCommon (·.syncConsole)

/-- Who is to be on the display right now. -/
def displayOwner (d : SplitServer σ) : Option ClientId × SplitServer σ :=
  (d.syncConsole.shownClient, d.syncConsole)

/-- Who would take a key event right now. -/
def keyRecipient (d : SplitServer σ) (command : UInt32) (keycode : Option UInt32) :
    Option ClientId × SplitServer σ :=
  (d.syncConsole.keyTaker command keycode, d.syncConsole)

/-! ## The output cycle -/

section cycle

variable [Driver σ]

/-- Writes a client's window if another was written last or the content has changed since. Without a
window nothing is written. -/
def showWindow (d : SplitServer σ) (id : ClientId) : Except DriverError Unit × SplitServer σ :=
  let changed := decide (d.common.lastShown ≠ some id)
  let d := d.onCommon ({ · with lastShown := some id })
  if (d.handle id).freshness = .pending ∨ changed then
    let d := d.modifyHandle id ({ · with freshness := .displayed })
    match (d.handle id).window with
    | none => (.ok (), d)
    | some w =>
      let d := if changed then d.note (.ownerChanged id) else d
      d.through (·.writeWindow (w.render d.common.table))
  else (.ok (), d)

/-- Brings the display up to date if a client is to be shown. -/
def updateDisplay (d : SplitServer σ) : Except DriverError Unit × SplitServer σ :=
  match d.shownClient with
  | none => (.ok (), d)
  | some id => d.showWindow id

/-- Sends an event to the client that takes it. Gives what is left for the host. -/
def deliver (d : SplitServer σ) (e : Server.KeyEvent) : UInt32 × SplitServer σ :=
  match (d.keyTaker e.command e.keycode).bind d.record? with
  | none => (e.command, d)
  | some r =>
    if r.mode = .commands ∧ e.command = Command.none then (Command.none, d)
    else
      let value := e.value r.mode
      (Command.none, (d.note (.keyDelivered r.id value)).send r.id (.key value))

/-- Passes on what the device sends to the client that has it. -/
def forwardRaw (d : SplitServer σ) (owner : ClientId) : SplitServer σ :=
  match d.record? owner with
  | none => d
  | some r =>
    let a := Driver.readPacket d.common.driver
    let d := d.onCommon (·.called .readPacket a)
    match a.outcome with
    | .ok none => d
    | .ok (some data) => d.send r.id (.raw data)
    | .error e =>
      (d.note (.rawReadFailed r.id e)).send r.id
        (.exception .driverError ⟨PacketKind.packet.code, []⟩)

/-- Reads an event and gives the host what no client takes. -/
def nextCommand (d : SplitServer σ) : Except DriverError (Option UInt32) × SplitServer σ :=
  match d.through (·.readEvent) with
  | (.error e, d) => (.error e, d)
  | (.ok none, d) => (.ok none, d)
  | (.ok (some e), d) =>
    let r := d.deliver e
    (.ok (some r.1), r.2)

/-- One cycle: the display, then one event. Gives the command that is left for the host. -/
def cycle (d : SplitServer σ) : Except DriverError (Option UInt32) × SplitServer σ :=
  let d := d.syncConsole
  match d.common.rawHolder with
  | some owner => (.ok none, d.forwardRaw owner)
  | none =>
    match d.updateDisplay with
    | (.error e, d) => (.error e, d)
    | (.ok _, d) => d.nextCommand

/-- Shows a window of the host while no client is shown. -/
def hostWindow (d : SplitServer σ) (cells : Octets) : Except DriverError Unit × SplitServer σ :=
  if d.common.rawHolder.isSome then (.ok (), d)
  else
    let d := d.syncConsole
    if d.shownClient.isSome then (.ok (), d)
    else (d.onCommon ({ · with lastShown := none })).through (·.writeWindow cells)

end cycle

/-! ## Histories -/

/-- A state that no client has connected to yet. -/
def start [Driver σ] (settings : Settings) (driver : σ) (console : UInt32) (table : DotTable) :
    SplitServer σ :=
  ⟨(Server.start settings driver console).withTable table, [], fun _ => .unused⟩

variable [Driver σ]

/-- The state after an event. -/
def step (d : SplitServer σ) : Event σ → SplitServer σ
  | .arrival peer now => (d.accept peer now).2
  | .frame id f => (d.onFrame id f).2
  | .departure id => d.disconnect id
  | .clock now => d.maintain now
  | .expiry now => (d.expire now).2
  | .closing => d.shutdown
  | .console number => d.onCommon (·.switchConsole number)
  | .ownerAsked => d.displayOwner.2
  | .recipientAsked command keycode => (d.keyRecipient command keycode).2
  | .cycle => d.cycle.2
  | .hostWindow cells => (d.hostWindow cells).2
  | .hostStatus cells => (d.through (·.hostStatus cells)).2
  | .hostReset => (d.through (·.hostReset)).2
  | .replacement driver => (d.through (·.changeDriver driver)).2
  | .device driver => d.onCommon ({ · with driver })

/-- The state after a history, the oldest event first. -/
def run (d : SplitServer σ) (events : List (Event σ)) : SplitServer σ :=
  events.foldl step d

/-- A state that a server with separate stores may come to after its start. -/
def Reachable (d : SplitServer σ) : Prop :=
  ∃ settings driver console table events, d = (start settings driver console table).run events

end SplitServer

end BrailleShare
