import BrailleShare.Frame
import BrailleShare.Request.Write
import BrailleShare.Server.Admission

/-!
# Requests of clients

What each request of a client that has logged in does. A request is carried out or refused with an
error code; a refused request leaves everything as it was, but for what the log tells and for the
ids of ttys that were made on the way. Which refusal comes first is part of the protocol and differs
from request to request.
-/

namespace BrailleShare.Server

variable {σ : Type}

/-- Why a request was refused. -/
inductive Refusal where
  /-- The request is at fault in itself, or is not to be carried out now. -/
  | request (code : ErrorCode)
  /-- The tree of ttys did not go along with it. -/
  | tty (e : TtyError)
  deriving DecidableEq, Repr

/-- The error code that the client is told. -/
def Refusal.code : Refusal → ErrorCode
  | .request code => code
  | .tty (.limitReached _) => .noMemory
  | .tty (.noSuchTty _) => .invalidParameter

/-- What came of a request. -/
structure Outcome (σ : Type) where
  server : Server σ
  /-- Why the request was refused, if it was. -/
  refusal : Option Refusal

/-- The request was carried out. -/
def done (s : Server σ) : Outcome σ :=
  ⟨s, none⟩

/-- The request was carried out, and the client is told so. -/
def acknowledge (s : Server σ) (id : ClientId) : Outcome σ :=
  (s.send id .ack).done

/-- The request was refused. -/
def refuse (s : Server σ) (code : ErrorCode) : Outcome σ :=
  ⟨s, some (.request code)⟩

/-- The request was refused by the tree. -/
def refuseTty (s : Server σ) (e : TtyError) : Outcome σ :=
  ⟨s, some (.tty e)⟩

/-! ## About the driver -/

/-- Answers a question about the driver that takes no arguments. -/
def tell (s : Server σ) (c : Client) (payload : Octets) (answer : Packet) : Outcome σ :=
  if payload ≠ [] then s.refuse .invalidPacket
  else if s.isRaw c.id then s.refuse .illegalInstruction
  else (s.send c.id answer).done

/-! ## Taking and leaving a tty -/

/-- Seats a client from the lobby in a tty, with a blank window and the mode's own mask. -/
def seatClient (s : Server σ) (c : Client) (tty : TtyId) (path : List UInt32)
    (mode : KeyMode) : Outcome σ :=
  match s.tree.move c.id TtyTree.lobby tty with
  | .error e => (s.clearTty tty).1.refuseTty e
  | .ok tree =>
    let holding : Holding :=
      ⟨tty, mode, mode.defaultMask, Window.blank s.info.size.cells, .empty⟩
    ((({ s with tree } : Server σ).setHolding c.id (some holding)).note
      (.ttyAcquired c.id path mode)).acknowledge c.id

/-- Gives a client the tty of a path, which is made if it is not there. A client that holds a tty
gets no other. -/
def takeTty (s : Server σ) (c : Client) (payload : Octets) : Outcome σ :=
  if s.isRaw c.id then s.refuse .illegalInstruction
  else
    match Request.decodeTty payload with
    | .error e => s.refuse e.code
    | .ok request =>
      match KeyMode.ofName? request.mode s.info.name s.info.keycodes with
      | none => s.refuse .notSupported
      | some mode =>
        match s.tree.lookup request.path, c.holding with
        | .found tty, some h =>
          if tty = h.tty then
            s.refuse (if h.mode = mode then .illegalInstruction else .notSupported)
          else s.refuse .invalidParameter
        | .missing .., some _ => s.refuse .invalidParameter
        | .found tty, none => s.seatClient c tty request.path mode
        | .missing deepest matched, none =>
          let made := s.tree.create deepest (request.path.drop matched)
          let s := ({ s with tree := made.tree } : Server σ).noteMade made.made
          match made.result with
          | .error e => (s.note (.pathRefused c.id e)).refuseTty e
          | .ok tty => s.seatClient c tty request.path mode

/-- Carries out a request for which a client has to hold a tty and not to be in raw mode. -/
def withHolding (s : Server σ) (c : Client) (f : Holding → Outcome σ) : Outcome σ :=
  if s.isRaw c.id then s.refuse .illegalInstruction
  else
    match c.holding with
    | none => s.refuse .illegalInstruction
    | some h => f h

/-- Gives focus to a child of the client's tty. -/
def focusChild (s : Server σ) (c : Client) (payload : Octets) : Outcome σ :=
  s.withHolding c fun h =>
    match Request.decodeFocus payload with
    | .error e => s.refuse e.code
    | .ok number =>
      match s.tree.setFocus h.tty (some number) with
      | .error e => s.refuseTty e
      | .ok tree => ({ s with tree } : Server σ).done

/-- Takes a client back to the lobby; nothing stays of what it held. -/
def returnTty (s : Server σ) (c : Client) : Outcome σ :=
  s.withHolding c fun h =>
    match s.tree.move c.id h.tty TtyTree.lobby with
    | .error e => s.refuseTty e
    | .ok tree =>
      let r := (({ s with tree } : Server σ).setHolding c.id none).clearTty h.tty
      ((r.1.note (.ttyReleased c.id r.2)).forgetShown c.id).acknowledge c.id

/-! ## Masks -/

/-- What a request does to a mask. -/
inductive MaskEdit where
  /-- The keys are wanted no more. -/
  | ignore
  /-- The keys are wanted. -/
  | unignore
  deriving DecidableEq, Repr

/-- Changes a range of a mask. -/
def MaskEdit.onRange (change : MaskEdit) (mask : RangeSet) (lo hi : UInt32) :
    Except RangeError RangeSet :=
  match change with
  | .ignore => mask.remove lo hi
  | .unignore => mask.add lo hi

/-- Changes one value of a mask. -/
def MaskEdit.onValue (change : MaskEdit) (mask : RangeSet) (v : UInt32) : RangeSet :=
  match change with
  | .ignore => mask.erase ⟨v, v⟩
  | .unignore => mask.insert ⟨v, v⟩

/-- Gives a client another mask. -/
def putMask (s : Server σ) (c : Client) (h : Holding) (mask : RangeSet) : Outcome σ :=
  (s.setHolding c.id (some { h with mask })).acknowledge c.id

/-- Changes a range of the client's mask. -/
def changeRange (s : Server σ) (c : Client) (payload : Octets) (change : MaskEdit) :
    Outcome σ :=
  s.withHolding c fun h =>
    match Request.decodeRange payload with
    | .error e => s.refuse e.code
    | .ok (lo, hi) =>
      match change.onRange h.mask lo hi with
      | .error _ => s.refuse .invalidParameter
      | .ok mask => s.putMask c h mask

/-- Changes single values of the client's mask. -/
def changeSet (s : Server σ) (c : Client) (payload : Octets) (change : MaskEdit) : Outcome σ :=
  s.withHolding c fun h =>
    match Request.decodeKeys payload with
    | .error e => s.refuse e.code
    | .ok keys => s.putMask c h (keys.foldl change.onValue h.mask)

/-! ## Windows -/

/-- Changes the client's window, or stops showing it. -/
def write (s : Server σ) (c : Client) (payload : Octets) : Outcome σ :=
  if payload.length < 4 then s.refuse .invalidPacket
  else s.withHolding c fun h =>
    match Request.decodeWindow s.info.size.cells payload with
    | .error e => s.refuse e.code
    | .ok .clear => (s.setHolding c.id (some { h with freshness := .empty })).done
    | .ok (.update u) =>
      (s.setHolding c.id (some { h with window := h.window.apply u, freshness := .pending })).done

/-! ## Raw mode -/

/-- Gives the device to a client that knows the driver by name. -/
def takeRaw (s : Server σ) (c : Client) (payload : Octets) : Outcome σ :=
  if s.isRaw c.id then s.refuse .illegalInstruction
  else
    match Request.decodeRaw payload with
    | .error e => s.refuse e.code
    | .ok name =>
      if name ≠ s.info.name ∨ s.info.raw = false then s.refuse .notSupported
      else
        match s.rawHolder with
        | some owner => (s.note (.rawModeBusy c.id owner)).refuse .rawModeBusy
        | none =>
          (({ s with rawHolder := some c.id } : Server σ).note (.rawModeGranted c.id)).acknowledge
            c.id

/-- Takes the device back from the client that has it. -/
def returnRaw (s : Server σ) (c : Client) : Outcome σ :=
  if s.isRaw c.id then
    (({ s with rawHolder := none } : Server σ).note (.rawModeReleased c.id)).acknowledge c.id
  else s.refuse .illegalInstruction

/-- Hands octets to the device for the client that has it. -/
def passRaw [Driver σ] (s : Server σ) (c : Client) (payload : Octets) : Outcome σ :=
  if s.isRaw c.id then
    let a := Driver.writePacket s.driver payload
    let s := s.called (.writePacket payload) a
    match a.outcome with
    | .ok _ => s.done
    | .error e => (s.note (.rawWriteFailed c.id e)).refuse .driverError
  else s.refuse .illegalInstruction

/-! ## Packets -/

/-- Carries out the request of a client that has logged in. -/
def carryOut [Driver σ] (s : Server σ) (c : Client) (p : Packet) : Outcome σ :=
  match p.kind? with
  | some .getDriverId => s.tell c p.payload (.driverText .getDriverId s.info.code)
  | some .getDriverName => s.tell c p.payload (.driverText .getDriverName s.info.name)
  | some .getDisplaySize =>
    s.tell c p.payload (.displaySize s.info.size.columns s.info.size.rows)
  | some .getTty => s.takeTty c p.payload
  | some .setFocus => s.focusChild c p.payload
  | some .leaveTty => s.returnTty c
  | some .ignoreKeyRange => s.changeRange c p.payload .ignore
  | some .unignoreKeyRange => s.changeRange c p.payload .unignore
  | some .ignoreKeySet => s.changeSet c p.payload .ignore
  | some .unignoreKeySet => s.changeSet c p.payload .unignore
  | some .write => s.write c p.payload
  | some .getRaw => s.takeRaw c p.payload
  | some .leaveRaw => s.returnRaw c
  | some .packet => s.passRaw c p.payload
  | _ => s.refuse .unknownInstruction

/-- Carries out a request and reports a refusal to the client. -/
def answer [Driver σ] (s : Server σ) (c : Client) (p : Packet) : Server σ :=
  let o := s.carryOut c p
  match o.refusal with
  | none => o.server
  | some r =>
    let style := ReplyStyle.ofKind p.kind?
    (o.server.note (.requestFailed c.id p.type r.code style)).send c.id (style.report r.code p)

/-- Handles a packet from a connection: a login first, requests afterwards. -/
def onPacket [Driver σ] (s : Server σ) (id : ClientId) (p : Packet) :
    Verdict × Server σ :=
  match s.client? id with
  | none => (.close, s)
  | some c => if c.loggedIn then (.proceed, s.answer c p) else s.logIn id p

/-- Handles the report that a packet was too long to be read. -/
def onOversized (s : Server σ) (id : ClientId) (type : UInt32) (size : Nat) :
    Verdict × Server σ :=
  match s.client? id with
  | none => (.close, s)
  | some c =>
    if c.loggedIn then (.proceed, s.note (.oversized id type size))
    else s.turnAway id .connectionRefused (.oversizedLogin id size)

/-- Handles whatever a frame amounts to. -/
def onFrame [Driver σ] (s : Server σ) (id : ClientId) : Frame → Verdict × Server σ
  | .packet p => s.onPacket id p
  | .oversized type size => s.onOversized id type size

end BrailleShare.Server
