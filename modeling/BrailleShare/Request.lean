import BrailleShare.Request.Reader
import BrailleShare.Window

/-!
# Requests

What the payload of each request means. Every decoder reads the whole payload: no octet is ignored,
and nothing may follow the last field. Beside the decoders stand the encoders of the simple
requests, whose images they accept.
-/

namespace BrailleShare

/-- The first packet of a client. -/
structure Login where
  version : UInt32
  key : Octets
  deriving DecidableEq, Repr

/-- A request for a tty. -/
structure TtyRequest where
  path : List UInt32
  /-- Empty for commands, or the name of a driver for its keycodes. -/
  mode : String
  deriving DecidableEq, Repr

/-- A request concerning a window. -/
inductive WindowRequest where
  /-- Stop showing this client's content. -/
  | clear
  | update (u : Update)
  deriving DecidableEq, Repr

namespace Request

/-- Splits an authentication into the version and the key. -/
def decodeLogin (payload : Octets) : Except RequestError Login := do
  let (version, c) ← (Cursor.start payload).word
  return ⟨version, c.rest⟩

/-- Reads the number of ttys on a path, the path, and the name of a mode. The payload has to be
long enough for the path and one octet more before anything else is looked at. -/
def decodeTty (payload : Octets) : Except RequestError TtyRequest := do
  let (count, c) ← (Cursor.start payload).word
  let needed := 4 * count.toNat + 5
  if payload.length < needed then
    .error (.malformed (.short "tty path" needed payload.length))
  else
    let (path, c) ← c.take "tty path" (4 * count.toNat)
    let (mode, c) ← c.name
    c.done
    return ⟨Octets.words path, mode⟩

/-- Reads the number of the child that gets focus. -/
def decodeFocus (payload : Octets) : Except RequestError UInt32 := do
  if payload.length = 4 then
    let (number, _) ← (Cursor.start payload).word
    return number
  else .error (.malformed (.length "focus" 4 payload.length))

/-- Reads the ends of a range of keys. -/
def decodeRange (payload : Octets) : Except RequestError (UInt32 × UInt32) := do
  if payload.length = 8 then
    let (lo, c) ← (Cursor.start payload).word
    let (hi, _) ← c.word
    return (lo, hi)
  else .error (.malformed (.length "key range" 8 payload.length))

/-- Reads a list of keys. -/
def decodeKeys (payload : Octets) : Except RequestError (List UInt32) :=
  if payload.length % 4 = 0 then .ok (Octets.words payload)
  else .error (.malformed (.keyList payload.length))

/-- Reads the name of the driver that a client wants to talk to. The word that opens raw mode is
checked before the name is looked at. -/
def decodeRaw (payload : Octets) : Except RequestError String := do
  if payload.length ≤ 4 then .error (.insufficient 5 payload.length)
  else
    let (magic, c) ← (Cursor.start payload).word
    if magic ≠ rawMagic then .error (.parameter (.rawMagic magic))
    else
      let (name, c) ← c.name
      c.done
      return name

/-! ## Encoders -/

/-- An authentication on the wire. -/
def encodeLogin (l : Login) : Octets :=
  Octets.ofWord l.version ++ l.key

/-- A name on the wire, of characters below `0x100`. -/
def encodeName (name : String) : Octets :=
  UInt8.ofNat name.length :: name.toList.map fun c => UInt8.ofNat c.toNat

/-- A request for a tty on the wire. -/
def encodeTty (r : TtyRequest) : Octets :=
  Octets.ofWord (UInt32.ofNat r.path.length) ++ Octets.ofWords r.path ++ encodeName r.mode

/-- A change of focus on the wire. -/
def encodeFocus (number : UInt32) : Octets :=
  Octets.ofWord number

/-- A range of keys on the wire. -/
def encodeKeyRange (lo hi : UInt32) : Octets :=
  Octets.ofWord lo ++ Octets.ofWord hi

/-- A list of keys on the wire. -/
def encodeKeySet (keys : List UInt32) : Octets :=
  Octets.ofWords keys

/-- A request for raw mode on the wire. -/
def encodeRaw (driver : String) : Octets :=
  Octets.ofWord rawMagic ++ encodeName driver

end Request

end BrailleShare
