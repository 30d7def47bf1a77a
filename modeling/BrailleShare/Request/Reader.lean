import BrailleShare.Charset
import BrailleShare.Packet

/-!
# Reading payloads

A payload is read field by field from its front. A `Cursor` holds what is still to be read and
remembers how long the whole payload was, so that a refusal can say where it arose. A payload that
is refused is refused for one reason, the first in the order of its fields.
-/

namespace BrailleShare

/-! ## Refusals -/

/-- What is wrong with a field whose size or content does not fit. -/
inductive FieldFault where
  /-- The payload is too short for the field and what has to follow it. -/
  | short (field : String) (needed available : Nat)
  /-- The payload has not the one length it may have. -/
  | length (field : String) (expected available : Nat)
  /-- The field would reach beyond the payload. -/
  | beyond (field : String) (size start available : Nat)
  /-- A list of keys that does not consist of words. -/
  | keyList (available : Nat)
  /-- A region that nothing follows. -/
  | bareRegion
  /-- A cursor outside the display. -/
  | cursor (value cells : Nat)
  /-- A character set for no text. -/
  | charsetAlone
  /-- A name beyond the limit, where a name is not a parameter of its own. -/
  | longName (size : Nat)
  /-- A text that cannot be read. -/
  | text (reason : TextError)
  /-- A text with another number of characters than its region has cells. -/
  | textLength (characters cells : Nat)
  deriving DecidableEq, Repr

/-- What is wrong with a value that was read but may not be. -/
inductive ParameterFault where
  /-- A name beyond the limit. -/
  | longName (size : Nat)
  /-- Another word than the one that opens raw mode. -/
  | rawMagic (word : UInt32)
  /-- A region that is empty or does not lie within the display. -/
  | region (start size cells : Nat)
  deriving DecidableEq, Repr

/-- Why a payload was refused. -/
inductive RequestError where
  /-- A word reaches beyond the payload. -/
  | insufficient (needed available : Nat)
  | malformed (fault : FieldFault)
  /-- Something follows the last field. -/
  | surplus (declared available : Nat)
  | parameter (fault : ParameterFault)
  /-- A display was asked for by its number. -/
  | displayNumber
  deriving DecidableEq, Repr

namespace FieldFault

/-- The fault in words. -/
def message : FieldFault → String
  | short field needed available => s!"{field}: need {needed} bytes, got {available}"
  | length field expected available => s!"{field}: expected {expected} bytes, got {available}"
  | beyond field size start available =>
    s!"{field}: {size} bytes at offset {start} exceed payload of {available}"
  | keyList available => s!"key set of {available} bytes is not a multiple of 4"
  | bareRegion => "region needs 8 bytes and a field after it"
  | cursor value cells => s!"cursor {value} beyond {cells} cells"
  | charsetAlone => "charset given without text"
  | longName size => s!"name of {size} bytes exceeds {maxName}"
  | text reason => reason.message
  | textLength characters cells =>
    s!"text decodes to {characters} characters for a region of {cells}"

end FieldFault

namespace ParameterFault

/-- The fault in words. -/
def message : ParameterFault → String
  | longName size => s!"name of {size} bytes exceeds {maxName}"
  | rawMagic word => s!"raw magic 0x{Text.hex 8 word.toNat}"
  | region start size cells => s!"region {start}+{size} outside {cells} cells"

end ParameterFault

namespace RequestError

/-- The refusal in words. -/
def message : RequestError → String
  | insufficient needed available =>
    s!"insufficient data: need at least {needed} bytes, got {available}"
  | malformed fault => s!"malformed payload: {fault.message}"
  | surplus declared available =>
    s!"payload length mismatch: declared {declared}, available {available}"
  | parameter fault => s!"invalid parameter: {fault.message}"
  | displayNumber => "unsupported: display number"

/-- The error code that the client gets. -/
def code : RequestError → ErrorCode
  | insufficient .. | malformed _ | surplus .. => .invalidPacket
  | parameter _ => .invalidParameter
  | displayNumber => .notSupported

end RequestError

/-! ## Cursors -/

/-- A place in a payload. -/
structure Cursor where
  /-- The length of the whole payload. -/
  whole : Nat
  /-- What is still to be read. -/
  rest : Octets
  deriving DecidableEq, Repr

namespace Cursor

/-- The start of a payload. -/
def start (payload : Octets) : Cursor :=
  ⟨payload.length, payload⟩

/-- How many octets have been read. -/
def offset (c : Cursor) : Nat :=
  c.whole - c.rest.length

/-- Reads a word. -/
def word (c : Cursor) : Except RequestError (UInt32 × Cursor) :=
  match c.rest with
  | a :: b :: d :: e :: rest => .ok (Octets.word a b d e, ⟨c.whole, rest⟩)
  | _ => .error (.insufficient (c.offset + 4) c.whole)

/-- Reads a field of a known size. -/
def take (c : Cursor) (field : String) (size : Nat) : Except RequestError (Octets × Cursor) :=
  if size ≤ c.rest.length then .ok (c.rest.take size, ⟨c.whole, c.rest.drop size⟩)
  else .error (.malformed (.beyond field size c.offset c.whole))

/-- Reads a name: an octet with its length, then its characters, one octet each. -/
def name (c : Cursor) : Except RequestError (String × Cursor) :=
  match c.rest with
  | [] => .error (.malformed (.short "name length" (c.offset + 1) c.whole))
  | size :: rest =>
    if maxName < size.toNat then .error (.parameter (.longName size.toNat))
    else do
      let (bs, c) ← take ⟨c.whole, rest⟩ "name" size.toNat
      return (String.ofList (Octets.latin1 bs), c)

/-- Nothing may be left. -/
def done (c : Cursor) : Except RequestError Unit :=
  if c.rest = [] then .ok () else .error (.surplus c.offset c.whole)

end Cursor

end BrailleShare
