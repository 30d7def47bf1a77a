import BrailleShare.Request

/-!
# Write requests

A write begins with a word of flags, one for each field that follows, and the fields come in the
order of their flags: region, text, AND mask, OR mask, cursor, character set. Four zero octets ask
for the client's content to be shown no more. Everything is checked before anything is given back,
so that an update is carried out as a whole or not at all.
-/

namespace BrailleShare.Request

/-! ## Flags -/

namespace WriteFlag

/-- A display is named by its number; this is refused. -/
def displayNumber : UInt32 := 0x01

/-- The region is given. -/
def region : UInt32 := 0x02

/-- The text is given. -/
def text : UInt32 := 0x04

/-- The AND mask is given. -/
def andMask : UInt32 := 0x08

/-- The OR mask is given. -/
def orMask : UInt32 := 0x10

/-- The cursor is given. -/
def cursor : UInt32 := 0x20

/-- The text's character set is given. -/
def charset : UInt32 := 0x40

/-- The flags in the order of their fields. -/
def all : List UInt32 :=
  [displayNumber, region, text, andMask, orMask, cursor, charset]

end WriteFlag

/-- Whether a flag is set. -/
def hasFlag (flags flag : UInt32) : Bool :=
  flags &&& flag != 0

/-! ## Fields -/

/-- Reads a field if its flag is set. -/
def optional {α : Type} (present : Bool) (field : Cursor → Except RequestError (α × Cursor))
    (c : Cursor) : Except RequestError (Option α × Cursor) :=
  if present then do
    let (a, c) ← field c
    return (some a, c)
  else .ok (none, c)

/-- Reads a region: its first cell, counted from one, and its size. Another field has to follow. -/
def readRegion (cells : Nat) (c : Cursor) : Except RequestError ((Nat × Nat) × Cursor) := do
  if c.rest.length ≤ 8 then .error (.malformed .bareRegion)
  else
    let (first, c) ← c.word
    let (size, c) ← c.word
    let start := first.toNat
    let size := size.toNat
    if 1 ≤ start ∧ 1 ≤ size ∧ start + size - 1 ≤ cells then return ((start, size), c)
    else .error (.parameter (.region start size cells))

/-- Reads a text: its length in octets, then the octets. -/
def readText (c : Cursor) : Except RequestError (Octets × Cursor) := do
  let (size, c) ← c.word
  c.take "text" size.toNat

/-- Reads the cursor's cell, counted from one, or zero for none. -/
def readCursor (cells : Nat) (c : Cursor) : Except RequestError (Nat × Cursor) := do
  let (value, c) ← c.word
  if value.toNat ≤ cells then return (value.toNat, c)
  else .error (.malformed (.cursor value.toNat cells))

/-- Reads the name of a character set, for which there has to be a text. -/
def readCharset (hasText : Bool) (c : Cursor) : Except RequestError (String × Cursor) :=
  if hasText then
    match c.name with
    | .error (.parameter (.longName size)) => .error (.malformed (.longName size))
    | r => r
  else .error (.malformed .charsetAlone)

/-- The characters of a text, one for each cell of its region. -/
def textFor (cells : Nat) (charset : Option String) (bs : Octets) :
    Except RequestError (List Char) :=
  match Charset.decode charset bs with
  | .error reason => .error (.malformed (.text reason))
  | .ok text =>
    if text.length = cells then .ok text
    else .error (.malformed (.textLength text.length cells))

/-! ## The request -/

/-- Reads what follows the flags of a write that is no clear. -/
def decodeUpdate (flags : UInt32) (cells : Nat) (c : Cursor) : Except RequestError Update := do
  if hasFlag flags WriteFlag.displayNumber then .error .displayNumber
  else
    let (region, c) ← optional (hasFlag flags WriteFlag.region) (readRegion cells) c
    let (start, size) := region.getD (1, cells)
    let (text, c) ← optional (hasFlag flags WriteFlag.text) readText c
    let (andMask, c) ←
      optional (hasFlag flags WriteFlag.andMask) (·.take "and attributes" size) c
    let (orMask, c) ← optional (hasFlag flags WriteFlag.orMask) (·.take "or attributes" size) c
    let (cursor, c) ← optional (hasFlag flags WriteFlag.cursor) (readCursor cells) c
    let (charset, c) ←
      optional (hasFlag flags WriteFlag.charset) (readCharset text.isSome) c
    c.done
    match text with
    | none => return ⟨start, size, none, andMask, orMask, cursor⟩
    | some bs =>
      let characters ← textFor size charset bs
      return ⟨start, size, some characters, andMask, orMask, cursor⟩

/-- Reads a write for a display of so many cells. -/
def decodeWindow (cells : Nat) (payload : Octets) : Except RequestError WindowRequest := do
  let (flags, c) ← (Cursor.start payload).word
  if c.rest = [] ∧ flags = 0 then return .clear
  else
    let u ← decodeUpdate flags cells c
    return .update u

end BrailleShare.Request
