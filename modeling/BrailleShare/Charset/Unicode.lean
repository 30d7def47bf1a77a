import BrailleShare.Octets

/-!
# Unicode encoding forms

Strict decoding of UTF-8 and of UTF-16 in either octet order. An octet string that is not well
formed has no reading at all: nothing is replaced and nothing is skipped. A byte order mark is a
character like any other.
-/

namespace BrailleShare.Charset

/-! ## UTF-8 -/

/-- Whether an octet continues a character. -/
def isTail (b : UInt8) : Bool :=
  0x80 ≤ b && b ≤ 0xBF

/-- The six bits of a continuing octet. -/
def tailBits (b : UInt8) : Nat :=
  b.toNat - 0x80

/-- The least and greatest octet that may follow a leading octet. Only these keep a character from
being written longer than it has to be, from being a surrogate, and from lying beyond the last
code. -/
def secondRange (lead : UInt8) : UInt8 × UInt8 :=
  if lead = 0xE0 then (0xA0, 0xBF)
  else if lead = 0xED then (0x80, 0x9F)
  else if lead = 0xF0 then (0x90, 0xBF)
  else if lead = 0xF4 then (0x80, 0x8F)
  else (0x80, 0xBF)

/-- Whether an octet may follow a leading octet. -/
def isSecond (lead b : UInt8) : Bool :=
  (secondRange lead).1 ≤ b && b ≤ (secondRange lead).2

/-- The characters of a UTF-8 octet string. -/
def utf8? : Octets → Option (List Char)
  | [] => some []
  | a :: rest =>
    if a < 0x80 then (utf8? rest).map (Char.ofNat a.toNat :: ·)
    else if 0xC2 ≤ a ∧ a ≤ 0xDF then
      match rest with
      | b :: rest =>
        if isTail b then
          (utf8? rest).map (Char.ofNat ((a.toNat - 0xC0) * 64 + tailBits b) :: ·)
        else none
      | _ => none
    else if 0xE0 ≤ a ∧ a ≤ 0xEF then
      match rest with
      | b :: c :: rest =>
        if isSecond a b ∧ isTail c then
          (utf8? rest).map
            (Char.ofNat (((a.toNat - 0xE0) * 64 + tailBits b) * 64 + tailBits c) :: ·)
        else none
      | _ => none
    else if 0xF0 ≤ a ∧ a ≤ 0xF4 then
      match rest with
      | b :: c :: d :: rest =>
        if isSecond a b ∧ isTail c ∧ isTail d then
          (utf8? rest).map
            (Char.ofNat ((((a.toNat - 0xF0) * 64 + tailBits b) * 64 + tailBits c) * 64
              + tailBits d) :: ·)
        else none
      | _ => none
    else none

/-! ## UTF-16 -/

/-- Which octet of a unit comes first. -/
inductive OctetOrder where
  | littleEndian
  | bigEndian
  deriving DecidableEq, Repr

/-- The 16-bit units of an octet string of even length. -/
def units? (order : OctetOrder) : Octets → Option (List Nat)
  | [] => some []
  | [_] => none
  | a :: b :: rest =>
    let unit := match order with
      | .littleEndian => b.toNat * 256 + a.toNat
      | .bigEndian => a.toNat * 256 + b.toNat
    (units? order rest).map (unit :: ·)

/-- Whether a unit is the first of a pair. -/
def isHighSurrogate (u : Nat) : Bool :=
  0xD800 ≤ u && u < 0xDC00

/-- Whether a unit is the second of a pair. -/
def isLowSurrogate (u : Nat) : Bool :=
  0xDC00 ≤ u && u < 0xE000

/-- The characters of a string of 16-bit units. A pair of surrogates is one character; a surrogate
by itself is none. -/
def ofUnits? : List Nat → Option (List Char)
  | [] => some []
  | u :: rest =>
    if isHighSurrogate u then
      match rest with
      | v :: rest =>
        if isLowSurrogate v then
          (ofUnits? rest).map
            (Char.ofNat (0x10000 + (u - 0xD800) * 1024 + (v - 0xDC00)) :: ·)
        else none
      | _ => none
    else if isLowSurrogate u then none
    else (ofUnits? rest).map (Char.ofNat u :: ·)

/-- The characters of a UTF-16 octet string. -/
def utf16? (order : OctetOrder) (bs : Octets) : Option (List Char) :=
  (units? order bs).bind ofUnits?

end BrailleShare.Charset
