import BrailleShare.Octets

/-!
# Upper halves of eight-bit character sets

The eight-bit character sets agree with ASCII on the octets below `0x80`. What a set makes of the
octets from `0x80` to `0xFF` is its upper half: a table of character codes in the octets' order. A
zero stands for an octet without a character.
-/

namespace BrailleShare.Charset

/-- The octets from `0x80` on, as a named set reads them. -/
structure UpperHalf where
  name : String
  codes : List Nat
  deriving DecidableEq, Repr

namespace UpperHalf

/-- The character of an octet. -/
def char? (half : UpperHalf) (b : UInt8) : Option Char :=
  if b < 0x80 then some (Char.ofNat b.toNat)
  else match half.codes[b.toNat - 0x80]? with
    | some (code + 1) => some (Char.ofNat (code + 1))
    | _ => none

/-- The characters of an octet string. -/
def read? (half : UpperHalf) (bs : Octets) : Option (List Char) :=
  bs.mapM half.char?

/-- An octet of ASCII is read as it is in every set. -/
theorem char?_of_lt (half : UpperHalf) {b : UInt8} (h : b < 0x80) :
    half.char? b = some (Char.ofNat b.toNat) := by
  simp [char?, h]

end UpperHalf

end BrailleShare.Charset
