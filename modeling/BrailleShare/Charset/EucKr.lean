import BrailleShare.Charset.UnifiedHangul

/-!
# EUC-KR

One octet for ASCII, two for the characters of the unified Hangul code.
-/

namespace BrailleShare.Charset.EucKr

/-- The column of a second octet below `0xA1`: capital letters, small letters, the rest. -/
def lowColumn? (b : UInt8) : Option Nat :=
  if 0x41 ≤ b ∧ b ≤ 0x5A then some (b.toNat - 0x41)
  else if 0x61 ≤ b ∧ b ≤ 0x7A then some (b.toNat - 0x61 + 26)
  else if 0x81 ≤ b ∧ b ≤ 0xA0 then some (b.toNat - 0x81 + 52)
  else none

/-- The character of two octets. -/
def pair? (a b : UInt8) : Option Char :=
  if 0x81 ≤ a ∧ a ≤ 0xFE then
    let row := a.toNat - 0x81
    if isHigh94 b then UnifiedHangul.highRows.char? row (b.toNat - 0xA1)
    else (lowColumn? b).bind (UnifiedHangul.lowRows.char? row)
  else none

/-- The characters of an octet string. -/
def read? : Octets → Option (List Char)
  | [] => some []
  | a :: rest =>
    if a < 0x80 then (read? rest).map (Char.ofNat a.toNat :: ·)
    else
      match rest with
      | b :: rest =>
        match pair? a b with
        | some c => (read? rest).map (c :: ·)
        | none => none
      | [] => none

end BrailleShare.Charset.EucKr
