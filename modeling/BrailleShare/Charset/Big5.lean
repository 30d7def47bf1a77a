import BrailleShare.Charset.Big5.High
import BrailleShare.Charset.Big5.Low

/-!
# Big5

One octet for ASCII, two for a Chinese character. Four pairs of octets stand for a letter with an
accent that has no character of its own.
-/

namespace BrailleShare.Charset.Big5

/-- The letter and the accent of two octets. -/
def accented? (a b : UInt8) : Option (List Char) :=
  if a ≠ 0x88 then none
  else if b = 0x62 then some ['\u00CA', '\u0304']
  else if b = 0x64 then some ['\u00CA', '\u030C']
  else if b = 0xA3 then some ['\u00EA', '\u0304']
  else if b = 0xA5 then some ['\u00EA', '\u030C']
  else none

/-- The character of two octets. -/
def pair? (a b : UInt8) : Option Char :=
  if 0x81 ≤ a ∧ a ≤ 0xFE then
    let row := a.toNat - 0x81
    if isHigh94 b then highRows.char? row (b.toNat - 0xA1)
    else if 0x40 ≤ b ∧ b ≤ 0x7E then lowRows.char? row (b.toNat - 0x40)
    else none
  else none

/-- The characters of an octet string. -/
def read? : Octets → Option (List Char)
  | [] => some []
  | a :: rest =>
    if a < 0x80 then (read? rest).map (Char.ofNat a.toNat :: ·)
    else
      match rest with
      | b :: rest =>
        match accented? a b, pair? a b with
        | some cs, _ => (read? rest).map (cs ++ ·)
        | none, some c => (read? rest).map (c :: ·)
        | none, none => none
      | [] => none

end BrailleShare.Charset.Big5
