import BrailleShare.Charset.Jis0208
import BrailleShare.Charset.Jis0212

/-!
# EUC-JP

One octet for ASCII, two for the characters of JIS X 0208, two behind a shift for the katakana of
half the width, and three for the characters of JIS X 0212.
-/

namespace BrailleShare.Charset.EucJp

/-- The octet before a katakana of half the width. -/
def katakanaShift : UInt8 := 0x8E

/-- The octet before a supplementary character. -/
def supplementShift : UInt8 := 0x8F

/-- The characters of an octet string. -/
def read? : Octets → Option (List Char)
  | [] => some []
  | a :: rest =>
    if a < 0x80 then (read? rest).map (Char.ofNat a.toNat :: ·)
    else
      match rest with
      | b :: rest =>
        if a = katakanaShift then
          if 0xA1 ≤ b ∧ b ≤ 0xDF then (read? rest).map (halfwidth 0xA1 b :: ·) else none
        else if a = supplementShift then
          match rest with
          | c :: rest =>
            match Jis0212.rows.high94? b c with
            | some ch => (read? rest).map (ch :: ·)
            | none => none
          | [] => none
        else
          match Jis0208.rows.high94? a b with
          | some ch => (read? rest).map (ch :: ·)
          | none => none
      | [] => none

end BrailleShare.Charset.EucJp
