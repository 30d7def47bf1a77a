import BrailleShare.Charset.Gbk.High
import BrailleShare.Charset.Gbk.Low
import BrailleShare.Charset.Gbk.Runs

/-!
# GBK and GB 18030

One octet for ASCII and the euro sign, two for the characters of GBK, four for every character that
has no shorter code. A text in GBK is read as one in GB 18030.
-/

namespace BrailleShare.Charset.Gbk

/-- The column of a second octet below `0xA1`. -/
def lowColumn? (b : UInt8) : Option Nat :=
  if 0x40 ≤ b ∧ b ≤ 0x7E then some (b.toNat - 0x40)
  else if 0x80 ≤ b ∧ b ≤ 0xA0 then some (b.toNat - 0x41)
  else none

/-- The character of a code in a run. -/
def inRun? (code : Nat) : Option Char :=
  (privateRuns.find? fun r => decide (r.1 ≤ code ∧ code ≤ r.2.1)).map fun r =>
    Char.ofNat (r.2.2 + (code - r.1))

/-- Whether an octet begins a character of more than one octet. -/
def isLead (b : UInt8) : Bool :=
  0x81 ≤ b && b ≤ 0xFE

/-- The character of two octets. -/
def pair? (a b : UInt8) : Option Char :=
  if isLead a then
    let row := a.toNat - 0x81
    let listed :=
      if isHigh94 b then highRows.char? row (b.toNat - 0xA1)
      else (lowColumn? b).bind (lowRows.char? row)
    listed.or (inRun? (a.toNat * 256 + b.toNat))
  else none

/-- Whether an octet is an ASCII digit, as the second and the fourth of four octets are. -/
def isDigit (b : UInt8) : Bool :=
  0x30 ≤ b && b ≤ 0x39

/-- The place of four octets in the order of all four-octet codes. -/
def place (a b c d : UInt8) : Nat :=
  (((a.toNat - 0x81) * 10 + (b.toNat - 0x30)) * 126 + (c.toNat - 0x81)) * 10 + (d.toNat - 0x30)

/-- The last place of the characters below `0x10000`. -/
def lastNear : Nat := 39419

/-- The first place of the characters from `0x10000` on. -/
def firstFar : Nat := 189000

/-- The last place of all. -/
def lastFar : Nat := 1237575

/-- The place of a private character that lies in no run. -/
def strayPlace : Nat := 7457

/-- The character at a place of the four-octet codes. -/
def atPlace? (place : Nat) : Option Char :=
  if place = strayPlace then some '\uE7C7'
  else if lastFar < place ∨ (lastNear < place ∧ place < firstFar) then none
  else
    (fourOctetRuns.reverse.find? fun r => decide (r.1 ≤ place)).map fun r =>
      Char.ofNat (r.2 + (place - r.1))

/-- The character of four octets. -/
def four? (a b c d : UInt8) : Option Char :=
  if isLead a && isDigit b && isLead c && isDigit d then atPlace? (place a b c d) else none

/-- The characters of an octet string. -/
def read? : Octets → Option (List Char)
  | [] => some []
  | a :: rest =>
    if a < 0x80 then (read? rest).map (Char.ofNat a.toNat :: ·)
    else if a = 0x80 then (read? rest).map ('€' :: ·)
    else
      match rest with
      | b :: rest =>
        if isDigit b then
          match rest with
          | c :: d :: rest =>
            match four? a b c d with
            | some ch => (read? rest).map (ch :: ·)
            | none => none
          | _ => none
        else
          match pair? a b with
          | some ch => (read? rest).map (ch :: ·)
          | none => none
      | [] => none

end BrailleShare.Charset.Gbk
