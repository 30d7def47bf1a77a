import BrailleShare.Charset.Jis0208

/-!
# Shift_JIS

One octet for ASCII and the katakana of half the width, two for the characters of JIS X 0208. The
first of two octets stands for two rows of the standard, and the rows behind its last are left to
the users.
-/

namespace BrailleShare.Charset.ShiftJis

/-- Whether an octet is the first of two. -/
def isLead (b : UInt8) : Bool :=
  (0x81 ≤ b && b ≤ 0x9F) || (0xE0 ≤ b && b ≤ 0xFC)

/-- Whether an octet may be the second of two. -/
def isTrail (b : UInt8) : Bool :=
  (0x40 ≤ b && b ≤ 0x7E) || (0x80 ≤ b && b ≤ 0xFC)

/-- The place of two octets among all pairs. -/
def place (lead trail : UInt8) : Nat :=
  let pair := lead.toNat - (if lead < 0xA0 then 0x81 else 0xC1)
  let cell := trail.toNat - (if trail < 0x7F then 0x40 else 0x41)
  pair * 188 + cell

/-- The rows of the standard. -/
def standardRows : Nat := 94

/-- The rows that are left to the users. -/
def userRows : Nat := 20

/-- The character of two octets. -/
def pair? (lead trail : UInt8) : Option Char :=
  if isLead lead && isTrail trail then
    let cell := place lead trail
    let row := cell / 94
    if row < standardRows then Jis0208.rows.char? row (cell % 94)
    else if row < standardRows + userRows then
      some (Char.ofNat (0xE000 + (cell - standardRows * 94)))
    else Jis0208.makerRows.char? (row - (standardRows + userRows)) (cell % 94)
  else none

/-- The characters of an octet string. -/
def read? : Octets → Option (List Char)
  | [] => some []
  | a :: rest =>
    if a ≤ 0x80 then (read? rest).map (Char.ofNat a.toNat :: ·)
    else if 0xA1 ≤ a ∧ a ≤ 0xDF then (read? rest).map (halfwidth 0xA1 a :: ·)
    else
      match rest with
      | b :: rest =>
        match pair? a b with
        | some c => (read? rest).map (c :: ·)
        | none => none
      | [] => none

end BrailleShare.Charset.ShiftJis
