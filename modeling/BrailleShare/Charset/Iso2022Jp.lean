import BrailleShare.Charset.Jis0208

/-!
# ISO-2022-JP

Seven bits, with sequences that tell which set the octets behind them belong to. A sequence that
follows another one at once makes a text malformed.
-/

namespace BrailleShare.Charset.Iso2022Jp

/-- The sets that a sequence can choose. -/
inductive Mode where
  | ascii
  /-- ASCII with a yen sign and an overline in it. -/
  | roman
  /-- The katakana of half the width. -/
  | katakana
  /-- JIS X 0208, two octets for a character. -/
  | kanji
  deriving DecidableEq, Repr

/-- The octet with which a sequence begins. -/
def escape : UInt8 := 0x1B

/-- The set that the two octets behind an escape choose. -/
def Mode.ofSequence? (a b : UInt8) : Option Mode :=
  if a = 0x24 ∧ (b = 0x40 ∨ b = 0x42) then some .kanji
  else if a = 0x28 ∧ b = 0x42 then some .ascii
  else if a = 0x28 ∧ b = 0x4A then some .roman
  else if a = 0x28 ∧ b = 0x49 then some .katakana
  else none

/-- The character of one octet, in the sets that take one octet for a character. -/
def single? (mode : Mode) (b : UInt8) : Option Char :=
  let plain := if b < 0x80 ∧ b ≠ 0x0E ∧ b ≠ 0x0F then some (Char.ofNat b.toNat) else none
  match mode with
  | .ascii => plain
  | .roman => if b = 0x5C then some '¥' else if b = 0x7E then some '‾' else plain
  | .katakana => if 0x21 ≤ b ∧ b ≤ 0x5F then some (halfwidth 0x21 b) else none
  | .kanji => none

/-- The character of two octets in JIS X 0208. -/
def double? (a b : UInt8) : Option Char :=
  if 0x21 ≤ a ∧ a ≤ 0x7E ∧ 0x21 ≤ b ∧ b ≤ 0x7E then
    Jis0208.rows.char? (a.toNat - 0x21) (b.toNat - 0x21)
  else none

/-- The characters of an octet string in a set; `fresh` tells that the set has only just been
chosen. -/
def readIn? (mode : Mode) (fresh : Bool) : Octets → Option (List Char)
  | [] => some []
  | a :: rest =>
    if a = escape then
      match rest with
      | b :: c :: rest =>
        match Mode.ofSequence? b c with
        | some next => if fresh then none else readIn? next true rest
        | none => none
      | _ => none
    else if mode = .kanji then
      match rest with
      | b :: rest =>
        match double? a b with
        | some ch => (readIn? mode false rest).map (ch :: ·)
        | none => none
      | [] => none
    else
      match single? mode a with
      | some ch => (readIn? mode false rest).map (ch :: ·)
      | none => none

/-- The characters of an octet string, which begins in ASCII. -/
def read? (bs : Octets) : Option (List Char) :=
  readIn? .ascii false bs

end BrailleShare.Charset.Iso2022Jp
