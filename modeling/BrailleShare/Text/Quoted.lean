import BrailleShare.Text.Attaching
import BrailleShare.Text.Unprintable

/-!
# Quoted text

How a text taken from outside is shown in a message: between double quotes, with a backslash
before a double quote and before a backslash, and with an escape for every character that would
not show as itself.
-/

namespace BrailleShare.Text

/-- Whether a code lies in one of some ranges. -/
def inRanges (ranges : List (Nat × Nat)) (code : Nat) : Bool :=
  ranges.any fun r => decide (r.1 ≤ code ∧ code ≤ r.2)

/-- Whether a character is shown as itself: it can be printed, stands alone, and is no filler. -/
def isShown (c : Char) : Bool :=
  !(inRanges unprintableRanges c.toNat || inRanges attachingRanges c.toNat
    || inRanges fillerRanges c.toNat)

/-- A character between double quotes. -/
def quotedChar (c : Char) : List Char :=
  if c = '"' then ['\\', '"']
  else if c = '\\' then ['\\', '\\']
  else if c = '\n' then ['\\', 'n']
  else if c = '\r' then ['\\', 'r']
  else if c = '\t' then ['\\', 't']
  else if c.toNat = 0 then ['\\', '0']
  else if isShown c then [c]
  else ['\\', 'u', '\x7b'] ++ Nat.toDigits 16 c.toNat ++ ['\x7d']

/-- A text between double quotes. -/
def quoted (s : String) : String :=
  String.ofList ('"' :: s.toList.flatMap quotedChar ++ ['"'])

end BrailleShare.Text
