/-!
# Text for a terminal

Text from outside may hold controls with which a terminal can be led astray. Before such a text is
written to a log, these controls are spelled out.
-/

namespace BrailleShare.Text

/-- A character as it is written to a log: the controls that open or end a sequence for the terminal
are spelled out, in two digits up to `0x7F` and between brackets from `0x80` on. -/
def tameChar (c : Char) : List Char :=
  let code := c.toNat
  if code = 0x07 ∨ code = 0x08 ∨ code = 0x0C ∨ code = 0x1B ∨ code = 0x7F then
    ['\\', 'x'] ++ (if code < 0x10 then ['0'] else []) ++ Nat.toDigits 16 code
  else if 0x80 ≤ code ∧ code ≤ 0x9F then
    ['\\', 'u', '\x7b'] ++ Nat.toDigits 16 code ++ ['\x7d']
  else [c]

/-- A text as it is written to a log. -/
def tame (s : String) : String :=
  String.ofList (s.toList.flatMap tameChar)

end BrailleShare.Text
