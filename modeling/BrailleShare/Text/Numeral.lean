/-!
# Numerals

Hexadecimal numbers of a fixed width for messages, and the reading of decimal numbers that have an
upper limit.
-/

namespace BrailleShare.Text

/-- A number in upper-case hexadecimal with at least `width` digits. -/
def hex (width n : Nat) : String :=
  let digits := (Nat.toDigits 16 n).map Char.toUpper
  String.ofList (List.replicate (width - digits.length) '0' ++ digits)

/-- The value of a string of ASCII digits; none for other characters and for no digits at all. -/
def decimal? (cs : List Char) : Option Nat :=
  if cs ≠ [] ∧ cs.all Char.isDigit then
    some (cs.foldl (fun n c => 10 * n + (c.toNat - '0'.toNat)) 0)
  else none

/-- A decimal number of at most `limit`; a plus sign may stand before it. -/
def numeral? (limit : Nat) (cs : List Char) : Option Nat :=
  let digits := match cs with
    | '+' :: rest => rest
    | _ => cs
  (decimal? digits).filter (· ≤ limit)

end BrailleShare.Text
