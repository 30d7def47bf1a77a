import BrailleShare.Text.Numeral
import BrailleShare.Toml.Value

/-!
# Numbers, truth values and dates of TOML

A value that is neither quoted nor bracketed is one *word* of letters, digits and a few signs; only
a date and a time of day may have a blank between them. Each kind of value is a form that the whole
word has to have.
-/

namespace BrailleShare.Toml

/-! ## Digits -/

/-- The value of a digit in bases up to sixteen. -/
def digitValue? (c : Char) : Option Nat :=
  if c.isDigit then some (c.toNat - '0'.toNat)
  else if 'a' ≤ c ∧ c ≤ 'f' then some (c.toNat - 'a'.toNat + 10)
  else if 'A' ≤ c ∧ c ≤ 'F' then some (c.toNat - 'A'.toNat + 10)
  else none

/-- The value of a digit of a given base. -/
def digitOf? (base : Nat) (c : Char) : Option Nat :=
  (digitValue? c).filter (· < base)

/-- Further digits, each of which may have an underscore before it. -/
def moreDigits? (base : Nat) : List Char → Option (List Nat)
  | [] => some []
  | '_' :: c :: rest => do return (← digitOf? base c) :: (← moreDigits? base rest)
  | c :: rest => do return (← digitOf? base c) :: (← moreDigits? base rest)

/-- One or more digits, with underscores between them at will. -/
def digits? (base : Nat) : List Char → Option (List Nat)
  | [] => none
  | c :: rest => do return (← digitOf? base c) :: (← moreDigits? base rest)

/-- The number that digits of a base spell. -/
def ofDigits (base : Nat) (ds : List Nat) : Nat :=
  ds.foldl (fun n d => n * base + d) 0

/-- A word's sign, whether it is a minus, and the rest. -/
def splitSign : List Char → Bool × List Char
  | '-' :: rest => (true, rest)
  | '+' :: rest => (false, rest)
  | cs => (false, cs)

/-- The digits of a decimal number that has no zero to spare before it. -/
def decimalDigits? (cs : List Char) : Option (List Nat) :=
  match cs with
  | ['0'] => some [0]
  | '0' :: _ => none
  | cs => digits? 10 cs

/-! ## Integers -/

/-- The least and the greatest integer. -/
def integerRange : Int × Int := (-9223372036854775808, 9223372036854775807)

/-- An integer if it is in range. -/
def inRange? (n : Int) : Option Int :=
  if integerRange.1 ≤ n ∧ n ≤ integerRange.2 then some n else none

/-- An integer in the base that its mark says, or a decimal one with a sign. -/
def integer? (word : List Char) : Option Int :=
  match word with
  | '0' :: 'x' :: cs => (digits? 16 cs).bind fun ds => inRange? (ofDigits 16 ds)
  | '0' :: 'o' :: cs => (digits? 8 cs).bind fun ds => inRange? (ofDigits 8 ds)
  | '0' :: 'b' :: cs => (digits? 2 cs).bind fun ds => inRange? (ofDigits 2 ds)
  | _ =>
    let (negative, cs) := splitSign word
    (decimalDigits? cs).bind fun ds =>
      let n : Int := ofDigits 10 ds
      inRange? (if negative then -n else n)

/-! ## Floats -/

/-- What lies before and behind the first character that passes a test. -/
def splitFirst? (test : Char → Bool) (cs : List Char) : Option (List Char × List Char) :=
  match cs.dropWhile (!test ·) with
  | [] => none
  | _ :: back => some (cs.takeWhile (!test ·), back)

/-- The decimal number with these digits, `shift` places further left, is so great that the nearest
double is infinite: it lies at least half a unit above the greatest one. -/
def overflows (ds : List Nat) (shift : Int) : Bool :=
  let n := ofDigits 10 ds
  let places : Int := (Nat.toDigits 10 n).length + shift
  let bound := Nat.pow 2 1024 - Nat.pow 2 970
  if n = 0 ∨ places < 300 then false
  else if 400 < places then true
  else if 0 ≤ shift then decide (bound ≤ n * Nat.pow 10 shift.toNat)
  else decide (bound * Nat.pow 10 (-shift).toNat ≤ n)

/-- The exponent of a float. -/
def exponent? (cs : List Char) : Option Int :=
  let (negative, cs) := splitSign cs
  (digits? 10 cs).map fun ds =>
    let n : Int := ofDigits 10 ds
    if negative then -n else n

/-- A float in figures: an integer part, and a fraction or an exponent or both. -/
def isFloatInFigures (word : List Char) : Bool :=
  let (mantissa, exponent) := match splitFirst? (fun c => c == 'e' || c == 'E') word with
    | some (mantissa, back) => (mantissa, some back)
    | none => (word, none)
  let (whole, fraction) := match splitFirst? (· == '.') mantissa with
    | some (whole, back) => (whole, some back)
    | none => (mantissa, none)
  let (negative, whole) := splitSign whole
  let shift := match exponent with
    | some cs => exponent? cs
    | none => some 0
  let places := match fraction with
    | some cs => digits? 10 cs
    | none => some []
  match decimalDigits? whole, places, shift with
  | some ds, some fs, some shift =>
    (exponent.isSome || fraction.isSome) &&
      (negative || !overflows (ds ++ fs) (shift - fs.length))
  | _, _, _ => false

/-- A float in figures or by name. -/
def isFloat (word : List Char) : Bool :=
  let name := (splitSign word).2
  name == ['i', 'n', 'f'] || name == ['n', 'a', 'n'] || isFloatInFigures word

/-! ## Dates and times -/

/-- A number of exactly two digits. -/
def twoDigits? (a b : Char) : Option Nat :=
  if a.isDigit ∧ b.isDigit then some (10 * (a.toNat - 48) + (b.toNat - 48)) else none

/-- Two digits that are a number within bounds. -/
def isBetween (lo hi : Nat) (a b : Char) : Bool :=
  match twoDigits? a b with
  | some n => decide (lo ≤ n ∧ n ≤ hi)
  | none => false

/-- How many days a month has. -/
def daysIn (year month : Nat) : Nat :=
  if month = 2 then
    if year % 4 = 0 ∧ (year % 100 ≠ 0 ∨ year % 400 = 0) then 29 else 28
  else if month = 4 ∨ month = 6 ∨ month = 9 ∨ month = 11 then 30
  else 31

/-- A date, and what follows it. -/
def afterDate? : List Char → Option (List Char)
  | y₁ :: y₂ :: y₃ :: y₄ :: '-' :: m₁ :: m₂ :: '-' :: d₁ :: d₂ :: rest => do
    let century ← twoDigits? y₁ y₂
    let year ← twoDigits? y₃ y₄
    let month ← twoDigits? m₁ m₂
    if 1 ≤ month ∧ month ≤ 12 ∧ isBetween 1 (daysIn (100 * century + year) month) d₁ d₂ then
      some rest
    else none
  | _ => none

/-- Without a fraction of a second, if there is one. -/
def dropFraction : List Char → List Char
  | '.' :: c :: rest => if c.isDigit then rest.dropWhile Char.isDigit else '.' :: c :: rest
  | cs => cs

/-- A time of day, and what follows it. -/
def afterTime? : List Char → Option (List Char)
  | h₁ :: h₂ :: ':' :: m₁ :: m₂ :: ':' :: s₁ :: s₂ :: rest =>
    if isBetween 0 23 h₁ h₂ && isBetween 0 59 m₁ m₂ && isBetween 0 60 s₁ s₂ then
      some (dropFraction rest)
    else none
  | _ => none

/-- Nothing, or how far the time is from the world's. -/
def isOffset : List Char → Bool
  | [] => true
  | ['Z'] => true
  | ['z'] => true
  | [sign, h₁, h₂, ':', m₁, m₂] =>
    (sign == '+' || sign == '-') && isBetween 0 23 h₁ h₂ && isBetween 0 59 m₁ m₂
  | _ => false

/-- A date with or without a time, or a time of day. -/
def isDatetime (word : List Char) : Bool :=
  match afterDate? word with
  | some [] => true
  | some (c :: rest) =>
    (c == 'T' || c == 't' || c == ' ') && ((afterTime? rest).map isOffset).getD false
  | none => afterTime? word == some []

/-! ## Words -/

/-- What a word consists of. -/
def isWordChar (c : Char) : Bool :=
  c.isAlphanum || c == '+' || c == '-' || c == '_' || c == '.' || c == ':'

/-- The word at the front of a text, and the rest. A date and a word that a blank separates from it
are one. -/
def takeWord (cs : List Char) : List Char × List Char :=
  let word := cs.takeWhile isWordChar
  let rest := cs.dropWhile isWordChar
  match rest with
  | ' ' :: more =>
    if afterDate? word == some [] && !(more.takeWhile isWordChar).isEmpty then
      (word ++ ' ' :: more.takeWhile isWordChar, more.dropWhile isWordChar)
    else (word, rest)
  | _ => (word, rest)

/-- The value of a word. -/
def ofWord? (word : List Char) : Option Value :=
  if word = ['t', 'r', 'u', 'e'] then some (.boolean true)
  else if word = ['f', 'a', 'l', 's', 'e'] then some (.boolean false)
  else if isDatetime word then some .datetime
  else if isFloat word then some .float
  else (integer? word).map .integer

end BrailleShare.Toml
