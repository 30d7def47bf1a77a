/-!
# TOML values

The values of a TOML document, and the rules by which keys and headers put them into tables. A table
remembers where it came from, because that decides who may add to it: a header `[a]` opens a table
that only headers have implied so far; a dotted key adds to tables that dotted keys have made; a
table written inline is complete as it stands.

Of floats and dates nothing but their presence is kept.
-/

namespace BrailleShare.Toml

/-- How a table came to be. -/
inductive Origin where
  /-- It was written between braces. -/
  | inline
  /-- It has a header of its own. -/
  | header
  /-- The header of a table inside it implied it. -/
  | implied
  /-- A dotted key implied it. -/
  | dotted
  deriving DecidableEq, Repr

/-- A value. -/
inductive Value where
  | string (s : String)
  | integer (n : Int)
  | float
  | boolean (b : Bool)
  | datetime
  | array (items : List Value)
  | table (origin : Origin) (entries : List (String × Value))
  /-- The tables of a header between double brackets, in the order of their headers. -/
  | tables (front : List Value) (last : List (String × Value))
  deriving Repr

/-- The keys of a table with their values, in the order in which they came. -/
abbrev Entries := List (String × Value)

namespace Entries

/-- The value of a key. -/
def get? (es : Entries) (key : String) : Option Value :=
  (es.find? fun e => e.1 == key).map (·.2)

/-- Puts another value in the place of a key's. -/
def replace (es : Entries) (key : String) (v : Value) : Entries :=
  es.map fun e => if e.1 = key then (key, v) else e

/-- A new key; one that is there already is refused. -/
def add? (es : Entries) (key : String) (v : Value) : Option Entries :=
  match es.get? key with
  | none => some (es ++ [(key, v)])
  | some _ => none

/-! ## Dotted keys -/

/-- Adds a value under a dotted key. The table that gets it has to be the one written in, or one
that dotted keys have made; `mayAdd` says whether the present one is. -/
def addDotted? (key : String) (v : Value) : List String → Bool → Entries → Option Entries
  | [], mayAdd, es => if mayAdd then es.add? key v else none
  | part :: parts, _, es =>
    match es.get? part with
    | none => (addDotted? key v parts true []).map fun t => es ++ [(part, .table .dotted t)]
    | some (.table .dotted t) =>
      (addDotted? key v parts true t).map fun t => es.replace part (.table .dotted t)
    | some (.table .implied t) =>
      (addDotted? key v parts false t).map fun t => es.replace part (.table .implied t)
    | some (.tables front t) =>
      (addDotted? key v parts false t).map fun t => es.replace part (.tables front t)
    | some _ => none

/-! ## Headers -/

/-- Changes the table that a header's path leads to. Tables that are missing on the way are implied;
of the tables of a double header the last is meant. -/
def changeAt? (f : Entries → Option Entries) : List String → Entries → Option Entries
  | [], es => f es
  | part :: parts, es =>
    match es.get? part with
    | none => (changeAt? f parts []).map fun t => es ++ [(part, .table .implied t)]
    | some (.table .inline _) => none
    | some (.table origin t) =>
      (changeAt? f parts t).map fun t => es.replace part (.table origin t)
    | some (.tables front t) =>
      (changeAt? f parts t).map fun t => es.replace part (.tables front t)
    | some _ => none

/-- Opens the table of a header. It must be new, or implied by headers alone. -/
def openTable? (key : String) (es : Entries) : Option Entries :=
  match es.get? key with
  | none => some (es ++ [(key, .table .header [])])
  | some (.table .implied t) => some (es.replace key (.table .header t))
  | some _ => none

/-- Opens another table of a double header. -/
def openElement? (key : String) (es : Entries) : Option Entries :=
  match es.get? key with
  | none => some (es ++ [(key, .tables [] [])])
  | some (.tables front last) =>
    some (es.replace key (.tables (front ++ [.table .header last]) []))
  | some _ => none

end Entries

end BrailleShare.Toml
