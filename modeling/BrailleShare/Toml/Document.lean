import BrailleShare.Toml.Quote
import BrailleShare.Toml.Scalar

/-!
# TOML documents

A document is a sequence of lines: a header, a key with its value, a comment, or nothing. Values may
contain values, up to a limit of nesting; an array may stretch over several lines, a table written
inline may not. A document is read as a whole or not at all.

Where a reader loops over parts, each part has to take something from the text; the test for it
never fails, since no part is empty, and makes the end of the loop plain.
-/

namespace BrailleShare.Toml

/-! ## Blanks and comments -/

/-- Without blanks before it. -/
def dropSpaces (cs : List Char) : List Char :=
  cs.dropWhile isSpace

/-- What follows the rest of a line in which there is nothing but a comment. -/
def afterLine? (cs : List Char) : Option (List Char) :=
  let cs := match dropSpaces cs with
    | '#' :: rest => rest.dropWhile isPlain
    | cs => cs
  match cs with
  | [] => some []
  | cs => afterNewline? cs

/-- Without blanks, ends of lines and comments before it; `inComment` says whether it begins in a
comment. -/
def dropLines (inComment : Bool) : List Char → List Char
  | [] => []
  | '\r' :: '\n' :: rest => dropLines false rest
  | c :: rest =>
    if c = '\n' then dropLines false rest
    else if inComment then
      if isPlain c then dropLines true rest else c :: rest
    else if isSpace c then dropLines false rest
    else if c = '#' then dropLines true rest
    else c :: rest

/-! ## Keys -/

/-- Whether a character may stand in a key without quotes. -/
def isKeyChar (c : Char) : Bool :=
  c.isAlphanum || c == '_' || c == '-'

/-- Reads one part of a key. -/
def keyPart? (cs : List Char) : Option (String × List Char) :=
  match quotedKey? cs with
  | some (s, rest) => some (String.ofList s, rest)
  | none =>
    match cs.takeWhile isKeyChar with
    | [] => none
    | word => some (String.ofList word, cs.dropWhile isKeyChar)

/-- Reads the parts of a key, with dots between them. -/
def keyParts? (cs : List Char) : Option (List String × List Char) :=
  match keyPart? (dropSpaces cs) with
  | none => none
  | some (part, rest) =>
    match dropSpaces rest with
    | '.' :: more =>
      if more.length < cs.length then
        (keyParts? more).map fun r => (part :: r.1, r.2)
      else none
    | rest => some ([part], rest)
  termination_by cs.length

/-- How many parts a key may have, and how deep values may lie in each other. -/
def maxDepth : Nat := 79

/-- Reads a key: the parts before the last, and the last. -/
def key? (cs : List Char) : Option ((List String × String) × List Char) :=
  match keyParts? cs with
  | some (parts, rest) =>
    match parts.getLast? with
    | some last => if parts.length ≤ maxDepth then some ((parts.dropLast, last), rest) else none
    | none => none
  | none => none

/-! ## Values -/

/-- A reader gives what it has read and what follows. -/
abbrev Reader (α : Type) := List Char → Option (α × List Char)

/-- Reads the items of an array behind its opening bracket, and the closing one. A comma may follow
the last item. -/
def items? (value : Reader Value) (cs : List Char) : Option (List Value × List Char) :=
  match dropLines false cs with
  | ']' :: rest => some ([], rest)
  | start =>
    match value start with
    | none => none
    | some (v, rest) =>
      match dropLines false rest with
      | ']' :: rest => some ([v], rest)
      | ',' :: rest =>
        if rest.length < cs.length then
          (items? value rest).map fun r => (v :: r.1, r.2)
        else none
      | _ => none
  termination_by cs.length

/-- Reads a key and its value. -/
def pair? (value : Reader Value) : Reader ((List String × String) × Value) := fun cs => do
  let (key, rest) ← key? cs
  match rest with
  | '=' :: rest =>
    let (v, rest) ← value (dropSpaces rest)
    return ((key, v), rest)
  | _ => none

/-- Reads the pairs of an inline table behind its opening brace, and the closing one. No comma may
follow the last pair. -/
def pairs? (value : Reader Value) (es : Entries) (cs : List Char) :
    Option (Entries × List Char) :=
  match pair? value cs with
  | none => none
  | some (((path, key), v), rest) =>
    match es.addDotted? key v path true, dropSpaces rest with
    | some es, '}' :: rest => some (es, rest)
    | some es, ',' :: rest =>
      if rest.length < cs.length then pairs? value es rest else none
    | _, _ => none
  termination_by cs.length

/-- Reads a value that lies less deep than a limit. -/
def value? : Nat → Reader Value
  | depth, '[' :: rest =>
    match depth with
    | 0 => none
    | depth + 1 => (items? (value? depth) rest).map fun r => (.array r.1, r.2)
  | depth, '\x7b' :: rest =>
    match depth with
    | 0 => none
    | depth + 1 =>
      match dropSpaces rest with
      | '\x7d' :: rest => some (.table .inline [], rest)
      | _ => (pairs? (value? depth) [] rest).map fun r => (.table .inline r.1, r.2)
  | _, cs =>
    match string? cs with
    | some (s, rest) => some (.string (String.ofList s), rest)
    | none =>
      let (word, rest) := takeWord cs
      (ofWord? word).map fun v => (v, rest)

/-! ## Lines -/

/-- A document as far as it has been read: its tables, and where the last header leads. -/
structure Draft where
  root : Entries
  header : List String
  deriving Repr

namespace Draft

/-- Adds a key and its value to the table of the last header. -/
def add? (d : Draft) (path : List String) (key : String) (v : Value) : Option Draft :=
  (d.root.changeAt? (Entries.addDotted? key v path true) d.header).map fun root =>
    { d with root }

/-- Goes on in the table of a new header. -/
def openAt? (d : Draft) (step : String → Entries → Option Entries) (path : List String)
    (key : String) : Option Draft :=
  (d.root.changeAt? (step key) path).map fun root => ⟨root, path ++ [key]⟩

end Draft

/-- Reads a header behind its first bracket. -/
def header? (d : Draft) (cs : List Char) : Option (Draft × List Char) :=
  match cs with
  | '[' :: rest =>
    match key? rest with
    | some ((path, key), ']' :: ']' :: rest) =>
      (d.openAt? Entries.openElement? path key).map fun d => (d, rest)
    | _ => none
  | _ =>
    match key? cs with
    | some ((path, key), ']' :: rest) =>
      (d.openAt? Entries.openTable? path key).map fun d => (d, rest)
    | _ => none

/-- Reads what one line says, up to the comment or the end. -/
def statement? (d : Draft) (cs : List Char) : Option (Draft × List Char) :=
  match cs with
  | '[' :: rest => header? d rest
  | '#' :: _ | '\n' :: _ | '\r' :: _ | [] => some (d, cs)
  | _ =>
    match pair? (value? maxDepth) cs with
    | some (((path, key), v), rest) => (d.add? path key v).map fun d => (d, rest)
    | none => none

/-- Reads the lines of a document one by one. -/
def lines? (d : Draft) (cs : List Char) : Option Entries :=
  match statement? d (dropSpaces cs) with
  | none => none
  | some (d, rest) =>
    match afterLine? rest with
    | none => none
    | some [] => some d.root
    | some (c :: rest) => if rest.length + 1 < cs.length then lines? d (c :: rest) else none
  termination_by cs.length

/-- The table that a document is. A byte order mark before it does not count. -/
def document? (cs : List Char) : Option Entries :=
  match cs with
  | '\uFEFF' :: rest => lines? ⟨[], []⟩ rest
  | _ => lines? ⟨[], []⟩ cs

end BrailleShare.Toml
