/-!
# Strings of TOML

The four ways to write a string: between double quotes with escapes, between single quotes without,
and both again over several lines between three quotes each. Each reader starts behind the opening
quotes and gives the string and what follows the closing ones.
-/

namespace BrailleShare.Toml

/-- A blank within a line. -/
def isSpace (c : Char) : Bool :=
  c == ' ' || c == '\t'

/-- A character that may stand in a comment or a string: a tab or no control character. -/
def isPlain (c : Char) : Bool :=
  c == '\t' || (0x20 ≤ c.toNat && c.toNat ≠ 0x7F)

/-- What follows the end of a line. -/
def afterNewline? : List Char → Option (List Char)
  | '\n' :: rest => some rest
  | '\r' :: '\n' :: rest => some rest
  | _ => none

/-- A text without the end of a line before it, if there is one. -/
def dropNewline (cs : List Char) : List Char :=
  (afterNewline? cs).getD cs

/-! ## Escapes -/

/-- The character of an escape with a single letter or sign. -/
def simpleEscape? (c : Char) : Option Char :=
  if c = 'b' then some '\x08'
  else if c = 't' then some '\t'
  else if c = 'n' then some '\n'
  else if c = 'f' then some '\x0c'
  else if c = 'r' then some '\r'
  else if c = '"' then some '"'
  else if c = '\\' then some '\\'
  else none

/-- The value of a hexadecimal digit. -/
def hexValue? (c : Char) : Option Nat :=
  if c.isDigit then some (c.toNat - 48)
  else if 'a' ≤ c ∧ c ≤ 'f' then some (c.toNat - 87)
  else if 'A' ≤ c ∧ c ≤ 'F' then some (c.toNat - 55)
  else none

/-- The character whose code is written in hexadecimal digits, if there is one. -/
def scalar? (digits : List Char) : Option Char := do
  let ds ← digits.mapM hexValue?
  let n := ds.foldl (fun n d => n * 16 + d) 0
  if n < 0xD800 ∨ (0xDFFF < n ∧ n < 0x110000) then some (Char.ofNat n) else none

/-- Puts a character before a string that was read. -/
def prepend (c : Char) (r : List Char × List Char) : List Char × List Char :=
  (c :: r.1, r.2)

/-! ## One line -/

/-- Reads on behind a double quote. -/
def basicString? : List Char → Option (List Char × List Char)
  | [] => none
  | '\\' :: 'u' :: a :: b :: c :: d :: rest => do
    return prepend (← scalar? [a, b, c, d]) (← basicString? rest)
  | '\\' :: 'U' :: a :: b :: c :: d :: e :: f :: g :: h :: rest => do
    return prepend (← scalar? [a, b, c, d, e, f, g, h]) (← basicString? rest)
  | '\\' :: c :: rest => do
    return prepend (← simpleEscape? c) (← basicString? rest)
  | c :: rest =>
    if c = '"' then some ([], rest)
    else if isPlain c ∧ c ≠ '\\' then (basicString? rest).map (prepend c)
    else none

/-- Reads on behind a single quote. -/
def literalString? : List Char → Option (List Char × List Char)
  | [] => none
  | c :: rest =>
    if c = '\'' then some ([], rest)
    else if isPlain c then (literalString? rest).map (prepend c)
    else none

/-! ## Several lines -/

/-- How three quotes close a string: one or two more before them belong to the string. Gives how
many do, and what follows. -/
def closing? (quote : Char) : List Char → Option (Nat × List Char)
  | a :: b :: c :: rest =>
    if a = quote ∧ b = quote ∧ c = quote then
      match rest with
      | d :: e :: more =>
        if d = quote ∧ e = quote then some (2, more)
        else if d = quote then some (1, e :: more)
        else some (0, rest)
      | [d] => if d = quote then some (1, []) else some (0, rest)
      | [] => some (0, [])
    else none
  | _ => none

/-- Whether a line ends behind a backslash, blanks aside. -/
def lineGoesOn (cs : List Char) : Bool :=
  (afterNewline? (cs.dropWhile isSpace)).isSome

/-- Reads on behind three double quotes. After a backslash at the end of a line, `skipping` holds
until something other than blanks and ends of lines comes. -/
def basicLines? (skipping : Bool) : List Char → Option (List Char × List Char)
  | [] => none
  | '\r' :: '\n' :: rest =>
    if skipping then basicLines? true rest
    else (basicLines? false rest).map (prepend '\n')
  | '\\' :: 'u' :: a :: b :: c :: d :: rest => do
    return prepend (← scalar? [a, b, c, d]) (← basicLines? false rest)
  | '\\' :: 'U' :: a :: b :: c :: d :: e :: f :: g :: h :: rest => do
    return prepend (← scalar? [a, b, c, d, e, f, g, h]) (← basicLines? false rest)
  | '\\' :: c :: rest =>
    if lineGoesOn (c :: rest) then basicLines? true (c :: rest)
    else do return prepend (← simpleEscape? c) (← basicLines? false rest)
  | c :: rest =>
    if skipping ∧ (isSpace c ∨ c = '\n') then basicLines? true rest
    else
      match closing? '"' (c :: rest) with
      | some (n, more) => some (List.replicate n '"', more)
      | none =>
        if c = '\n' ∨ (isPlain c ∧ c ≠ '\\') then (basicLines? false rest).map (prepend c)
        else none

/-- Reads on behind three single quotes. -/
def literalLines? : List Char → Option (List Char × List Char)
  | [] => none
  | '\r' :: '\n' :: rest => (literalLines? rest).map (prepend '\n')
  | c :: rest =>
    match closing? '\'' (c :: rest) with
    | some (n, more) => some (List.replicate n '\'', more)
    | none =>
      if c = '\n' ∨ isPlain c then (literalLines? rest).map (prepend c) else none

/-! ## Any string -/

/-- Reads a string on one line. -/
def quotedKey? : List Char → Option (List Char × List Char)
  | '"' :: rest => basicString? rest
  | '\'' :: rest => literalString? rest
  | _ => none

/-- Reads a string of any kind. The end of a line right behind three quotes is no part of it. -/
def string? : List Char → Option (List Char × List Char)
  | '"' :: '"' :: '"' :: rest => basicLines? false (dropNewline rest)
  | '\'' :: '\'' :: '\'' :: rest => literalLines? (dropNewline rest)
  | cs => quotedKey? cs

end BrailleShare.Toml
