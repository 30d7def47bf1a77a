import BrailleShare.Charset.Label
import BrailleShare.Text.Blank
import BrailleShare.Text.Numeral
import BrailleShare.Text.Quoted

/-!
# Reading text

A client may name the character set of the text it writes. Without a name every octet is the
character of its code; with a name the text is read in the set that the name stands for, as a whole
or not at all.
-/

namespace BrailleShare

/-- Why a text could not be read. -/
inductive TextError where
  /-- An octet beyond ASCII where only ASCII may be. -/
  | notAscii (octet : UInt8)
  /-- No character set goes by this label. -/
  | unknownCharset (label : String)
  /-- The octets are not well formed in the named encoding. -/
  | malformed (encoding : String)
  deriving DecidableEq, Repr

/-- The reason in words. -/
def TextError.message : TextError → String
  | .notAscii octet => s!"byte 0x{Text.hex 2 octet.toNat} is not ASCII"
  | .unknownCharset label => s!"unknown charset {Text.quoted label}"
  | .malformed encoding => s!"text is not valid {encoding}"

namespace Charset

/-- A name as it is looked up: without blanks around it, in lower case. -/
def normalLabel (name : String) : String :=
  String.ofList (Text.lowerAscii (Text.trim name.toList))

/-- Reads a text in the character set that a client named, or ISO-8859-1 if it named none. -/
def decode (charset : Option String) (bs : Octets) : Except TextError (List Char) :=
  match charset with
  | none => .ok (Octets.latin1 bs)
  | some name =>
    let label := normalLabel name
    match ofLabel? label with
    | none => .error (.unknownCharset label)
    | some cs =>
      match cs.read? bs with
      | some text => .ok text
      | none =>
        match cs, bs.find? (0x80 ≤ ·) with
        | ascii, some bad => .error (.notAscii bad)
        | cs, _ => .error (.malformed cs.name)

end Charset

end BrailleShare
