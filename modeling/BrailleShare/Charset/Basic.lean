import BrailleShare.Charset.Big5
import BrailleShare.Charset.EucJp
import BrailleShare.Charset.EucKr
import BrailleShare.Charset.Gbk
import BrailleShare.Charset.Iso2022Jp
import BrailleShare.Charset.ShiftJis
import BrailleShare.Charset.Unicode
import BrailleShare.Charset.UpperHalf

/-!
# Character sets

The ways to read octets as characters. Each reads an octet string as a whole or not at all: nothing
that is malformed is replaced or skipped.
-/

namespace BrailleShare

/-- A way to read octets as characters. -/
inductive Charset where
  /-- Every octet is the character of its code. -/
  | latin1
  /-- Only the octets below `0x80`. -/
  | ascii
  | utf8
  | utf16 (order : Charset.OctetOrder)
  /-- ASCII below `0x80` and a table above it. -/
  | eightBit (half : Charset.UpperHalf)
  /-- ASCII below `0x80` and private characters above it. -/
  | userDefined
  /-- Stands for encodings that are not to be read: only the empty text has a reading. -/
  | replacement
  | shiftJis
  | eucJp
  | iso2022Jp
  | eucKr
  | big5
  /-- Read as GB 18030, under a name of its own. -/
  | gbk
  | gb18030
  deriving DecidableEq, Repr

namespace Charset

/-- The name of the encoding, for messages. -/
def name : Charset → String
  | latin1 => "ISO-8859-1"
  | ascii => "US-ASCII"
  | utf8 => "UTF-8"
  | utf16 .littleEndian => "UTF-16LE"
  | utf16 .bigEndian => "UTF-16BE"
  | eightBit half => half.name
  | userDefined => "x-user-defined"
  | replacement => "replacement"
  | shiftJis => "Shift_JIS"
  | eucJp => "EUC-JP"
  | iso2022Jp => "ISO-2022-JP"
  | eucKr => "EUC-KR"
  | big5 => "Big5"
  | gbk => "GBK"
  | gb18030 => "gb18030"

/-- Octets from `0x80` on stand for a block of private characters. -/
def userDefinedChar (b : UInt8) : Char :=
  if b < 0x80 then Char.ofNat b.toNat else Char.ofNat (0xF780 + (b.toNat - 0x80))

/-- The characters of an octet string, if it is well formed. -/
def read? (charset : Charset) (bs : Octets) : Option (List Char) :=
  match charset with
  | latin1 => some (Octets.latin1 bs)
  | ascii => if bs.all (· < 0x80) then some (Octets.latin1 bs) else none
  | utf8 => utf8? bs
  | utf16 order => utf16? order bs
  | eightBit half => half.read? bs
  | userDefined => some (bs.map userDefinedChar)
  | replacement => if bs = [] then some [] else none
  | shiftJis => ShiftJis.read? bs
  | eucJp => EucJp.read? bs
  | iso2022Jp => Iso2022Jp.read? bs
  | eucKr => EucKr.read? bs
  | big5 => Big5.read? bs
  | gbk | gb18030 => Gbk.read? bs

end Charset

end BrailleShare
