import BrailleShare.Charset.Basic
import BrailleShare.Charset.UpperHalf.Cyrillic
import BrailleShare.Charset.UpperHalf.Iso
import BrailleShare.Charset.UpperHalf.Mac
import BrailleShare.Charset.UpperHalf.Windows

/-!
# Labels of character sets

The names under which a character set may be asked for, in lower case. The names of ISO-8859-1 and
of US-ASCII mean just these sets; any other name is one of the labels that the web uses.
-/

namespace BrailleShare.Charset

/-- The names under which ISO-8859-1 keeps its strict meaning. -/
def latin1Names : List String :=
  ["iso-8859-1", "iso8859-1", "iso_8859-1", "latin1", "latin-1"]

/-- The names under which US-ASCII keeps its strict meaning. -/
def asciiNames : List String :=
  ["us-ascii", "ascii", "ansi_x3.4-1968"]

/-- The labels of the web, by encoding. -/
def labels : List (List String × Charset) :=
  [(["unicode-1-1-utf-8", "unicode11utf8", "unicode20utf8", "utf-8", "utf8", "x-unicode20utf8"],
      utf8),
    (["csunicode", "iso-10646-ucs-2", "ucs-2", "unicode", "unicodefeff", "utf-16", "utf-16le"],
      utf16 .littleEndian),
    (["unicodefffe", "utf-16be"], utf16 .bigEndian),
    (["866", "cp866", "csibm866", "ibm866"], eightBit .ibm866),
    (["csisolatin2", "iso-8859-2", "iso-ir-101", "iso8859-2", "iso88592", "iso_8859-2",
      "iso_8859-2:1987", "l2", "latin2"], eightBit .iso8859_2),
    (["csisolatin3", "iso-8859-3", "iso-ir-109", "iso8859-3", "iso88593", "iso_8859-3",
      "iso_8859-3:1988", "l3", "latin3"], eightBit .iso8859_3),
    (["csisolatin4", "iso-8859-4", "iso-ir-110", "iso8859-4", "iso88594", "iso_8859-4",
      "iso_8859-4:1988", "l4", "latin4"], eightBit .iso8859_4),
    (["csisolatincyrillic", "cyrillic", "iso-8859-5", "iso-ir-144", "iso8859-5", "iso88595",
      "iso_8859-5", "iso_8859-5:1988"], eightBit .iso8859_5),
    (["arabic", "asmo-708", "csiso88596e", "csiso88596i", "csisolatinarabic", "ecma-114",
      "iso-8859-6", "iso-8859-6-e", "iso-8859-6-i", "iso-ir-127", "iso8859-6", "iso88596",
      "iso_8859-6", "iso_8859-6:1987"], eightBit .iso8859_6),
    (["csisolatingreek", "ecma-118", "elot_928", "greek", "greek8", "iso-8859-7", "iso-ir-126",
      "iso8859-7", "iso88597", "iso_8859-7", "iso_8859-7:1987", "sun_eu_greek"],
      eightBit .iso8859_7),
    (["csiso88598e", "csisolatinhebrew", "hebrew", "iso-8859-8", "iso-8859-8-e", "iso-ir-138",
      "iso8859-8", "iso88598", "iso_8859-8", "iso_8859-8:1988", "visual"], eightBit .iso8859_8),
    (["csiso88598i", "iso-8859-8-i", "logical"], eightBit .iso8859_8i),
    (["csisolatin6", "iso-8859-10", "iso-ir-157", "iso8859-10", "iso885910", "l6", "latin6"],
      eightBit .iso8859_10),
    (["iso-8859-13", "iso8859-13", "iso885913"], eightBit .iso8859_13),
    (["iso-8859-14", "iso8859-14", "iso885914"], eightBit .iso8859_14),
    (["csisolatin9", "iso-8859-15", "iso8859-15", "iso885915", "iso_8859-15", "l9"],
      eightBit .iso8859_15),
    (["iso-8859-16"], eightBit .iso8859_16),
    (["cskoi8r", "koi", "koi8", "koi8-r", "koi8_r"], eightBit .koi8r),
    (["koi8-ru", "koi8-u"], eightBit .koi8u),
    (["csmacintosh", "mac", "macintosh", "x-mac-roman"], eightBit .macintosh),
    (["dos-874", "iso-8859-11", "iso8859-11", "iso885911", "tis-620", "windows-874"],
      eightBit .windows874),
    (["cp1250", "windows-1250", "x-cp1250"], eightBit .windows1250),
    (["cp1251", "windows-1251", "x-cp1251"], eightBit .windows1251),
    (["cp1252", "cp819", "csisolatin1", "ibm819", "iso-ir-100", "iso88591", "iso_8859-1:1987",
      "l1", "windows-1252", "x-cp1252"], eightBit .windows1252),
    (["cp1253", "windows-1253", "x-cp1253"], eightBit .windows1253),
    (["cp1254", "csisolatin5", "iso-8859-9", "iso-ir-148", "iso8859-9", "iso88599", "iso_8859-9",
      "iso_8859-9:1989", "l5", "latin5", "windows-1254", "x-cp1254"], eightBit .windows1254),
    (["cp1255", "windows-1255", "x-cp1255"], eightBit .windows1255),
    (["cp1256", "windows-1256", "x-cp1256"], eightBit .windows1256),
    (["cp1257", "windows-1257", "x-cp1257"], eightBit .windows1257),
    (["cp1258", "windows-1258", "x-cp1258"], eightBit .windows1258),
    (["x-mac-cyrillic", "x-mac-ukrainian"], eightBit .macCyrillic),
    (["chinese", "csgb2312", "csiso58gb231280", "gb2312", "gb_2312", "gb_2312-80", "gbk",
      "iso-ir-58", "x-gbk"], gbk),
    (["gb18030"], gb18030),
    (["big5", "big5-hkscs", "cn-big5", "csbig5", "x-x-big5"], big5),
    (["cseucpkdfmtjapanese", "euc-jp", "x-euc-jp"], eucJp),
    (["csiso2022jp", "iso-2022-jp"], iso2022Jp),
    (["csshiftjis", "ms932", "ms_kanji", "shift-jis", "shift_jis", "sjis", "windows-31j",
      "x-sjis"], shiftJis),
    (["cseuckr", "csksc56011987", "euc-kr", "iso-ir-149", "korean", "ks_c_5601-1987",
      "ks_c_5601-1989", "ksc5601", "ksc_5601", "windows-949"], eucKr),
    (["csiso2022kr", "hz-gb-2312", "iso-2022-cn", "iso-2022-cn-ext", "iso-2022-kr",
      "replacement"], replacement),
    (["x-user-defined"], userDefined)]

/-- The character set that goes by a trimmed, lower-case label. -/
def ofLabel? (label : String) : Option Charset :=
  if latin1Names.contains label then some latin1
  else if asciiNames.contains label then some ascii
  else (labels.find? fun entry => entry.1.contains label).map (·.2)

end BrailleShare.Charset
