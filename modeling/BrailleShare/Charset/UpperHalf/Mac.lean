import BrailleShare.Charset.UpperHalf

/-!
# The Macintosh sets

Upper halves of the Macintosh character sets.
-/

namespace BrailleShare.Charset.UpperHalf

/-- Western European. -/
def macintosh : UpperHalf :=
  ⟨"macintosh",
    [0xC4, 0xC5, 0xC7, 0xC9, 0xD1, 0xD6, 0xDC, 0xE1,
      0xE0, 0xE2, 0xE4, 0xE3, 0xE5, 0xE7, 0xE9, 0xE8,
      0xEA, 0xEB, 0xED, 0xEC, 0xEE, 0xEF, 0xF1, 0xF3,
      0xF2, 0xF4, 0xF6, 0xF5, 0xFA, 0xF9, 0xFB, 0xFC,
      0x2020, 0xB0, 0xA2, 0xA3, 0xA7, 0x2022, 0xB6, 0xDF,
      0xAE, 0xA9, 0x2122, 0xB4, 0xA8, 0x2260, 0xC6, 0xD8,
      0x221E, 0xB1, 0x2264, 0x2265, 0xA5, 0xB5, 0x2202, 0x2211,
      0x220F, 0x3C0, 0x222B, 0xAA, 0xBA, 0x3A9, 0xE6, 0xF8,
      0xBF, 0xA1, 0xAC, 0x221A, 0x192, 0x2248, 0x2206, 0xAB,
      0xBB, 0x2026, 0xA0, 0xC0, 0xC3, 0xD5, 0x152, 0x153,
      0x2013, 0x2014, 0x201C, 0x201D, 0x2018, 0x2019, 0xF7, 0x25CA,
      0xFF, 0x178, 0x2044, 0x20AC, 0x2039, 0x203A, 0xFB01, 0xFB02,
      0x2021, 0xB7, 0x201A, 0x201E, 0x2030, 0xC2, 0xCA, 0xC1,
      0xCB, 0xC8, 0xCD, 0xCE, 0xCF, 0xCC, 0xD3, 0xD4,
      0xF8FF, 0xD2, 0xDA, 0xDB, 0xD9, 0x131, 0x2C6, 0x2DC,
      0xAF, 0x2D8, 0x2D9, 0x2DA, 0xB8, 0x2DD, 0x2DB, 0x2C7]⟩

/-- Cyrillic, with the Ukrainian letters. -/
def macCyrillic : UpperHalf :=
  ⟨"x-mac-cyrillic",
    [0x410, 0x411, 0x412, 0x413, 0x414, 0x415, 0x416, 0x417,
      0x418, 0x419, 0x41A, 0x41B, 0x41C, 0x41D, 0x41E, 0x41F,
      0x420, 0x421, 0x422, 0x423, 0x424, 0x425, 0x426, 0x427,
      0x428, 0x429, 0x42A, 0x42B, 0x42C, 0x42D, 0x42E, 0x42F,
      0x2020, 0xB0, 0x490, 0xA3, 0xA7, 0x2022, 0xB6, 0x406,
      0xAE, 0xA9, 0x2122, 0x402, 0x452, 0x2260, 0x403, 0x453,
      0x221E, 0xB1, 0x2264, 0x2265, 0x456, 0xB5, 0x491, 0x408,
      0x404, 0x454, 0x407, 0x457, 0x409, 0x459, 0x40A, 0x45A,
      0x458, 0x405, 0xAC, 0x221A, 0x192, 0x2248, 0x2206, 0xAB,
      0xBB, 0x2026, 0xA0, 0x40B, 0x45B, 0x40C, 0x45C, 0x455,
      0x2013, 0x2014, 0x201C, 0x201D, 0x2018, 0x2019, 0xF7, 0x201E,
      0x40E, 0x45E, 0x40F, 0x45F, 0x2116, 0x401, 0x451, 0x44F,
      0x430, 0x431, 0x432, 0x433, 0x434, 0x435, 0x436, 0x437,
      0x438, 0x439, 0x43A, 0x43B, 0x43C, 0x43D, 0x43E, 0x43F,
      0x440, 0x441, 0x442, 0x443, 0x444, 0x445, 0x446, 0x447,
      0x448, 0x449, 0x44A, 0x44B, 0x44C, 0x44D, 0x44E, 0x20AC]⟩

end BrailleShare.Charset.UpperHalf
