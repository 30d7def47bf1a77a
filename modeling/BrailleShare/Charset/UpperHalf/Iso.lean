import BrailleShare.Charset.UpperHalf

/-!
# The parts of ISO 8859

Upper halves of the parts that keep the controls from `0x80` to `0x9F` and have characters of their
own from `0xA0` on.
-/

namespace BrailleShare.Charset.UpperHalf

/-- Latin-2: Central European. -/
def iso8859_2 : UpperHalf :=
  ⟨"ISO-8859-2",
    [0x80, 0x81, 0x82, 0x83, 0x84, 0x85, 0x86, 0x87,
      0x88, 0x89, 0x8A, 0x8B, 0x8C, 0x8D, 0x8E, 0x8F,
      0x90, 0x91, 0x92, 0x93, 0x94, 0x95, 0x96, 0x97,
      0x98, 0x99, 0x9A, 0x9B, 0x9C, 0x9D, 0x9E, 0x9F,
      0xA0, 0x104, 0x2D8, 0x141, 0xA4, 0x13D, 0x15A, 0xA7,
      0xA8, 0x160, 0x15E, 0x164, 0x179, 0xAD, 0x17D, 0x17B,
      0xB0, 0x105, 0x2DB, 0x142, 0xB4, 0x13E, 0x15B, 0x2C7,
      0xB8, 0x161, 0x15F, 0x165, 0x17A, 0x2DD, 0x17E, 0x17C,
      0x154, 0xC1, 0xC2, 0x102, 0xC4, 0x139, 0x106, 0xC7,
      0x10C, 0xC9, 0x118, 0xCB, 0x11A, 0xCD, 0xCE, 0x10E,
      0x110, 0x143, 0x147, 0xD3, 0xD4, 0x150, 0xD6, 0xD7,
      0x158, 0x16E, 0xDA, 0x170, 0xDC, 0xDD, 0x162, 0xDF,
      0x155, 0xE1, 0xE2, 0x103, 0xE4, 0x13A, 0x107, 0xE7,
      0x10D, 0xE9, 0x119, 0xEB, 0x11B, 0xED, 0xEE, 0x10F,
      0x111, 0x144, 0x148, 0xF3, 0xF4, 0x151, 0xF6, 0xF7,
      0x159, 0x16F, 0xFA, 0x171, 0xFC, 0xFD, 0x163, 0x2D9]⟩

/-- Latin-3: South European. -/
def iso8859_3 : UpperHalf :=
  ⟨"ISO-8859-3",
    [0x80, 0x81, 0x82, 0x83, 0x84, 0x85, 0x86, 0x87,
      0x88, 0x89, 0x8A, 0x8B, 0x8C, 0x8D, 0x8E, 0x8F,
      0x90, 0x91, 0x92, 0x93, 0x94, 0x95, 0x96, 0x97,
      0x98, 0x99, 0x9A, 0x9B, 0x9C, 0x9D, 0x9E, 0x9F,
      0xA0, 0x126, 0x2D8, 0xA3, 0xA4, 0, 0x124, 0xA7,
      0xA8, 0x130, 0x15E, 0x11E, 0x134, 0xAD, 0, 0x17B,
      0xB0, 0x127, 0xB2, 0xB3, 0xB4, 0xB5, 0x125, 0xB7,
      0xB8, 0x131, 0x15F, 0x11F, 0x135, 0xBD, 0, 0x17C,
      0xC0, 0xC1, 0xC2, 0, 0xC4, 0x10A, 0x108, 0xC7,
      0xC8, 0xC9, 0xCA, 0xCB, 0xCC, 0xCD, 0xCE, 0xCF,
      0, 0xD1, 0xD2, 0xD3, 0xD4, 0x120, 0xD6, 0xD7,
      0x11C, 0xD9, 0xDA, 0xDB, 0xDC, 0x16C, 0x15C, 0xDF,
      0xE0, 0xE1, 0xE2, 0, 0xE4, 0x10B, 0x109, 0xE7,
      0xE8, 0xE9, 0xEA, 0xEB, 0xEC, 0xED, 0xEE, 0xEF,
      0, 0xF1, 0xF2, 0xF3, 0xF4, 0x121, 0xF6, 0xF7,
      0x11D, 0xF9, 0xFA, 0xFB, 0xFC, 0x16D, 0x15D, 0x2D9]⟩

/-- Latin-4: North European. -/
def iso8859_4 : UpperHalf :=
  ⟨"ISO-8859-4",
    [0x80, 0x81, 0x82, 0x83, 0x84, 0x85, 0x86, 0x87,
      0x88, 0x89, 0x8A, 0x8B, 0x8C, 0x8D, 0x8E, 0x8F,
      0x90, 0x91, 0x92, 0x93, 0x94, 0x95, 0x96, 0x97,
      0x98, 0x99, 0x9A, 0x9B, 0x9C, 0x9D, 0x9E, 0x9F,
      0xA0, 0x104, 0x138, 0x156, 0xA4, 0x128, 0x13B, 0xA7,
      0xA8, 0x160, 0x112, 0x122, 0x166, 0xAD, 0x17D, 0xAF,
      0xB0, 0x105, 0x2DB, 0x157, 0xB4, 0x129, 0x13C, 0x2C7,
      0xB8, 0x161, 0x113, 0x123, 0x167, 0x14A, 0x17E, 0x14B,
      0x100, 0xC1, 0xC2, 0xC3, 0xC4, 0xC5, 0xC6, 0x12E,
      0x10C, 0xC9, 0x118, 0xCB, 0x116, 0xCD, 0xCE, 0x12A,
      0x110, 0x145, 0x14C, 0x136, 0xD4, 0xD5, 0xD6, 0xD7,
      0xD8, 0x172, 0xDA, 0xDB, 0xDC, 0x168, 0x16A, 0xDF,
      0x101, 0xE1, 0xE2, 0xE3, 0xE4, 0xE5, 0xE6, 0x12F,
      0x10D, 0xE9, 0x119, 0xEB, 0x117, 0xED, 0xEE, 0x12B,
      0x111, 0x146, 0x14D, 0x137, 0xF4, 0xF5, 0xF6, 0xF7,
      0xF8, 0x173, 0xFA, 0xFB, 0xFC, 0x169, 0x16B, 0x2D9]⟩

/-- Cyrillic. -/
def iso8859_5 : UpperHalf :=
  ⟨"ISO-8859-5",
    [0x80, 0x81, 0x82, 0x83, 0x84, 0x85, 0x86, 0x87,
      0x88, 0x89, 0x8A, 0x8B, 0x8C, 0x8D, 0x8E, 0x8F,
      0x90, 0x91, 0x92, 0x93, 0x94, 0x95, 0x96, 0x97,
      0x98, 0x99, 0x9A, 0x9B, 0x9C, 0x9D, 0x9E, 0x9F,
      0xA0, 0x401, 0x402, 0x403, 0x404, 0x405, 0x406, 0x407,
      0x408, 0x409, 0x40A, 0x40B, 0x40C, 0xAD, 0x40E, 0x40F,
      0x410, 0x411, 0x412, 0x413, 0x414, 0x415, 0x416, 0x417,
      0x418, 0x419, 0x41A, 0x41B, 0x41C, 0x41D, 0x41E, 0x41F,
      0x420, 0x421, 0x422, 0x423, 0x424, 0x425, 0x426, 0x427,
      0x428, 0x429, 0x42A, 0x42B, 0x42C, 0x42D, 0x42E, 0x42F,
      0x430, 0x431, 0x432, 0x433, 0x434, 0x435, 0x436, 0x437,
      0x438, 0x439, 0x43A, 0x43B, 0x43C, 0x43D, 0x43E, 0x43F,
      0x440, 0x441, 0x442, 0x443, 0x444, 0x445, 0x446, 0x447,
      0x448, 0x449, 0x44A, 0x44B, 0x44C, 0x44D, 0x44E, 0x44F,
      0x2116, 0x451, 0x452, 0x453, 0x454, 0x455, 0x456, 0x457,
      0x458, 0x459, 0x45A, 0x45B, 0x45C, 0xA7, 0x45E, 0x45F]⟩

/-- Arabic. -/
def iso8859_6 : UpperHalf :=
  ⟨"ISO-8859-6",
    [0x80, 0x81, 0x82, 0x83, 0x84, 0x85, 0x86, 0x87,
      0x88, 0x89, 0x8A, 0x8B, 0x8C, 0x8D, 0x8E, 0x8F,
      0x90, 0x91, 0x92, 0x93, 0x94, 0x95, 0x96, 0x97,
      0x98, 0x99, 0x9A, 0x9B, 0x9C, 0x9D, 0x9E, 0x9F,
      0xA0, 0, 0, 0, 0xA4, 0, 0, 0,
      0, 0, 0, 0, 0x60C, 0xAD, 0, 0,
      0, 0, 0, 0, 0, 0, 0, 0,
      0, 0, 0, 0x61B, 0, 0, 0, 0x61F,
      0, 0x621, 0x622, 0x623, 0x624, 0x625, 0x626, 0x627,
      0x628, 0x629, 0x62A, 0x62B, 0x62C, 0x62D, 0x62E, 0x62F,
      0x630, 0x631, 0x632, 0x633, 0x634, 0x635, 0x636, 0x637,
      0x638, 0x639, 0x63A, 0, 0, 0, 0, 0,
      0x640, 0x641, 0x642, 0x643, 0x644, 0x645, 0x646, 0x647,
      0x648, 0x649, 0x64A, 0x64B, 0x64C, 0x64D, 0x64E, 0x64F,
      0x650, 0x651, 0x652, 0, 0, 0, 0, 0,
      0, 0, 0, 0, 0, 0, 0, 0]⟩

/-- Greek. -/
def iso8859_7 : UpperHalf :=
  ⟨"ISO-8859-7",
    [0x80, 0x81, 0x82, 0x83, 0x84, 0x85, 0x86, 0x87,
      0x88, 0x89, 0x8A, 0x8B, 0x8C, 0x8D, 0x8E, 0x8F,
      0x90, 0x91, 0x92, 0x93, 0x94, 0x95, 0x96, 0x97,
      0x98, 0x99, 0x9A, 0x9B, 0x9C, 0x9D, 0x9E, 0x9F,
      0xA0, 0x2018, 0x2019, 0xA3, 0x20AC, 0x20AF, 0xA6, 0xA7,
      0xA8, 0xA9, 0x37A, 0xAB, 0xAC, 0xAD, 0, 0x2015,
      0xB0, 0xB1, 0xB2, 0xB3, 0x384, 0x385, 0x386, 0xB7,
      0x388, 0x389, 0x38A, 0xBB, 0x38C, 0xBD, 0x38E, 0x38F,
      0x390, 0x391, 0x392, 0x393, 0x394, 0x395, 0x396, 0x397,
      0x398, 0x399, 0x39A, 0x39B, 0x39C, 0x39D, 0x39E, 0x39F,
      0x3A0, 0x3A1, 0, 0x3A3, 0x3A4, 0x3A5, 0x3A6, 0x3A7,
      0x3A8, 0x3A9, 0x3AA, 0x3AB, 0x3AC, 0x3AD, 0x3AE, 0x3AF,
      0x3B0, 0x3B1, 0x3B2, 0x3B3, 0x3B4, 0x3B5, 0x3B6, 0x3B7,
      0x3B8, 0x3B9, 0x3BA, 0x3BB, 0x3BC, 0x3BD, 0x3BE, 0x3BF,
      0x3C0, 0x3C1, 0x3C2, 0x3C3, 0x3C4, 0x3C5, 0x3C6, 0x3C7,
      0x3C8, 0x3C9, 0x3CA, 0x3CB, 0x3CC, 0x3CD, 0x3CE, 0]⟩

/-- Hebrew. -/
def iso8859_8 : UpperHalf :=
  ⟨"ISO-8859-8",
    [0x80, 0x81, 0x82, 0x83, 0x84, 0x85, 0x86, 0x87,
      0x88, 0x89, 0x8A, 0x8B, 0x8C, 0x8D, 0x8E, 0x8F,
      0x90, 0x91, 0x92, 0x93, 0x94, 0x95, 0x96, 0x97,
      0x98, 0x99, 0x9A, 0x9B, 0x9C, 0x9D, 0x9E, 0x9F,
      0xA0, 0, 0xA2, 0xA3, 0xA4, 0xA5, 0xA6, 0xA7,
      0xA8, 0xA9, 0xD7, 0xAB, 0xAC, 0xAD, 0xAE, 0xAF,
      0xB0, 0xB1, 0xB2, 0xB3, 0xB4, 0xB5, 0xB6, 0xB7,
      0xB8, 0xB9, 0xF7, 0xBB, 0xBC, 0xBD, 0xBE, 0,
      0, 0, 0, 0, 0, 0, 0, 0,
      0, 0, 0, 0, 0, 0, 0, 0,
      0, 0, 0, 0, 0, 0, 0, 0,
      0, 0, 0, 0, 0, 0, 0, 0x2017,
      0x5D0, 0x5D1, 0x5D2, 0x5D3, 0x5D4, 0x5D5, 0x5D6, 0x5D7,
      0x5D8, 0x5D9, 0x5DA, 0x5DB, 0x5DC, 0x5DD, 0x5DE, 0x5DF,
      0x5E0, 0x5E1, 0x5E2, 0x5E3, 0x5E4, 0x5E5, 0x5E6, 0x5E7,
      0x5E8, 0x5E9, 0x5EA, 0, 0, 0x200E, 0x200F, 0]⟩

/-- Hebrew, written from right to left. -/
def iso8859_8i : UpperHalf :=
  { iso8859_8 with name := "ISO-8859-8-I" }

/-- Latin-6: Nordic. -/
def iso8859_10 : UpperHalf :=
  ⟨"ISO-8859-10",
    [0x80, 0x81, 0x82, 0x83, 0x84, 0x85, 0x86, 0x87,
      0x88, 0x89, 0x8A, 0x8B, 0x8C, 0x8D, 0x8E, 0x8F,
      0x90, 0x91, 0x92, 0x93, 0x94, 0x95, 0x96, 0x97,
      0x98, 0x99, 0x9A, 0x9B, 0x9C, 0x9D, 0x9E, 0x9F,
      0xA0, 0x104, 0x112, 0x122, 0x12A, 0x128, 0x136, 0xA7,
      0x13B, 0x110, 0x160, 0x166, 0x17D, 0xAD, 0x16A, 0x14A,
      0xB0, 0x105, 0x113, 0x123, 0x12B, 0x129, 0x137, 0xB7,
      0x13C, 0x111, 0x161, 0x167, 0x17E, 0x2015, 0x16B, 0x14B,
      0x100, 0xC1, 0xC2, 0xC3, 0xC4, 0xC5, 0xC6, 0x12E,
      0x10C, 0xC9, 0x118, 0xCB, 0x116, 0xCD, 0xCE, 0xCF,
      0xD0, 0x145, 0x14C, 0xD3, 0xD4, 0xD5, 0xD6, 0x168,
      0xD8, 0x172, 0xDA, 0xDB, 0xDC, 0xDD, 0xDE, 0xDF,
      0x101, 0xE1, 0xE2, 0xE3, 0xE4, 0xE5, 0xE6, 0x12F,
      0x10D, 0xE9, 0x119, 0xEB, 0x117, 0xED, 0xEE, 0xEF,
      0xF0, 0x146, 0x14D, 0xF3, 0xF4, 0xF5, 0xF6, 0x169,
      0xF8, 0x173, 0xFA, 0xFB, 0xFC, 0xFD, 0xFE, 0x138]⟩

/-- Latin-7: Baltic. -/
def iso8859_13 : UpperHalf :=
  ⟨"ISO-8859-13",
    [0x80, 0x81, 0x82, 0x83, 0x84, 0x85, 0x86, 0x87,
      0x88, 0x89, 0x8A, 0x8B, 0x8C, 0x8D, 0x8E, 0x8F,
      0x90, 0x91, 0x92, 0x93, 0x94, 0x95, 0x96, 0x97,
      0x98, 0x99, 0x9A, 0x9B, 0x9C, 0x9D, 0x9E, 0x9F,
      0xA0, 0x201D, 0xA2, 0xA3, 0xA4, 0x201E, 0xA6, 0xA7,
      0xD8, 0xA9, 0x156, 0xAB, 0xAC, 0xAD, 0xAE, 0xC6,
      0xB0, 0xB1, 0xB2, 0xB3, 0x201C, 0xB5, 0xB6, 0xB7,
      0xF8, 0xB9, 0x157, 0xBB, 0xBC, 0xBD, 0xBE, 0xE6,
      0x104, 0x12E, 0x100, 0x106, 0xC4, 0xC5, 0x118, 0x112,
      0x10C, 0xC9, 0x179, 0x116, 0x122, 0x136, 0x12A, 0x13B,
      0x160, 0x143, 0x145, 0xD3, 0x14C, 0xD5, 0xD6, 0xD7,
      0x172, 0x141, 0x15A, 0x16A, 0xDC, 0x17B, 0x17D, 0xDF,
      0x105, 0x12F, 0x101, 0x107, 0xE4, 0xE5, 0x119, 0x113,
      0x10D, 0xE9, 0x17A, 0x117, 0x123, 0x137, 0x12B, 0x13C,
      0x161, 0x144, 0x146, 0xF3, 0x14D, 0xF5, 0xF6, 0xF7,
      0x173, 0x142, 0x15B, 0x16B, 0xFC, 0x17C, 0x17E, 0x2019]⟩

/-- Latin-8: Celtic. -/
def iso8859_14 : UpperHalf :=
  ⟨"ISO-8859-14",
    [0x80, 0x81, 0x82, 0x83, 0x84, 0x85, 0x86, 0x87,
      0x88, 0x89, 0x8A, 0x8B, 0x8C, 0x8D, 0x8E, 0x8F,
      0x90, 0x91, 0x92, 0x93, 0x94, 0x95, 0x96, 0x97,
      0x98, 0x99, 0x9A, 0x9B, 0x9C, 0x9D, 0x9E, 0x9F,
      0xA0, 0x1E02, 0x1E03, 0xA3, 0x10A, 0x10B, 0x1E0A, 0xA7,
      0x1E80, 0xA9, 0x1E82, 0x1E0B, 0x1EF2, 0xAD, 0xAE, 0x178,
      0x1E1E, 0x1E1F, 0x120, 0x121, 0x1E40, 0x1E41, 0xB6, 0x1E56,
      0x1E81, 0x1E57, 0x1E83, 0x1E60, 0x1EF3, 0x1E84, 0x1E85, 0x1E61,
      0xC0, 0xC1, 0xC2, 0xC3, 0xC4, 0xC5, 0xC6, 0xC7,
      0xC8, 0xC9, 0xCA, 0xCB, 0xCC, 0xCD, 0xCE, 0xCF,
      0x174, 0xD1, 0xD2, 0xD3, 0xD4, 0xD5, 0xD6, 0x1E6A,
      0xD8, 0xD9, 0xDA, 0xDB, 0xDC, 0xDD, 0x176, 0xDF,
      0xE0, 0xE1, 0xE2, 0xE3, 0xE4, 0xE5, 0xE6, 0xE7,
      0xE8, 0xE9, 0xEA, 0xEB, 0xEC, 0xED, 0xEE, 0xEF,
      0x175, 0xF1, 0xF2, 0xF3, 0xF4, 0xF5, 0xF6, 0x1E6B,
      0xF8, 0xF9, 0xFA, 0xFB, 0xFC, 0xFD, 0x177, 0xFF]⟩

/-- Latin-9: Western European with the euro sign. -/
def iso8859_15 : UpperHalf :=
  ⟨"ISO-8859-15",
    [0x80, 0x81, 0x82, 0x83, 0x84, 0x85, 0x86, 0x87,
      0x88, 0x89, 0x8A, 0x8B, 0x8C, 0x8D, 0x8E, 0x8F,
      0x90, 0x91, 0x92, 0x93, 0x94, 0x95, 0x96, 0x97,
      0x98, 0x99, 0x9A, 0x9B, 0x9C, 0x9D, 0x9E, 0x9F,
      0xA0, 0xA1, 0xA2, 0xA3, 0x20AC, 0xA5, 0x160, 0xA7,
      0x161, 0xA9, 0xAA, 0xAB, 0xAC, 0xAD, 0xAE, 0xAF,
      0xB0, 0xB1, 0xB2, 0xB3, 0x17D, 0xB5, 0xB6, 0xB7,
      0x17E, 0xB9, 0xBA, 0xBB, 0x152, 0x153, 0x178, 0xBF,
      0xC0, 0xC1, 0xC2, 0xC3, 0xC4, 0xC5, 0xC6, 0xC7,
      0xC8, 0xC9, 0xCA, 0xCB, 0xCC, 0xCD, 0xCE, 0xCF,
      0xD0, 0xD1, 0xD2, 0xD3, 0xD4, 0xD5, 0xD6, 0xD7,
      0xD8, 0xD9, 0xDA, 0xDB, 0xDC, 0xDD, 0xDE, 0xDF,
      0xE0, 0xE1, 0xE2, 0xE3, 0xE4, 0xE5, 0xE6, 0xE7,
      0xE8, 0xE9, 0xEA, 0xEB, 0xEC, 0xED, 0xEE, 0xEF,
      0xF0, 0xF1, 0xF2, 0xF3, 0xF4, 0xF5, 0xF6, 0xF7,
      0xF8, 0xF9, 0xFA, 0xFB, 0xFC, 0xFD, 0xFE, 0xFF]⟩

/-- Latin-10: South-Eastern European. -/
def iso8859_16 : UpperHalf :=
  ⟨"ISO-8859-16",
    [0x80, 0x81, 0x82, 0x83, 0x84, 0x85, 0x86, 0x87,
      0x88, 0x89, 0x8A, 0x8B, 0x8C, 0x8D, 0x8E, 0x8F,
      0x90, 0x91, 0x92, 0x93, 0x94, 0x95, 0x96, 0x97,
      0x98, 0x99, 0x9A, 0x9B, 0x9C, 0x9D, 0x9E, 0x9F,
      0xA0, 0x104, 0x105, 0x141, 0x20AC, 0x201E, 0x160, 0xA7,
      0x161, 0xA9, 0x218, 0xAB, 0x179, 0xAD, 0x17A, 0x17B,
      0xB0, 0xB1, 0x10C, 0x142, 0x17D, 0x201D, 0xB6, 0xB7,
      0x17E, 0x10D, 0x219, 0xBB, 0x152, 0x153, 0x178, 0x17C,
      0xC0, 0xC1, 0xC2, 0x102, 0xC4, 0x106, 0xC6, 0xC7,
      0xC8, 0xC9, 0xCA, 0xCB, 0xCC, 0xCD, 0xCE, 0xCF,
      0x110, 0x143, 0xD2, 0xD3, 0xD4, 0x150, 0xD6, 0x15A,
      0x170, 0xD9, 0xDA, 0xDB, 0xDC, 0x118, 0x21A, 0xDF,
      0xE0, 0xE1, 0xE2, 0x103, 0xE4, 0x107, 0xE6, 0xE7,
      0xE8, 0xE9, 0xEA, 0xEB, 0xEC, 0xED, 0xEE, 0xEF,
      0x111, 0x144, 0xF2, 0xF3, 0xF4, 0x151, 0xF6, 0x15B,
      0x171, 0xF9, 0xFA, 0xFB, 0xFC, 0x119, 0x21B, 0xFF]⟩

end BrailleShare.Charset.UpperHalf
