/-!
# GBK and GB 18030, the characters in runs

The characters that follow each other in the codes as they do in Unicode: those for private use
under two octets, and all that GB 18030 puts under four.
-/

namespace BrailleShare.Charset.Gbk

/-- Runs of two-octet codes that the standard leaves to its users or has given to no character: the
first code, the last, and the character of the first. One code in them is a space. -/
def privateRuns : List (Nat × Nat × Nat) :=
  [(0xA140, 0xA17E, 0xE4C6), (0xA180, 0xA1A0, 0xE505), (0xA240, 0xA27E, 0xE526),
    (0xA280, 0xA2A0, 0xE565), (0xA2AB, 0xA2B0, 0xE766), (0xA2E4, 0xA2E4, 0xE76D),
    (0xA2EF, 0xA2F0, 0xE76E), (0xA2FD, 0xA2FE, 0xE770), (0xA340, 0xA37E, 0xE586),
    (0xA380, 0xA39F, 0xE5C5), (0xA3A0, 0xA3A0, 0x3000), (0xA440, 0xA47E, 0xE5E6),
    (0xA480, 0xA4A0, 0xE625), (0xA4F4, 0xA4FE, 0xE772), (0xA540, 0xA57E, 0xE646),
    (0xA580, 0xA5A0, 0xE685), (0xA5F7, 0xA5FE, 0xE77D), (0xA640, 0xA67E, 0xE6A6),
    (0xA680, 0xA6A0, 0xE6E5), (0xA6B9, 0xA6C0, 0xE785), (0xA6F6, 0xA6FE, 0xE797),
    (0xA740, 0xA77E, 0xE706), (0xA780, 0xA7A0, 0xE745), (0xA7C2, 0xA7D0, 0xE7A0),
    (0xA7F2, 0xA7FE, 0xE7AF), (0xA896, 0xA8A0, 0xE7BC), (0xA8C1, 0xA8C4, 0xE7C9),
    (0xA8EA, 0xA8FE, 0xE7CD), (0xA958, 0xA958, 0xE7E2), (0xA95B, 0xA95B, 0xE7E3),
    (0xA95D, 0xA95F, 0xE7E4), (0xA997, 0xA9A3, 0xE7F4), (0xA9F0, 0xA9FE, 0xE801),
    (0xAAA1, 0xAAFE, 0xE000), (0xABA1, 0xABFE, 0xE05E), (0xACA1, 0xACFE, 0xE0BC),
    (0xADA1, 0xADFE, 0xE11A), (0xAEA1, 0xAEFE, 0xE178), (0xAFA1, 0xAFFE, 0xE1D6),
    (0xD7FA, 0xD7FE, 0xE810), (0xF8A1, 0xF8FE, 0xE234), (0xF9A1, 0xF9FE, 0xE292),
    (0xFAA1, 0xFAFE, 0xE2F0), (0xFBA1, 0xFBFE, 0xE34E), (0xFCA1, 0xFCFE, 0xE3AC),
    (0xFDA1, 0xFDFE, 0xE40A), (0xFE51, 0xFE53, 0xE816), (0xFE6C, 0xFE6C, 0xE831),
    (0xFE76, 0xFE76, 0xE83B), (0xFE91, 0xFE91, 0xE855), (0xFEA1, 0xFEFE, 0xE468)]

/-- Runs of four-octet codes, counted from zero: the first code and its character. A run ends where
the next begins. -/
def fourOctetRuns : List (Nat × Nat) :=
  [(0, 0x80), (36, 0xA5), (38, 0xA9), (45, 0xB2), (50, 0xB8), (81, 0xD8), (89, 0xE2), (95, 0xEB),
    (96, 0xEE), (100, 0xF4), (103, 0xF8), (104, 0xFB), (105, 0xFD), (109, 0x102), (126, 0x114),
    (133, 0x11C), (148, 0x12C), (172, 0x145), (175, 0x149), (179, 0x14E), (208, 0x16C),
    (306, 0x1CF), (307, 0x1D1), (308, 0x1D3), (309, 0x1D5), (310, 0x1D7), (311, 0x1D9),
    (312, 0x1DB), (313, 0x1DD), (341, 0x1FA), (428, 0x252), (443, 0x262), (544, 0x2C8),
    (545, 0x2CC), (558, 0x2DA), (741, 0x3A2), (742, 0x3AA), (749, 0x3C2), (750, 0x3CA),
    (805, 0x402), (819, 0x450), (820, 0x452), (7922, 0x2011), (7924, 0x2017), (7925, 0x201A),
    (7927, 0x201E), (7934, 0x2027), (7943, 0x2031), (7944, 0x2034), (7945, 0x2036),
    (7950, 0x203C), (8062, 0x20AD), (8148, 0x2104), (8149, 0x2106), (8152, 0x210A),
    (8164, 0x2117), (8174, 0x2122), (8236, 0x216C), (8240, 0x217A), (8262, 0x2194),
    (8264, 0x219A), (8374, 0x2209), (8380, 0x2210), (8381, 0x2212), (8384, 0x2216),
    (8388, 0x221B), (8390, 0x2221), (8392, 0x2224), (8393, 0x2226), (8394, 0x222C),
    (8396, 0x222F), (8401, 0x2238), (8406, 0x223E), (8416, 0x2249), (8419, 0x224D),
    (8424, 0x2253), (8437, 0x2262), (8439, 0x2268), (8445, 0x2270), (8482, 0x2296),
    (8485, 0x229A), (8496, 0x22A6), (8521, 0x22C0), (8603, 0x2313), (8936, 0x246A),
    (8946, 0x249C), (9046, 0x254C), (9050, 0x2574), (9063, 0x2590), (9066, 0x2596),
    (9076, 0x25A2), (9092, 0x25B4), (9100, 0x25BE), (9108, 0x25C8), (9111, 0x25CC),
    (9113, 0x25D0), (9131, 0x25E6), (9162, 0x2607), (9164, 0x260A), (9218, 0x2641),
    (9219, 0x2643), (11329, 0x2E82), (11331, 0x2E85), (11334, 0x2E89), (11336, 0x2E8D),
    (11346, 0x2E98), (11361, 0x2EA8), (11363, 0x2EAB), (11366, 0x2EAF), (11370, 0x2EB4),
    (11372, 0x2EB8), (11375, 0x2EBC), (11389, 0x2ECB), (11682, 0x2FFC), (11686, 0x3004),
    (11687, 0x3018), (11692, 0x301F), (11694, 0x302A), (11714, 0x303F), (11716, 0x3094),
    (11723, 0x309F), (11725, 0x30F7), (11730, 0x30FF), (11736, 0x312A), (11982, 0x322A),
    (11989, 0x3232), (12102, 0x32A4), (12336, 0x3390), (12348, 0x339F), (12350, 0x33A2),
    (12384, 0x33C5), (12393, 0x33CF), (12395, 0x33D3), (12397, 0x33D6), (12510, 0x3448),
    (12553, 0x3474), (12851, 0x359F), (12962, 0x360F), (12973, 0x361B), (13738, 0x3919),
    (13823, 0x396F), (13919, 0x39D1), (13933, 0x39E0), (14080, 0x3A74), (14298, 0x3B4F),
    (14585, 0x3C6F), (14698, 0x3CE1), (15583, 0x4057), (15847, 0x4160), (16318, 0x4338),
    (16434, 0x43AD), (16438, 0x43B2), (16481, 0x43DE), (16729, 0x44D7), (17102, 0x464D),
    (17122, 0x4662), (17315, 0x4724), (17320, 0x472A), (17402, 0x477D), (17418, 0x478E),
    (17859, 0x4948), (17909, 0x497B), (17911, 0x497E), (17915, 0x4984), (17916, 0x4987),
    (17936, 0x499C), (17939, 0x49A0), (17961, 0x49B8), (18664, 0x4C78), (18703, 0x4CA4),
    (18814, 0x4D1A), (18962, 0x4DAF), (19043, 0x9FA6), (33469, 0xE76C), (33470, 0xE7C8),
    (33471, 0xE7E7), (33484, 0xE815), (33485, 0xE819), (33490, 0xE81F), (33497, 0xE827),
    (33501, 0xE82D), (33505, 0xE833), (33513, 0xE83C), (33520, 0xE844), (33536, 0xE856),
    (33550, 0xE865), (37845, 0xF92D), (37921, 0xF97A), (37948, 0xF996), (38029, 0xF9E8),
    (38038, 0xF9F2), (38064, 0xFA10), (38065, 0xFA12), (38066, 0xFA15), (38069, 0xFA19),
    (38075, 0xFA22), (38076, 0xFA25), (38078, 0xFA2A), (39108, 0xFE32), (39109, 0xFE45),
    (39113, 0xFE53), (39114, 0xFE58), (39115, 0xFE67), (39116, 0xFE6C), (39265, 0xFF5F),
    (39394, 0xFFE6), (189000, 0x10000)]

end BrailleShare.Charset.Gbk
