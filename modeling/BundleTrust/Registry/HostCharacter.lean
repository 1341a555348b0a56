import BundleTrust.Text.Printable

/-!
# Characters of host names

Which characters may stand in the name of a host, what they stand for, and in which
direction they are written.  Only what decides whether a name is proper is told apart: of the
characters that stand for others, those are listed that stand for digits, for letters of
ASCII or for a point.
-/

namespace BundleTrust
namespace Registry

/-- The characters that are left out of names. -/
def ignoredRanges : List (Nat × Nat) :=
  [(0xAD, 0xAD), (0x34F, 0x34F), (0x180B, 0x180D), (0x180F, 0x180F), (0x200B, 0x200B),
    (0x2060, 0x2060), (0x2064, 0x2064), (0xFE00, 0xFE0F), (0xFEFF, 0xFEFF), (0x1BCA0, 0x1BCA3),
    (0xE0100, 0xE01EF)]

/-- The characters that cannot stand in names although they can be shown: those that stand for
blanks and for separators, and fillers. -/
def refusedRanges : List (Nat × Nat) :=
  [(0xA8, 0xA8), (0xAF, 0xAF), (0xB4, 0xB4), (0xB8, 0xB8), (0x2D8, 0x2DD), (0x37A, 0x37A),
    (0x384, 0x385), (0x115F, 0x1160), (0x17B4, 0x17B5), (0x1FBD, 0x1FBD), (0x1FBF, 0x1FC1),
    (0x1FCD, 0x1FCF), (0x1FDD, 0x1FDF), (0x1FED, 0x1FEE), (0x1FFD, 0x1FFE), (0x2017, 0x2017),
    (0x2024, 0x2026), (0x203E, 0x203E), (0x2047, 0x2049), (0x2100, 0x2101), (0x2105, 0x2106),
    (0x2488, 0x249B), (0x2A74, 0x2A74), (0x2FF0, 0x2FFB), (0x309B, 0x309C), (0x3164, 0x3164),
    (0x33C2, 0x33C2), (0x33C7, 0x33C7), (0x33D8, 0x33D8), (0xFC5E, 0xFC63), (0xFDFA, 0xFDFB),
    (0xFE13, 0xFE13), (0xFE16, 0xFE16), (0xFE19, 0xFE19), (0xFE30, 0xFE30), (0xFE47, 0xFE4C),
    (0xFE52, 0xFE52), (0xFE55, 0xFE56), (0xFE5F, 0xFE5F), (0xFE64, 0xFE65), (0xFE68, 0xFE68),
    (0xFE6A, 0xFE70), (0xFE72, 0xFE72), (0xFE74, 0xFE76), (0xFE78, 0xFE78), (0xFE7A, 0xFE7A),
    (0xFE7C, 0xFE7C), (0xFE7E, 0xFE7E), (0xFF03, 0xFF03), (0xFF05, 0xFF05), (0xFF0F, 0xFF0F),
    (0xFF1A, 0xFF1A), (0xFF1C, 0xFF1C), (0xFF1E, 0xFF20), (0xFF3B, 0xFF3E), (0xFF5C, 0xFF5C),
    (0xFFA0, 0xFFA0), (0xFFE3, 0xFFE3), (0xFFFC, 0xFFFD), (0x1F100, 0x1F100)]

/-- The characters that stand for numbers, each range with the number of its first one. -/
def numberRanges : List (Nat × Nat × Nat) :=
  [(0xB2, 0xB3, 2), (0xB9, 0xB9, 1), (0x2070, 0x2070, 0), (0x2074, 0x2079, 4),
    (0x2080, 0x2089, 0), (0x2460, 0x2473, 1), (0x24EA, 0x24EA, 0), (0x3251, 0x325F, 21),
    (0x32B1, 0x32BF, 36), (0xFF10, 0xFF19, 0), (0x1D7CE, 0x1D7D7, 0), (0x1D7D8, 0x1D7E1, 0),
    (0x1D7E2, 0x1D7EB, 0), (0x1D7EC, 0x1D7F5, 0), (0x1D7F6, 0x1D7FF, 0), (0x1FBF0, 0x1FBF9, 0)]

/-- The characters that stand for letters and signs of ASCII, each range with what its first one
stands for. -/
def letterRanges : List (Nat × Nat × Char) :=
  [(0xAA, 0xAA, 'a'), (0x2E3, 0x2E3, 'x'), (0x1D2C, 0x1D2C, 'a'), (0x1D2E, 0x1D2E, 'b'),
    (0x1D30, 0x1D31, 'd'), (0x1D33, 0x1D3A, 'g'), (0x1D43, 0x1D43, 'a'), (0x1D47, 0x1D47, 'b'),
    (0x1D48, 0x1D49, 'd'), (0x1D9C, 0x1D9C, 'c'), (0x1DA0, 0x1DA0, 'f'), (0x207F, 0x207F, 'n'),
    (0x2090, 0x2090, 'a'), (0x2091, 0x2091, 'e'), (0x2093, 0x2093, 'x'), (0x2096, 0x2099, 'k'),
    (0x2102, 0x2102, 'c'), (0x2115, 0x2115, 'n'), (0x212C, 0x212D, 'b'), (0x212F, 0x212F, 'e'),
    (0x2130, 0x2131, 'e'), (0x2145, 0x2145, 'd'), (0x2146, 0x2147, 'd'), (0x2169, 0x2169, 'x'),
    (0x216D, 0x216E, 'c'), (0x2179, 0x2179, 'x'), (0x217D, 0x217E, 'c'), (0x24B6, 0x24CF, 'a'),
    (0x24D0, 0x24E9, 'a'), (0x3002, 0x3002, '.'), (0xA7F2, 0xA7F2, 'c'), (0xA7F3, 0xA7F3, 'f'),
    (0xFE63, 0xFE63, '-'), (0xFF0D, 0xFF0E, '-'), (0xFF21, 0xFF3A, 'a'), (0xFF41, 0xFF5A, 'a'),
    (0xFF61, 0xFF61, '.'), (0x1D400, 0x1D419, 'a'), (0x1D41A, 0x1D433, 'a'),
    (0x1D434, 0x1D44D, 'a'), (0x1D44E, 0x1D454, 'a'), (0x1D456, 0x1D467, 'i'),
    (0x1D468, 0x1D481, 'a'), (0x1D482, 0x1D49B, 'a'), (0x1D49C, 0x1D49C, 'a'),
    (0x1D49E, 0x1D49F, 'c'), (0x1D4A9, 0x1D4AC, 'n'), (0x1D4AE, 0x1D4B5, 's'),
    (0x1D4B6, 0x1D4B9, 'a'), (0x1D4BB, 0x1D4BB, 'f'), (0x1D4BD, 0x1D4C3, 'h'),
    (0x1D4C5, 0x1D4CF, 'p'), (0x1D4D0, 0x1D4E9, 'a'), (0x1D4EA, 0x1D503, 'a'),
    (0x1D504, 0x1D505, 'a'), (0x1D507, 0x1D50A, 'd'), (0x1D50D, 0x1D514, 'j'),
    (0x1D516, 0x1D51C, 's'), (0x1D51E, 0x1D537, 'a'), (0x1D538, 0x1D539, 'a'),
    (0x1D53B, 0x1D53E, 'd'), (0x1D54A, 0x1D550, 's'), (0x1D552, 0x1D56B, 'a'),
    (0x1D56C, 0x1D585, 'a'), (0x1D586, 0x1D59F, 'a'), (0x1D5A0, 0x1D5B9, 'a'),
    (0x1D5BA, 0x1D5D3, 'a'), (0x1D5D4, 0x1D5ED, 'a'), (0x1D5EE, 0x1D607, 'a'),
    (0x1D608, 0x1D621, 'a'), (0x1D622, 0x1D63B, 'a'), (0x1D63C, 0x1D655, 'a'),
    (0x1D656, 0x1D66F, 'a'), (0x1D670, 0x1D689, 'a'), (0x1D68A, 0x1D6A3, 'a'),
    (0x1F12B, 0x1F12B, 'c'), (0x1F130, 0x1F149, 'a')]

/-- The characters that combine with the one before them. -/
def combiningRanges : List (Nat × Nat) :=
  [(0x300, 0x36F), (0x483, 0x489), (0x591, 0x5BD), (0x5BF, 0x5BF), (0x5C1, 0x5C2), (0x5C4, 0x5C5),
    (0x5C7, 0x5C7), (0x610, 0x61A), (0x64B, 0x65F), (0x670, 0x670), (0x6D6, 0x6DC),
    (0x6DF, 0x6E4), (0x6E7, 0x6E8), (0x6EA, 0x6ED), (0x711, 0x711), (0x730, 0x74A),
    (0x7A6, 0x7B0), (0x7EB, 0x7F3), (0x7FD, 0x7FD), (0x816, 0x819), (0x81B, 0x823),
    (0x825, 0x827), (0x829, 0x82D), (0x859, 0x85B), (0x898, 0x89F), (0x8CA, 0x8E1),
    (0x8E3, 0x903), (0x93A, 0x93C), (0x93E, 0x94F), (0x951, 0x957), (0x962, 0x963),
    (0x981, 0x983), (0x9BC, 0x9BC), (0x9BE, 0x9C4), (0x9C7, 0x9C8), (0x9CB, 0x9CD),
    (0x9D7, 0x9D7), (0x9E2, 0x9E3), (0x9FE, 0x9FE), (0xA01, 0xA03), (0xA3C, 0xA3C),
    (0xA3E, 0xA42), (0xA47, 0xA48), (0xA4B, 0xA4D), (0xA51, 0xA51), (0xA70, 0xA71),
    (0xA75, 0xA75), (0xA81, 0xA83), (0xABC, 0xABC), (0xABE, 0xAC5), (0xAC7, 0xAC9),
    (0xACB, 0xACD), (0xAE2, 0xAE3), (0xAFA, 0xAFF), (0xB01, 0xB03), (0xB3C, 0xB3C),
    (0xB3E, 0xB44), (0xB47, 0xB48), (0xB4B, 0xB4D), (0xB55, 0xB57), (0xB62, 0xB63),
    (0xB82, 0xB82), (0xBBE, 0xBC2), (0xBC6, 0xBC8), (0xBCA, 0xBCD), (0xBD7, 0xBD7),
    (0xC00, 0xC04), (0xC3C, 0xC3C), (0xC3E, 0xC44), (0xC46, 0xC48), (0xC4A, 0xC4D),
    (0xC55, 0xC56), (0xC62, 0xC63), (0xC81, 0xC83), (0xCBC, 0xCBC), (0xCBE, 0xCC4),
    (0xCC6, 0xCC8), (0xCCA, 0xCCD), (0xCD5, 0xCD6), (0xCE2, 0xCE3), (0xD00, 0xD03),
    (0xD3B, 0xD3C), (0xD3E, 0xD44), (0xD46, 0xD48), (0xD4A, 0xD4D), (0xD57, 0xD57),
    (0xD62, 0xD63), (0xD81, 0xD83), (0xDCA, 0xDCA), (0xDCF, 0xDD4), (0xDD6, 0xDD6),
    (0xDD8, 0xDDF), (0xDF2, 0xDF3), (0xE31, 0xE31), (0xE34, 0xE3A), (0xE47, 0xE4E),
    (0xEB1, 0xEB1), (0xEB4, 0xEBC), (0xEC8, 0xECD), (0xF18, 0xF19), (0xF35, 0xF35),
    (0xF37, 0xF37), (0xF39, 0xF39), (0xF3E, 0xF3F), (0xF71, 0xF84), (0xF86, 0xF87),
    (0xF8D, 0xF97), (0xF99, 0xFBC), (0xFC6, 0xFC6), (0x102B, 0x103E), (0x1056, 0x1059),
    (0x105E, 0x1060), (0x1062, 0x1064), (0x1067, 0x106D), (0x1071, 0x1074), (0x1082, 0x108D),
    (0x108F, 0x108F), (0x109A, 0x109D), (0x135D, 0x135F), (0x1712, 0x1715), (0x1732, 0x1734),
    (0x1752, 0x1753), (0x1772, 0x1773), (0x17B4, 0x17D3), (0x17DD, 0x17DD), (0x180B, 0x180D),
    (0x180F, 0x180F), (0x1885, 0x1886), (0x18A9, 0x18A9), (0x1920, 0x192B), (0x1930, 0x193B),
    (0x1A17, 0x1A1B), (0x1A55, 0x1A5E), (0x1A60, 0x1A7C), (0x1A7F, 0x1A7F), (0x1AB0, 0x1ACE),
    (0x1B00, 0x1B04), (0x1B34, 0x1B44), (0x1B6B, 0x1B73), (0x1B80, 0x1B82), (0x1BA1, 0x1BAD),
    (0x1BE6, 0x1BF3), (0x1C24, 0x1C37), (0x1CD0, 0x1CD2), (0x1CD4, 0x1CE8), (0x1CED, 0x1CED),
    (0x1CF4, 0x1CF4), (0x1CF7, 0x1CF9), (0x1DC0, 0x1DFF), (0x20D0, 0x20F0), (0x2CEF, 0x2CF1),
    (0x2D7F, 0x2D7F), (0x2DE0, 0x2DFF), (0x302A, 0x302F), (0x3099, 0x309A), (0xA66F, 0xA672),
    (0xA674, 0xA67D), (0xA69E, 0xA69F), (0xA6F0, 0xA6F1), (0xA802, 0xA802), (0xA806, 0xA806),
    (0xA80B, 0xA80B), (0xA823, 0xA827), (0xA82C, 0xA82C), (0xA880, 0xA881), (0xA8B4, 0xA8C5),
    (0xA8E0, 0xA8F1), (0xA8FF, 0xA8FF), (0xA926, 0xA92D), (0xA947, 0xA953), (0xA980, 0xA983),
    (0xA9B3, 0xA9C0), (0xA9E5, 0xA9E5), (0xAA29, 0xAA36), (0xAA43, 0xAA43), (0xAA4C, 0xAA4D),
    (0xAA7B, 0xAA7D), (0xAAB0, 0xAAB0), (0xAAB2, 0xAAB4), (0xAAB7, 0xAAB8), (0xAABE, 0xAABF),
    (0xAAC1, 0xAAC1), (0xAAEB, 0xAAEF), (0xAAF5, 0xAAF6), (0xABE3, 0xABEA), (0xABEC, 0xABED),
    (0xFB1E, 0xFB1E), (0xFE00, 0xFE0F), (0xFE20, 0xFE2F), (0xFF9E, 0xFF9F), (0x101FD, 0x101FD),
    (0x102E0, 0x102E0), (0x10376, 0x1037A), (0x10A01, 0x10A03), (0x10A05, 0x10A06),
    (0x10A0C, 0x10A0F), (0x10A38, 0x10A3A), (0x10A3F, 0x10A3F), (0x10AE5, 0x10AE6),
    (0x10D24, 0x10D27), (0x10EAB, 0x10EAC), (0x10F46, 0x10F50), (0x10F82, 0x10F85),
    (0x11000, 0x11002), (0x11038, 0x11046), (0x11070, 0x11070), (0x11073, 0x11074),
    (0x1107F, 0x11082), (0x110B0, 0x110BA), (0x110C2, 0x110C2), (0x11100, 0x11102),
    (0x11127, 0x11134), (0x11145, 0x11146), (0x11173, 0x11173), (0x11180, 0x11182),
    (0x111B3, 0x111C0), (0x111C9, 0x111CC), (0x111CE, 0x111CF), (0x1122C, 0x11237),
    (0x1123E, 0x1123E), (0x112DF, 0x112EA), (0x11300, 0x11303), (0x1133B, 0x1133C),
    (0x1133E, 0x11344), (0x11347, 0x11348), (0x1134B, 0x1134D), (0x11357, 0x11357),
    (0x11362, 0x11363), (0x11366, 0x1136C), (0x11370, 0x11374), (0x11435, 0x11446),
    (0x1145E, 0x1145E), (0x114B0, 0x114C3), (0x115AF, 0x115B5), (0x115B8, 0x115C0),
    (0x115DC, 0x115DD), (0x11630, 0x11640), (0x116AB, 0x116B7), (0x1171D, 0x1172B),
    (0x1182C, 0x1183A), (0x11930, 0x11935), (0x11937, 0x11938), (0x1193B, 0x1193E),
    (0x11940, 0x11940), (0x11942, 0x11943), (0x119D1, 0x119D7), (0x119DA, 0x119E0),
    (0x119E4, 0x119E4), (0x11A01, 0x11A0A), (0x11A33, 0x11A39), (0x11A3B, 0x11A3E),
    (0x11A47, 0x11A47), (0x11A51, 0x11A5B), (0x11A8A, 0x11A99), (0x11C2F, 0x11C36),
    (0x11C38, 0x11C3F), (0x11C92, 0x11CA7), (0x11CA9, 0x11CB6), (0x11D31, 0x11D36),
    (0x11D3A, 0x11D3A), (0x11D3C, 0x11D3D), (0x11D3F, 0x11D45), (0x11D47, 0x11D47),
    (0x11D8A, 0x11D8E), (0x11D90, 0x11D91), (0x11D93, 0x11D97), (0x11EF3, 0x11EF6),
    (0x16AF0, 0x16AF4), (0x16B30, 0x16B36), (0x16F4F, 0x16F4F), (0x16F51, 0x16F87),
    (0x16F8F, 0x16F92), (0x16FE4, 0x16FE4), (0x16FF0, 0x16FF1), (0x1BC9D, 0x1BC9E),
    (0x1CF00, 0x1CF2D), (0x1CF30, 0x1CF46), (0x1D165, 0x1D169), (0x1D16D, 0x1D172),
    (0x1D17B, 0x1D182), (0x1D185, 0x1D18B), (0x1D1AA, 0x1D1AD), (0x1D242, 0x1D244),
    (0x1DA00, 0x1DA36), (0x1DA3B, 0x1DA6C), (0x1DA75, 0x1DA75), (0x1DA84, 0x1DA84),
    (0x1DA9B, 0x1DA9F), (0x1DAA1, 0x1DAAF), (0x1E000, 0x1E006), (0x1E008, 0x1E018),
    (0x1E01B, 0x1E021), (0x1E023, 0x1E024), (0x1E026, 0x1E02A), (0x1E130, 0x1E136),
    (0x1E2AE, 0x1E2AE), (0x1E2EC, 0x1E2EF), (0x1E8D0, 0x1E8D6), (0x1E944, 0x1E94A),
    (0xE0100, 0xE01EF)]

/-- The combining characters after which letters are joined. -/
def joiningRanges : List (Nat × Nat) :=
  [(0x94D, 0x94D), (0x9CD, 0x9CD), (0xA4D, 0xA4D), (0xACD, 0xACD), (0xB4D, 0xB4D), (0xBCD, 0xBCD),
    (0xC4D, 0xC4D), (0xCCD, 0xCCD), (0xD3B, 0xD3C), (0xD4D, 0xD4D), (0xDCA, 0xDCA),
    (0xE3A, 0xE3A), (0xEBA, 0xEBA), (0xF84, 0xF84), (0x1039, 0x103A), (0x1714, 0x1715),
    (0x1734, 0x1734), (0x17D2, 0x17D2), (0x1A60, 0x1A60), (0x1B44, 0x1B44), (0x1BAA, 0x1BAB),
    (0x1BF2, 0x1BF3), (0x2D7F, 0x2D7F), (0xA806, 0xA806), (0xA82C, 0xA82C), (0xA8C4, 0xA8C4),
    (0xA953, 0xA953), (0xA9C0, 0xA9C0), (0xAAF6, 0xAAF6), (0xABED, 0xABED), (0x10A3F, 0x10A3F),
    (0x11046, 0x11046), (0x11070, 0x11070), (0x1107F, 0x1107F), (0x110B9, 0x110B9),
    (0x11133, 0x11134), (0x111C0, 0x111C0), (0x11235, 0x11235), (0x112EA, 0x112EA),
    (0x1134D, 0x1134D), (0x11442, 0x11442), (0x114C2, 0x114C2), (0x115BF, 0x115BF),
    (0x1163F, 0x1163F), (0x116B6, 0x116B6), (0x1172B, 0x1172B), (0x11839, 0x11839),
    (0x1193D, 0x1193E), (0x119E0, 0x119E0), (0x11A34, 0x11A34), (0x11A47, 0x11A47),
    (0x11A99, 0x11A99), (0x11C3F, 0x11C3F), (0x11D44, 0x11D45), (0x11D97, 0x11D97)]

/-- The letters that are written from right to left. -/
def rightToLeftRanges : List (Nat × Nat) :=
  [(0x5BE, 0x5F4), (0x608, 0x608), (0x60B, 0x60B), (0x60D, 0x60D), (0x61B, 0x64A), (0x66D, 0x6D5),
    (0x6E5, 0x6E6), (0x6EE, 0x6EF), (0x6FA, 0x7F5), (0x7FA, 0x88E), (0x8A0, 0x8C9),
    (0xFBB2, 0xFBC2), (0xFE73, 0xFE73), (0x10800, 0x1091B), (0x10920, 0x1093F),
    (0x10980, 0x10B35), (0x10B40, 0x10D23), (0x10E80, 0x10EB1), (0x10F00, 0x10FF6),
    (0x1E800, 0x1ED3D)]

/-- The digits that are written with letters from right to left. -/
def arabicNumberRanges : List (Nat × Nat) :=
  [(0x660, 0x669), (0x66B, 0x66C), (0x10D30, 0x10D39), (0x10E60, 0x10E7E)]

/-- The digits outside ASCII that are written with letters from left to right. -/
def europeanNumberRanges : List (Nat × Nat) :=
  [(0x6F0, 0x6F9), (0x102E1, 0x102FB)]

/-- The characters outside ASCII that are written in the direction of what is around them. -/
def neutralRanges : List (Nat × Nat) :=
  [(0xA1, 0xD7), (0xF7, 0xF7), (0x2B9, 0x2BA), (0x2C2, 0x2CF), (0x2D2, 0x2ED), (0x2EF, 0x2FF),
    (0x375, 0x375), (0x3F6, 0x3F6), (0x58A, 0x58F), (0x606, 0x607), (0x609, 0x60A),
    (0x60C, 0x60C), (0x60E, 0x60F), (0x66A, 0x66A), (0x6DE, 0x6DE), (0x6E9, 0x6E9),
    (0x7F6, 0x7F9), (0x9F2, 0x9F3), (0x9FB, 0x9FB), (0xAF1, 0xAF1), (0xBF3, 0xBFA),
    (0xC78, 0xC7E), (0xE3F, 0xE3F), (0xF3A, 0xF3D), (0x1390, 0x1399), (0x1400, 0x1400),
    (0x169B, 0x169C), (0x17DB, 0x17DB), (0x17F0, 0x180A), (0x1940, 0x1945), (0x19DE, 0x19FF),
    (0x2010, 0x20C0), (0x2104, 0x214D), (0x218A, 0x2335), (0x237B, 0x2394), (0x2396, 0x2426),
    (0x2440, 0x26AB), (0x26AD, 0x27FF), (0x2900, 0x2B95), (0x2B97, 0x2BFF), (0x2CE5, 0x2CEA),
    (0x2CF9, 0x2CFF), (0x2E00, 0x3004), (0x3008, 0x3020), (0x3030, 0x3030), (0x3037, 0x3037),
    (0x303D, 0x303F), (0x30A0, 0x30A0), (0x30FB, 0x30FB), (0x31C0, 0x31E3), (0x4DC0, 0x4DFF),
    (0xA490, 0xA4C6), (0xA60D, 0xA60F), (0xA673, 0xA67F), (0xA700, 0xA721), (0xA788, 0xA788),
    (0xA828, 0xA82B), (0xA838, 0xA839), (0xA874, 0xA877), (0xAB6A, 0xAB6B), (0xFD3E, 0xFD4F),
    (0xFDCF, 0xFE46), (0xFF0E, 0xFFFD), (0x10101, 0x10101), (0x10140, 0x1018C),
    (0x10190, 0x101A0), (0x1091F, 0x1091F), (0x10B39, 0x10B3F), (0x11052, 0x11065),
    (0x11660, 0x1166C), (0x11FD5, 0x11FF1), (0x16FE2, 0x16FE2), (0x1D1E9, 0x1D245),
    (0x1D300, 0x1D356), (0x1E2FF, 0x1E2FF), (0x1EEF0, 0x1F12F), (0x1F16D, 0x1F16F),
    (0x1F1AD, 0x1F1AD), (0x1F260, 0x1F6D7), (0x1F6DD, 0x1F773), (0x1F780, 0x1F7D8),
    (0x1F7E0, 0x1F8B1), (0x1F900, 0x1FA53), (0x1FA60, 0x1FA74), (0x1FA78, 0x1FA86),
    (0x1FA90, 0x1FAAC), (0x1FAB0, 0x1FABA), (0x1FAC0, 0x1FAC5), (0x1FAD0, 0x1FAD9),
    (0x1FAE0, 0x1FAE7), (0x1FAF0, 0x1FAF6), (0x1FB00, 0x1FBCA)]

/-- Whether a character is in a range of a list. -/
def isInRanges (ranges : List (Nat × Nat)) (character : Char) : Bool :=
  ranges.any fun range => range.1 ≤ character.toNat && character.toNat ≤ range.2

/-- Whether a character combines with the one before it. -/
def isCombining (character : Char) : Bool := isInRanges combiningRanges character

/-- A character that asks letters to be joined or not to be joined. -/
def isJoiner (character : Char) : Bool :=
  character == '\u200c' || character == '\u200d'

/-- Whether a character of ASCII cannot stand in names: controls, the blank, and the signs that
separate the parts of an address. -/
def isSeparator (character : Char) : Bool :=
  character.toNat ≤ 0x20 || character.toNat == 0x7f || "%#/:<>?@[\\]^|".toList.contains character

/-- What a character that stands for others stands for. -/
def standsFor? (character : Char) : Option (List Char) :=
  let code := character.toNat
  match numberRanges.find? fun range => range.1 ≤ code && code ≤ range.2.1 with
  | some range => some (Nat.toDigits 10 (range.2.2 + (code - range.1)))
  | none =>
      (letterRanges.find? fun range => range.1 ≤ code && code ≤ range.2.1).map fun range =>
        [Char.ofNat (range.2.2.toNat + (code - range.1))]

/-- What a character contributes to a name; none if it cannot stand there. -/
def nameText? (character : Char) : Option (List Char) :=
  if character.toNat < 0x80 then
    if isSeparator character then none
    else if 'A' ≤ character && character ≤ 'Z' then some [Char.ofNat (character.toNat + 32)]
    else some [character]
  else if isInRanges ignoredRanges character then some []
  else if isJoiner character then some [character]
  else if isInRanges refusedRanges character then none
  else if isCombining character then some [character]
  else if !Text.isPrintable character then none
  else some ((standsFor? character).getD [character])

/-- How a character takes part in the direction of a name. -/
inductive Direction where
  /-- A letter that is written from left to right. -/
  | leftToRight
  /-- A letter that is written from right to left. -/
  | rightToLeft
  /-- A digit that is written with letters from right to left. -/
  | arabicNumber
  /-- A digit that is written with letters from left to right. -/
  | europeanNumber
  /-- A character that combines with the one before it. -/
  | combining
  /-- A character without a direction. -/
  | neutral
  deriving DecidableEq, Repr

/-- The direction of a character. -/
def Direction.ofChar (character : Char) : Direction :=
  if character.toNat < 0x80 then
    if '0' ≤ character && character ≤ '9' then .europeanNumber
    else if character.isAlpha then .leftToRight
    else .neutral
  else if isCombining character then .combining
  else if isInRanges rightToLeftRanges character then .rightToLeft
  else if isInRanges arabicNumberRanges character then .arabicNumber
  else if isInRanges europeanNumberRanges character then .europeanNumber
  else if isJoiner character || isInRanges neutralRanges character then .neutral
  else .leftToRight

end Registry
end BundleTrust
