import CatalogSearch.Text.CodeRange

/-!
# Base letters

A letter with marks is taken apart by canonical decomposition and the marks that take no space
of their own are dropped.  Compatibility ideographs are left whole, since no rule reads them.
Only the phonetic codes that a matcher can run with ask for base letters.
-/

namespace CatalogSearch.Text

def nonspacingMarkRanges : List CodeRange := [
  (0x300, 0x36F), (0x483, 0x487), (0x591, 0x5BD), (0x5BF, 0x5BF), (0x5C1, 0x5C2), (0x5C4, 0x5C5),
  (0x5C7, 0x5C7), (0x610, 0x61A), (0x64B, 0x65F), (0x670, 0x670), (0x6D6, 0x6DC), (0x6DF, 0x6E4),
  (0x6E7, 0x6E8), (0x6EA, 0x6ED), (0x711, 0x711), (0x730, 0x74A), (0x7A6, 0x7B0), (0x7EB, 0x7F3),
  (0x7FD, 0x7FD), (0x816, 0x819), (0x81B, 0x823), (0x825, 0x827), (0x829, 0x82D), (0x859, 0x85B),
  (0x898, 0x89F), (0x8CA, 0x8E1), (0x8E3, 0x902), (0x93A, 0x93A), (0x93C, 0x93C), (0x941, 0x948),
  (0x94D, 0x94D), (0x951, 0x957), (0x962, 0x963), (0x981, 0x981), (0x9BC, 0x9BC), (0x9C1, 0x9C4),
  (0x9CD, 0x9CD), (0x9E2, 0x9E3), (0x9FE, 0x9FE), (0xA01, 0xA02), (0xA3C, 0xA3C), (0xA41, 0xA42),
  (0xA47, 0xA48), (0xA4B, 0xA4D), (0xA51, 0xA51), (0xA70, 0xA71), (0xA75, 0xA75), (0xA81, 0xA82),
  (0xABC, 0xABC), (0xAC1, 0xAC5), (0xAC7, 0xAC8), (0xACD, 0xACD), (0xAE2, 0xAE3), (0xAFA, 0xAFF),
  (0xB01, 0xB01), (0xB3C, 0xB3C), (0xB3F, 0xB3F), (0xB41, 0xB44), (0xB4D, 0xB4D), (0xB55, 0xB56),
  (0xB62, 0xB63), (0xB82, 0xB82), (0xBC0, 0xBC0), (0xBCD, 0xBCD), (0xC00, 0xC00), (0xC04, 0xC04),
  (0xC3C, 0xC3C), (0xC3E, 0xC40), (0xC46, 0xC48), (0xC4A, 0xC4D), (0xC55, 0xC56), (0xC62, 0xC63),
  (0xC81, 0xC81), (0xCBC, 0xCBC), (0xCBF, 0xCBF), (0xCC6, 0xCC6), (0xCCC, 0xCCD), (0xCE2, 0xCE3),
  (0xD00, 0xD01), (0xD3B, 0xD3C), (0xD41, 0xD44), (0xD4D, 0xD4D), (0xD62, 0xD63), (0xD81, 0xD81),
  (0xDCA, 0xDCA), (0xDD2, 0xDD4), (0xDD6, 0xDD6), (0xE31, 0xE31), (0xE34, 0xE3A), (0xE47, 0xE4E),
  (0xEB1, 0xEB1), (0xEB4, 0xEBC), (0xEC8, 0xECD), (0xF18, 0xF19), (0xF35, 0xF35), (0xF37, 0xF37),
  (0xF39, 0xF39), (0xF71, 0xF7E), (0xF80, 0xF84), (0xF86, 0xF87), (0xF8D, 0xF97), (0xF99, 0xFBC),
  (0xFC6, 0xFC6), (0x102D, 0x1030), (0x1032, 0x1037), (0x1039, 0x103A), (0x103D, 0x103E),
  (0x1058, 0x1059), (0x105E, 0x1060), (0x1071, 0x1074), (0x1082, 0x1082), (0x1085, 0x1086),
  (0x108D, 0x108D), (0x109D, 0x109D), (0x135D, 0x135F), (0x1712, 0x1714), (0x1732, 0x1733),
  (0x1752, 0x1753), (0x1772, 0x1773), (0x17B4, 0x17B5), (0x17B7, 0x17BD), (0x17C6, 0x17C6),
  (0x17C9, 0x17D3), (0x17DD, 0x17DD), (0x180B, 0x180D), (0x180F, 0x180F), (0x1885, 0x1886),
  (0x18A9, 0x18A9), (0x1920, 0x1922), (0x1927, 0x1928), (0x1932, 0x1932), (0x1939, 0x193B),
  (0x1A17, 0x1A18), (0x1A1B, 0x1A1B), (0x1A56, 0x1A56), (0x1A58, 0x1A5E), (0x1A60, 0x1A60),
  (0x1A62, 0x1A62), (0x1A65, 0x1A6C), (0x1A73, 0x1A7C), (0x1A7F, 0x1A7F), (0x1AB0, 0x1ABD),
  (0x1ABF, 0x1ACE), (0x1B00, 0x1B03), (0x1B34, 0x1B34), (0x1B36, 0x1B3A), (0x1B3C, 0x1B3C),
  (0x1B42, 0x1B42), (0x1B6B, 0x1B73), (0x1B80, 0x1B81), (0x1BA2, 0x1BA5), (0x1BA8, 0x1BA9),
  (0x1BAB, 0x1BAD), (0x1BE6, 0x1BE6), (0x1BE8, 0x1BE9), (0x1BED, 0x1BED), (0x1BEF, 0x1BF1),
  (0x1C2C, 0x1C33), (0x1C36, 0x1C37), (0x1CD0, 0x1CD2), (0x1CD4, 0x1CE0), (0x1CE2, 0x1CE8),
  (0x1CED, 0x1CED), (0x1CF4, 0x1CF4), (0x1CF8, 0x1CF9), (0x1DC0, 0x1DFF), (0x20D0, 0x20DC),
  (0x20E1, 0x20E1), (0x20E5, 0x20F0), (0x2CEF, 0x2CF1), (0x2D7F, 0x2D7F), (0x2DE0, 0x2DFF),
  (0x302A, 0x302D), (0x3099, 0x309A), (0xA66F, 0xA66F), (0xA674, 0xA67D), (0xA69E, 0xA69F),
  (0xA6F0, 0xA6F1), (0xA802, 0xA802), (0xA806, 0xA806), (0xA80B, 0xA80B), (0xA825, 0xA826),
  (0xA82C, 0xA82C), (0xA8C4, 0xA8C5), (0xA8E0, 0xA8F1), (0xA8FF, 0xA8FF), (0xA926, 0xA92D),
  (0xA947, 0xA951), (0xA980, 0xA982), (0xA9B3, 0xA9B3), (0xA9B6, 0xA9B9), (0xA9BC, 0xA9BD),
  (0xA9E5, 0xA9E5), (0xAA29, 0xAA2E), (0xAA31, 0xAA32), (0xAA35, 0xAA36), (0xAA43, 0xAA43),
  (0xAA4C, 0xAA4C), (0xAA7C, 0xAA7C), (0xAAB0, 0xAAB0), (0xAAB2, 0xAAB4), (0xAAB7, 0xAAB8),
  (0xAABE, 0xAABF), (0xAAC1, 0xAAC1), (0xAAEC, 0xAAED), (0xAAF6, 0xAAF6), (0xABE5, 0xABE5),
  (0xABE8, 0xABE8), (0xABED, 0xABED), (0xFB1E, 0xFB1E), (0xFE00, 0xFE0F), (0xFE20, 0xFE2F),
  (0x101FD, 0x101FD), (0x102E0, 0x102E0), (0x10376, 0x1037A), (0x10A01, 0x10A03),
  (0x10A05, 0x10A06), (0x10A0C, 0x10A0F), (0x10A38, 0x10A3A), (0x10A3F, 0x10A3F),
  (0x10AE5, 0x10AE6), (0x10D24, 0x10D27), (0x10EAB, 0x10EAC), (0x10F46, 0x10F50),
  (0x10F82, 0x10F85), (0x11001, 0x11001), (0x11038, 0x11046), (0x11070, 0x11070),
  (0x11073, 0x11074), (0x1107F, 0x11081), (0x110B3, 0x110B6), (0x110B9, 0x110BA),
  (0x110C2, 0x110C2), (0x11100, 0x11102), (0x11127, 0x1112B), (0x1112D, 0x11134),
  (0x11173, 0x11173), (0x11180, 0x11181), (0x111B6, 0x111BE), (0x111C9, 0x111CC),
  (0x111CF, 0x111CF), (0x1122F, 0x11231), (0x11234, 0x11234), (0x11236, 0x11237),
  (0x1123E, 0x1123E), (0x112DF, 0x112DF), (0x112E3, 0x112EA), (0x11300, 0x11301),
  (0x1133B, 0x1133C), (0x11340, 0x11340), (0x11366, 0x1136C), (0x11370, 0x11374),
  (0x11438, 0x1143F), (0x11442, 0x11444), (0x11446, 0x11446), (0x1145E, 0x1145E),
  (0x114B3, 0x114B8), (0x114BA, 0x114BA), (0x114BF, 0x114C0), (0x114C2, 0x114C3),
  (0x115B2, 0x115B5), (0x115BC, 0x115BD), (0x115BF, 0x115C0), (0x115DC, 0x115DD),
  (0x11633, 0x1163A), (0x1163D, 0x1163D), (0x1163F, 0x11640), (0x116AB, 0x116AB),
  (0x116AD, 0x116AD), (0x116B0, 0x116B5), (0x116B7, 0x116B7), (0x1171D, 0x1171F),
  (0x11722, 0x11725), (0x11727, 0x1172B), (0x1182F, 0x11837), (0x11839, 0x1183A),
  (0x1193B, 0x1193C), (0x1193E, 0x1193E), (0x11943, 0x11943), (0x119D4, 0x119D7),
  (0x119DA, 0x119DB), (0x119E0, 0x119E0), (0x11A01, 0x11A0A), (0x11A33, 0x11A38),
  (0x11A3B, 0x11A3E), (0x11A47, 0x11A47), (0x11A51, 0x11A56), (0x11A59, 0x11A5B),
  (0x11A8A, 0x11A96), (0x11A98, 0x11A99), (0x11C30, 0x11C36), (0x11C38, 0x11C3D),
  (0x11C3F, 0x11C3F), (0x11C92, 0x11CA7), (0x11CAA, 0x11CB0), (0x11CB2, 0x11CB3),
  (0x11CB5, 0x11CB6), (0x11D31, 0x11D36), (0x11D3A, 0x11D3A), (0x11D3C, 0x11D3D),
  (0x11D3F, 0x11D45), (0x11D47, 0x11D47), (0x11D90, 0x11D91), (0x11D95, 0x11D95),
  (0x11D97, 0x11D97), (0x11EF3, 0x11EF4), (0x16AF0, 0x16AF4), (0x16B30, 0x16B36),
  (0x16F4F, 0x16F4F), (0x16F8F, 0x16F92), (0x16FE4, 0x16FE4), (0x1BC9D, 0x1BC9E),
  (0x1CF00, 0x1CF2D), (0x1CF30, 0x1CF46), (0x1D167, 0x1D169), (0x1D17B, 0x1D182),
  (0x1D185, 0x1D18B), (0x1D1AA, 0x1D1AD), (0x1D242, 0x1D244), (0x1DA00, 0x1DA36),
  (0x1DA3B, 0x1DA6C), (0x1DA75, 0x1DA75), (0x1DA84, 0x1DA84), (0x1DA9B, 0x1DA9F),
  (0x1DAA1, 0x1DAAF), (0x1E000, 0x1E006), (0x1E008, 0x1E018), (0x1E01B, 0x1E021),
  (0x1E023, 0x1E024), (0x1E026, 0x1E02A), (0x1E130, 0x1E136), (0x1E2AE, 0x1E2AE),
  (0x1E2EC, 0x1E2EF), (0x1E8D0, 0x1E8D6), (0x1E944, 0x1E94A), (0xE0100, 0xE01EF)]

def composedLetters : List (List Nat × List Nat) := [
  ([0x41], [
    0xC0, 0xC1, 0xC2, 0xC3, 0xC4, 0xC5, 0x100, 0x102, 0x104, 0x1CD, 0x1DE, 0x1E0, 0x1FA, 0x200,
    0x202, 0x226, 0x1E00, 0x1EA0, 0x1EA2, 0x1EA4, 0x1EA6, 0x1EA8, 0x1EAA, 0x1EAC, 0x1EAE, 0x1EB0,
    0x1EB2, 0x1EB4, 0x1EB6, 0x212B]),
  ([0x43], [
    0xC7, 0x106, 0x108, 0x10A, 0x10C, 0x1E08]),
  ([0x45], [
    0xC8, 0xC9, 0xCA, 0xCB, 0x112, 0x114, 0x116, 0x118, 0x11A, 0x204, 0x206, 0x228, 0x1E14,
    0x1E16, 0x1E18, 0x1E1A, 0x1E1C, 0x1EB8, 0x1EBA, 0x1EBC, 0x1EBE, 0x1EC0, 0x1EC2, 0x1EC4,
    0x1EC6]),
  ([0x49], [
    0xCC, 0xCD, 0xCE, 0xCF, 0x128, 0x12A, 0x12C, 0x12E, 0x130, 0x1CF, 0x208, 0x20A, 0x1E2C,
    0x1E2E, 0x1EC8, 0x1ECA]),
  ([0x4E], [
    0xD1, 0x143, 0x145, 0x147, 0x1F8, 0x1E44, 0x1E46, 0x1E48, 0x1E4A]),
  ([0x4F], [
    0xD2, 0xD3, 0xD4, 0xD5, 0xD6, 0x14C, 0x14E, 0x150, 0x1A0, 0x1D1, 0x1EA, 0x1EC, 0x20C, 0x20E,
    0x22A, 0x22C, 0x22E, 0x230, 0x1E4C, 0x1E4E, 0x1E50, 0x1E52, 0x1ECC, 0x1ECE, 0x1ED0, 0x1ED2,
    0x1ED4, 0x1ED6, 0x1ED8, 0x1EDA, 0x1EDC, 0x1EDE, 0x1EE0, 0x1EE2]),
  ([0x55], [
    0xD9, 0xDA, 0xDB, 0xDC, 0x168, 0x16A, 0x16C, 0x16E, 0x170, 0x172, 0x1AF, 0x1D3, 0x1D5, 0x1D7,
    0x1D9, 0x1DB, 0x214, 0x216, 0x1E72, 0x1E74, 0x1E76, 0x1E78, 0x1E7A, 0x1EE4, 0x1EE6, 0x1EE8,
    0x1EEA, 0x1EEC, 0x1EEE, 0x1EF0]),
  ([0x59], [
    0xDD, 0x176, 0x178, 0x232, 0x1E8E, 0x1EF2, 0x1EF4, 0x1EF6, 0x1EF8]),
  ([0x61], [
    0xE0, 0xE1, 0xE2, 0xE3, 0xE4, 0xE5, 0x101, 0x103, 0x105, 0x1CE, 0x1DF, 0x1E1, 0x1FB, 0x201,
    0x203, 0x227, 0x1E01, 0x1EA1, 0x1EA3, 0x1EA5, 0x1EA7, 0x1EA9, 0x1EAB, 0x1EAD, 0x1EAF, 0x1EB1,
    0x1EB3, 0x1EB5, 0x1EB7]),
  ([0x63], [
    0xE7, 0x107, 0x109, 0x10B, 0x10D, 0x1E09]),
  ([0x65], [
    0xE8, 0xE9, 0xEA, 0xEB, 0x113, 0x115, 0x117, 0x119, 0x11B, 0x205, 0x207, 0x229, 0x1E15,
    0x1E17, 0x1E19, 0x1E1B, 0x1E1D, 0x1EB9, 0x1EBB, 0x1EBD, 0x1EBF, 0x1EC1, 0x1EC3, 0x1EC5,
    0x1EC7]),
  ([0x69], [
    0xEC, 0xED, 0xEE, 0xEF, 0x129, 0x12B, 0x12D, 0x12F, 0x1D0, 0x209, 0x20B, 0x1E2D, 0x1E2F,
    0x1EC9, 0x1ECB]),
  ([0x6E], [
    0xF1, 0x144, 0x146, 0x148, 0x1F9, 0x1E45, 0x1E47, 0x1E49, 0x1E4B]),
  ([0x6F], [
    0xF2, 0xF3, 0xF4, 0xF5, 0xF6, 0x14D, 0x14F, 0x151, 0x1A1, 0x1D2, 0x1EB, 0x1ED, 0x20D, 0x20F,
    0x22B, 0x22D, 0x22F, 0x231, 0x1E4D, 0x1E4F, 0x1E51, 0x1E53, 0x1ECD, 0x1ECF, 0x1ED1, 0x1ED3,
    0x1ED5, 0x1ED7, 0x1ED9, 0x1EDB, 0x1EDD, 0x1EDF, 0x1EE1, 0x1EE3]),
  ([0x75], [
    0xF9, 0xFA, 0xFB, 0xFC, 0x169, 0x16B, 0x16D, 0x16F, 0x171, 0x173, 0x1B0, 0x1D4, 0x1D6, 0x1D8,
    0x1DA, 0x1DC, 0x215, 0x217, 0x1E73, 0x1E75, 0x1E77, 0x1E79, 0x1E7B, 0x1EE5, 0x1EE7, 0x1EE9,
    0x1EEB, 0x1EED, 0x1EEF, 0x1EF1]),
  ([0x79], [
    0xFD, 0xFF, 0x177, 0x233, 0x1E8F, 0x1E99, 0x1EF3, 0x1EF5, 0x1EF7, 0x1EF9]),
  ([0x44], [
    0x10E, 0x1E0A, 0x1E0C, 0x1E0E, 0x1E10, 0x1E12]),
  ([0x64], [
    0x10F, 0x1E0B, 0x1E0D, 0x1E0F, 0x1E11, 0x1E13]),
  ([0x47], [
    0x11C, 0x11E, 0x120, 0x122, 0x1E6, 0x1F4, 0x1E20]),
  ([0x67], [
    0x11D, 0x11F, 0x121, 0x123, 0x1E7, 0x1F5, 0x1E21]),
  ([0x48], [
    0x124, 0x21E, 0x1E22, 0x1E24, 0x1E26, 0x1E28, 0x1E2A]),
  ([0x68], [
    0x125, 0x21F, 0x1E23, 0x1E25, 0x1E27, 0x1E29, 0x1E2B, 0x1E96]),
  ([0x4A], [
    0x134]),
  ([0x6A], [
    0x135, 0x1F0]),
  ([0x4B], [
    0x136, 0x1E8, 0x1E30, 0x1E32, 0x1E34, 0x212A]),
  ([0x6B], [
    0x137, 0x1E9, 0x1E31, 0x1E33, 0x1E35]),
  ([0x4C], [
    0x139, 0x13B, 0x13D, 0x1E36, 0x1E38, 0x1E3A, 0x1E3C]),
  ([0x6C], [
    0x13A, 0x13C, 0x13E, 0x1E37, 0x1E39, 0x1E3B, 0x1E3D]),
  ([0x52], [
    0x154, 0x156, 0x158, 0x210, 0x212, 0x1E58, 0x1E5A, 0x1E5C, 0x1E5E]),
  ([0x72], [
    0x155, 0x157, 0x159, 0x211, 0x213, 0x1E59, 0x1E5B, 0x1E5D, 0x1E5F]),
  ([0x53], [
    0x15A, 0x15C, 0x15E, 0x160, 0x218, 0x1E60, 0x1E62, 0x1E64, 0x1E66, 0x1E68]),
  ([0x73], [
    0x15B, 0x15D, 0x15F, 0x161, 0x219, 0x1E61, 0x1E63, 0x1E65, 0x1E67, 0x1E69]),
  ([0x54], [
    0x162, 0x164, 0x21A, 0x1E6A, 0x1E6C, 0x1E6E, 0x1E70]),
  ([0x74], [
    0x163, 0x165, 0x21B, 0x1E6B, 0x1E6D, 0x1E6F, 0x1E71, 0x1E97]),
  ([0x57], [
    0x174, 0x1E80, 0x1E82, 0x1E84, 0x1E86, 0x1E88]),
  ([0x77], [
    0x175, 0x1E81, 0x1E83, 0x1E85, 0x1E87, 0x1E89, 0x1E98]),
  ([0x5A], [
    0x179, 0x17B, 0x17D, 0x1E90, 0x1E92, 0x1E94]),
  ([0x7A], [
    0x17A, 0x17C, 0x17E, 0x1E91, 0x1E93, 0x1E95]),
  ([0xC6], [
    0x1E2, 0x1FC]),
  ([0xE6], [
    0x1E3, 0x1FD]),
  ([0x1B7], [
    0x1EE]),
  ([0x292], [
    0x1EF]),
  ([0xD8], [
    0x1FE]),
  ([0xF8], [
    0x1FF]),
  ([0x2B9], [
    0x374]),
  ([0x3B], [
    0x37E]),
  ([0xA8], [
    0x385, 0x1FC1, 0x1FED, 0x1FEE]),
  ([0x391], [
    0x386, 0x1F08, 0x1F09, 0x1F0A, 0x1F0B, 0x1F0C, 0x1F0D, 0x1F0E, 0x1F0F, 0x1F88, 0x1F89, 0x1F8A,
    0x1F8B, 0x1F8C, 0x1F8D, 0x1F8E, 0x1F8F, 0x1FB8, 0x1FB9, 0x1FBA, 0x1FBB, 0x1FBC]),
  ([0xB7], [
    0x387]),
  ([0x395], [
    0x388, 0x1F18, 0x1F19, 0x1F1A, 0x1F1B, 0x1F1C, 0x1F1D, 0x1FC8, 0x1FC9]),
  ([0x397], [
    0x389, 0x1F28, 0x1F29, 0x1F2A, 0x1F2B, 0x1F2C, 0x1F2D, 0x1F2E, 0x1F2F, 0x1F98, 0x1F99, 0x1F9A,
    0x1F9B, 0x1F9C, 0x1F9D, 0x1F9E, 0x1F9F, 0x1FCA, 0x1FCB, 0x1FCC]),
  ([0x399], [
    0x38A, 0x3AA, 0x1F38, 0x1F39, 0x1F3A, 0x1F3B, 0x1F3C, 0x1F3D, 0x1F3E, 0x1F3F, 0x1FD8, 0x1FD9,
    0x1FDA, 0x1FDB]),
  ([0x39F], [
    0x38C, 0x1F48, 0x1F49, 0x1F4A, 0x1F4B, 0x1F4C, 0x1F4D, 0x1FF8, 0x1FF9]),
  ([0x3A5], [
    0x38E, 0x3AB, 0x1F59, 0x1F5B, 0x1F5D, 0x1F5F, 0x1FE8, 0x1FE9, 0x1FEA, 0x1FEB]),
  ([0x3A9], [
    0x38F, 0x1F68, 0x1F69, 0x1F6A, 0x1F6B, 0x1F6C, 0x1F6D, 0x1F6E, 0x1F6F, 0x1FA8, 0x1FA9, 0x1FAA,
    0x1FAB, 0x1FAC, 0x1FAD, 0x1FAE, 0x1FAF, 0x1FFA, 0x1FFB, 0x1FFC, 0x2126]),
  ([0x3B9], [
    0x390, 0x3AF, 0x3CA, 0x1F30, 0x1F31, 0x1F32, 0x1F33, 0x1F34, 0x1F35, 0x1F36, 0x1F37, 0x1F76,
    0x1F77, 0x1FBE, 0x1FD0, 0x1FD1, 0x1FD2, 0x1FD3, 0x1FD6, 0x1FD7]),
  ([0x3B1], [
    0x3AC, 0x1F00, 0x1F01, 0x1F02, 0x1F03, 0x1F04, 0x1F05, 0x1F06, 0x1F07, 0x1F70, 0x1F71, 0x1F80,
    0x1F81, 0x1F82, 0x1F83, 0x1F84, 0x1F85, 0x1F86, 0x1F87, 0x1FB0, 0x1FB1, 0x1FB2, 0x1FB3,
    0x1FB4, 0x1FB6, 0x1FB7]),
  ([0x3B5], [
    0x3AD, 0x1F10, 0x1F11, 0x1F12, 0x1F13, 0x1F14, 0x1F15, 0x1F72, 0x1F73]),
  ([0x3B7], [
    0x3AE, 0x1F20, 0x1F21, 0x1F22, 0x1F23, 0x1F24, 0x1F25, 0x1F26, 0x1F27, 0x1F74, 0x1F75, 0x1F90,
    0x1F91, 0x1F92, 0x1F93, 0x1F94, 0x1F95, 0x1F96, 0x1F97, 0x1FC2, 0x1FC3, 0x1FC4, 0x1FC6,
    0x1FC7]),
  ([0x3C5], [
    0x3B0, 0x3CB, 0x3CD, 0x1F50, 0x1F51, 0x1F52, 0x1F53, 0x1F54, 0x1F55, 0x1F56, 0x1F57, 0x1F7A,
    0x1F7B, 0x1FE0, 0x1FE1, 0x1FE2, 0x1FE3, 0x1FE6, 0x1FE7]),
  ([0x3BF], [
    0x3CC, 0x1F40, 0x1F41, 0x1F42, 0x1F43, 0x1F44, 0x1F45, 0x1F78, 0x1F79]),
  ([0x3C9], [
    0x3CE, 0x1F60, 0x1F61, 0x1F62, 0x1F63, 0x1F64, 0x1F65, 0x1F66, 0x1F67, 0x1F7C, 0x1F7D, 0x1FA0,
    0x1FA1, 0x1FA2, 0x1FA3, 0x1FA4, 0x1FA5, 0x1FA6, 0x1FA7, 0x1FF2, 0x1FF3, 0x1FF4, 0x1FF6,
    0x1FF7]),
  ([0x3D2], [
    0x3D3, 0x3D4]),
  ([0x415], [
    0x400, 0x401, 0x4D6]),
  ([0x413], [
    0x403]),
  ([0x406], [
    0x407]),
  ([0x41A], [
    0x40C]),
  ([0x418], [
    0x40D, 0x419, 0x4E2, 0x4E4]),
  ([0x423], [
    0x40E, 0x4EE, 0x4F0, 0x4F2]),
  ([0x438], [
    0x439, 0x45D, 0x4E3, 0x4E5]),
  ([0x435], [
    0x450, 0x451, 0x4D7]),
  ([0x433], [
    0x453]),
  ([0x456], [
    0x457]),
  ([0x43A], [
    0x45C]),
  ([0x443], [
    0x45E, 0x4EF, 0x4F1, 0x4F3]),
  ([0x474], [
    0x476]),
  ([0x475], [
    0x477]),
  ([0x416], [
    0x4C1, 0x4DC]),
  ([0x436], [
    0x4C2, 0x4DD]),
  ([0x410], [
    0x4D0, 0x4D2]),
  ([0x430], [
    0x4D1, 0x4D3]),
  ([0x4D8], [
    0x4DA]),
  ([0x4D9], [
    0x4DB]),
  ([0x417], [
    0x4DE]),
  ([0x437], [
    0x4DF]),
  ([0x41E], [
    0x4E6]),
  ([0x43E], [
    0x4E7]),
  ([0x4E8], [
    0x4EA]),
  ([0x4E9], [
    0x4EB]),
  ([0x42D], [
    0x4EC]),
  ([0x44D], [
    0x4ED]),
  ([0x427], [
    0x4F4]),
  ([0x447], [
    0x4F5]),
  ([0x42B], [
    0x4F8]),
  ([0x44B], [
    0x4F9]),
  ([0x627], [
    0x622, 0x623, 0x625]),
  ([0x648], [
    0x624]),
  ([0x64A], [
    0x626]),
  ([0x6D5], [
    0x6C0]),
  ([0x6C1], [
    0x6C2]),
  ([0x6D2], [
    0x6D3]),
  ([0x928], [
    0x929]),
  ([0x930], [
    0x931]),
  ([0x933], [
    0x934]),
  ([0x915], [
    0x958]),
  ([0x916], [
    0x959]),
  ([0x917], [
    0x95A]),
  ([0x91C], [
    0x95B]),
  ([0x921], [
    0x95C]),
  ([0x922], [
    0x95D]),
  ([0x92B], [
    0x95E]),
  ([0x92F], [
    0x95F]),
  ([0x9C7, 0x9BE], [
    0x9CB]),
  ([0x9C7, 0x9D7], [
    0x9CC]),
  ([0x9A1], [
    0x9DC]),
  ([0x9A2], [
    0x9DD]),
  ([0x9AF], [
    0x9DF]),
  ([0xA32], [
    0xA33]),
  ([0xA38], [
    0xA36]),
  ([0xA16], [
    0xA59]),
  ([0xA17], [
    0xA5A]),
  ([0xA1C], [
    0xA5B]),
  ([0xA2B], [
    0xA5E]),
  ([0xB47], [
    0xB48]),
  ([0xB47, 0xB3E], [
    0xB4B]),
  ([0xB47, 0xB57], [
    0xB4C]),
  ([0xB21], [
    0xB5C]),
  ([0xB22], [
    0xB5D]),
  ([0xB92, 0xBD7], [
    0xB94]),
  ([0xBC6, 0xBBE], [
    0xBCA]),
  ([0xBC7, 0xBBE], [
    0xBCB]),
  ([0xBC6, 0xBD7], [
    0xBCC]),
  ([0xCD5], [
    0xCC0, 0xCC7]),
  ([0xCD6], [
    0xCC8]),
  ([0xCC2], [
    0xCCA]),
  ([0xCC2, 0xCD5], [
    0xCCB]),
  ([0xD46, 0xD3E], [
    0xD4A]),
  ([0xD47, 0xD3E], [
    0xD4B]),
  ([0xD46, 0xD57], [
    0xD4C]),
  ([0xDD9], [
    0xDDA]),
  ([0xDD9, 0xDCF], [
    0xDDC, 0xDDD]),
  ([0xDD9, 0xDDF], [
    0xDDE]),
  ([0xF42], [
    0xF43]),
  ([0xF4C], [
    0xF4D]),
  ([0xF51], [
    0xF52]),
  ([0xF56], [
    0xF57]),
  ([0xF5B], [
    0xF5C]),
  ([0xF40], [
    0xF69]),
  ([0x1025], [
    0x1026]),
  ([0x1B05, 0x1B35], [
    0x1B06]),
  ([0x1B07, 0x1B35], [
    0x1B08]),
  ([0x1B09, 0x1B35], [
    0x1B0A]),
  ([0x1B0B, 0x1B35], [
    0x1B0C]),
  ([0x1B0D, 0x1B35], [
    0x1B0E]),
  ([0x1B11, 0x1B35], [
    0x1B12]),
  ([0x1B35], [
    0x1B3B, 0x1B3D, 0x1B43]),
  ([0x1B3E, 0x1B35], [
    0x1B40]),
  ([0x1B3F, 0x1B35], [
    0x1B41]),
  ([0x42], [
    0x1E02, 0x1E04, 0x1E06]),
  ([0x62], [
    0x1E03, 0x1E05, 0x1E07]),
  ([0x46], [
    0x1E1E]),
  ([0x66], [
    0x1E1F]),
  ([0x4D], [
    0x1E3E, 0x1E40, 0x1E42]),
  ([0x6D], [
    0x1E3F, 0x1E41, 0x1E43]),
  ([0x50], [
    0x1E54, 0x1E56]),
  ([0x70], [
    0x1E55, 0x1E57]),
  ([0x56], [
    0x1E7C, 0x1E7E]),
  ([0x76], [
    0x1E7D, 0x1E7F]),
  ([0x58], [
    0x1E8A, 0x1E8C]),
  ([0x78], [
    0x1E8B, 0x1E8D]),
  ([0x17F], [
    0x1E9B]),
  ([0x1FBF], [
    0x1FCD, 0x1FCE, 0x1FCF]),
  ([0x1FFE], [
    0x1FDD, 0x1FDE, 0x1FDF]),
  ([0x3C1], [
    0x1FE4, 0x1FE5]),
  ([0x3A1], [
    0x1FEC]),
  ([0x60], [
    0x1FEF]),
  ([0xB4], [
    0x1FFD]),
  ([0x2002], [
    0x2000]),
  ([0x2003], [
    0x2001]),
  ([0x2190], [
    0x219A]),
  ([0x2192], [
    0x219B]),
  ([0x2194], [
    0x21AE]),
  ([0x21D0], [
    0x21CD]),
  ([0x21D4], [
    0x21CE]),
  ([0x21D2], [
    0x21CF]),
  ([0x2203], [
    0x2204]),
  ([0x2208], [
    0x2209]),
  ([0x220B], [
    0x220C]),
  ([0x2223], [
    0x2224]),
  ([0x2225], [
    0x2226]),
  ([0x223C], [
    0x2241]),
  ([0x2243], [
    0x2244]),
  ([0x2245], [
    0x2247]),
  ([0x2248], [
    0x2249]),
  ([0x3D], [
    0x2260]),
  ([0x2261], [
    0x2262]),
  ([0x224D], [
    0x226D]),
  ([0x3C], [
    0x226E]),
  ([0x3E], [
    0x226F]),
  ([0x2264], [
    0x2270]),
  ([0x2265], [
    0x2271]),
  ([0x2272], [
    0x2274]),
  ([0x2273], [
    0x2275]),
  ([0x2276], [
    0x2278]),
  ([0x2277], [
    0x2279]),
  ([0x227A], [
    0x2280]),
  ([0x227B], [
    0x2281]),
  ([0x2282], [
    0x2284]),
  ([0x2283], [
    0x2285]),
  ([0x2286], [
    0x2288]),
  ([0x2287], [
    0x2289]),
  ([0x22A2], [
    0x22AC]),
  ([0x22A8], [
    0x22AD]),
  ([0x22A9], [
    0x22AE]),
  ([0x22AB], [
    0x22AF]),
  ([0x227C], [
    0x22E0]),
  ([0x227D], [
    0x22E1]),
  ([0x2291], [
    0x22E2]),
  ([0x2292], [
    0x22E3]),
  ([0x22B2], [
    0x22EA]),
  ([0x22B3], [
    0x22EB]),
  ([0x22B4], [
    0x22EC]),
  ([0x22B5], [
    0x22ED]),
  ([0x3008], [
    0x2329]),
  ([0x3009], [
    0x232A]),
  ([0x2ADD], [
    0x2ADC]),
  ([0x304B], [
    0x304C]),
  ([0x304D], [
    0x304E]),
  ([0x304F], [
    0x3050]),
  ([0x3051], [
    0x3052]),
  ([0x3053], [
    0x3054]),
  ([0x3055], [
    0x3056]),
  ([0x3057], [
    0x3058]),
  ([0x3059], [
    0x305A]),
  ([0x305B], [
    0x305C]),
  ([0x305D], [
    0x305E]),
  ([0x305F], [
    0x3060]),
  ([0x3061], [
    0x3062]),
  ([0x3064], [
    0x3065]),
  ([0x3066], [
    0x3067]),
  ([0x3068], [
    0x3069]),
  ([0x306F], [
    0x3070, 0x3071]),
  ([0x3072], [
    0x3073, 0x3074]),
  ([0x3075], [
    0x3076, 0x3077]),
  ([0x3078], [
    0x3079, 0x307A]),
  ([0x307B], [
    0x307C, 0x307D]),
  ([0x3046], [
    0x3094]),
  ([0x309D], [
    0x309E]),
  ([0x30AB], [
    0x30AC]),
  ([0x30AD], [
    0x30AE]),
  ([0x30AF], [
    0x30B0]),
  ([0x30B1], [
    0x30B2]),
  ([0x30B3], [
    0x30B4]),
  ([0x30B5], [
    0x30B6]),
  ([0x30B7], [
    0x30B8]),
  ([0x30B9], [
    0x30BA]),
  ([0x30BB], [
    0x30BC]),
  ([0x30BD], [
    0x30BE]),
  ([0x30BF], [
    0x30C0]),
  ([0x30C1], [
    0x30C2]),
  ([0x30C4], [
    0x30C5]),
  ([0x30C6], [
    0x30C7]),
  ([0x30C8], [
    0x30C9]),
  ([0x30CF], [
    0x30D0, 0x30D1]),
  ([0x30D2], [
    0x30D3, 0x30D4]),
  ([0x30D5], [
    0x30D6, 0x30D7]),
  ([0x30D8], [
    0x30D9, 0x30DA]),
  ([0x30DB], [
    0x30DC, 0x30DD]),
  ([0x30A6], [
    0x30F4]),
  ([0x30EF], [
    0x30F7]),
  ([0x30F0], [
    0x30F8]),
  ([0x30F1], [
    0x30F9]),
  ([0x30F2], [
    0x30FA]),
  ([0x30FD], [
    0x30FE]),
  ([0x5D9], [
    0xFB1D, 0xFB39]),
  ([0x5F2], [
    0xFB1F]),
  ([0x5E9], [
    0xFB2A, 0xFB2B, 0xFB2C, 0xFB2D, 0xFB49]),
  ([0x5D0], [
    0xFB2E, 0xFB2F, 0xFB30]),
  ([0x5D1], [
    0xFB31, 0xFB4C]),
  ([0x5D2], [
    0xFB32]),
  ([0x5D3], [
    0xFB33]),
  ([0x5D4], [
    0xFB34]),
  ([0x5D5], [
    0xFB35, 0xFB4B]),
  ([0x5D6], [
    0xFB36]),
  ([0x5D8], [
    0xFB38]),
  ([0x5DA], [
    0xFB3A]),
  ([0x5DB], [
    0xFB3B, 0xFB4D]),
  ([0x5DC], [
    0xFB3C]),
  ([0x5DE], [
    0xFB3E]),
  ([0x5E0], [
    0xFB40]),
  ([0x5E1], [
    0xFB41]),
  ([0x5E3], [
    0xFB43]),
  ([0x5E4], [
    0xFB44, 0xFB4E]),
  ([0x5E6], [
    0xFB46]),
  ([0x5E7], [
    0xFB47]),
  ([0x5E8], [
    0xFB48]),
  ([0x5EA], [
    0xFB4A]),
  ([0x11099], [
    0x1109A]),
  ([0x1109B], [
    0x1109C]),
  ([0x110A5], [
    0x110AB]),
  ([0x11347, 0x1133E], [
    0x1134B]),
  ([0x11347, 0x11357], [
    0x1134C]),
  ([0x114B9], [
    0x114BB]),
  ([0x114B9, 0x114B0], [
    0x114BC]),
  ([0x114B9, 0x114BD], [
    0x114BE]),
  ([0x115B8, 0x115AF], [
    0x115BA]),
  ([0x115B9, 0x115AF], [
    0x115BB]),
  ([0x11935, 0x11930], [
    0x11938]),
  ([0x1D157, 0x1D165], [
    0x1D15E]),
  ([0x1D158, 0x1D165], [
    0x1D15F]),
  ([0x1D158, 0x1D165, 0x1D16E], [
    0x1D160]),
  ([0x1D158, 0x1D165, 0x1D16F], [
    0x1D161]),
  ([0x1D158, 0x1D165, 0x1D170], [
    0x1D162]),
  ([0x1D158, 0x1D165, 0x1D171], [
    0x1D163]),
  ([0x1D158, 0x1D165, 0x1D172], [
    0x1D164]),
  ([0x1D1B9, 0x1D165], [
    0x1D1BB]),
  ([0x1D1BA, 0x1D165], [
    0x1D1BC]),
  ([0x1D1B9, 0x1D165, 0x1D16E], [
    0x1D1BD]),
  ([0x1D1BA, 0x1D165, 0x1D16E], [
    0x1D1BE]),
  ([0x1D1B9, 0x1D165, 0x1D16F], [
    0x1D1BF]),
  ([0x1D1BA, 0x1D165, 0x1D16F], [
    0x1D1C0])]

def syllableParts (place : Nat) : List Nat :=
  [0x1100 + place / 588, 0x1161 + place % 588 / 28] ++
    if place % 28 = 0 then [] else [0x11A7 + place % 28]

def baseLetters (c : Char) : List Char :=
  if c.toNat < 0x80 then [c]
  else if CodeRange.contains nonspacingMarkRanges c.toNat then []
  else if 0xAC00 ≤ c.toNat ∧ c.toNat ≤ 0xD7A3 then
    (syllableParts (c.toNat - 0xAC00)).map Char.ofNat
  else match composedLetters.find? fun entry => entry.2.contains c.toNat with
    | some entry => entry.1.map Char.ofNat
    | none => [c]

def stripMarks (text : List Char) : List Char :=
  text.flatMap baseLetters

end CatalogSearch.Text
