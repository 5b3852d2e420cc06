/-! The characters that a label of a domain name may hold, and what tells them apart. The directions
of those that Unicode 14 does not know are not known here either. -/

namespace InputReplay

/-- The characters of Unicode 14 that may stand anywhere, as ranges, in which capitals and characters
without a printed form lie too. -/
def labelRanges : List (Nat × Nat) := [
  (0x2d, 0x2d), (0x30, 0x39), (0x61, 0x7a), (0xdf, 0xf6), (0xf8, 0x131), (0x135, 0x13e),
  (0x142, 0x148), (0x14b, 0x17e), (0x180, 0x1c3), (0x1ce, 0x1f0), (0x1f5, 0x2af), (0x2b9, 0x2c1),
  (0x2c6, 0x2d1), (0x2ec, 0x2ec), (0x2ee, 0x2ee), (0x300, 0x33f), (0x342, 0x342), (0x346, 0x34e),
  (0x350, 0x373), (0x377, 0x377), (0x37b, 0x37d), (0x390, 0x3ce), (0x3d7, 0x3ef), (0x3f3, 0x3f3),
  (0x3f8, 0x481), (0x483, 0x487), (0x48b, 0x559), (0x560, 0x586), (0x588, 0x588), (0x591, 0x5bd),
  (0x5bf, 0x5bf), (0x5c1, 0x5c2), (0x5c4, 0x5c5), (0x5c7, 0x5f2), (0x610, 0x61a), (0x620, 0x63f),
  (0x641, 0x65f), (0x66e, 0x674), (0x679, 0x6d3), (0x6d5, 0x6dc), (0x6df, 0x6e8), (0x6ea, 0x6ef),
  (0x6fa, 0x6ff), (0x710, 0x7f5), (0x7fd, 0x7fd), (0x800, 0x82d), (0x840, 0x85b), (0x860, 0x887),
  (0x889, 0x957), (0x960, 0x963), (0x966, 0x96f), (0x971, 0x9d7), (0x9e0, 0x9f1), (0x9fc, 0x9fc),
  (0x9fe, 0xa32), (0xa35, 0xa35), (0xa38, 0xa51), (0xa5c, 0xa5c), (0xa66, 0xa75), (0xa81, 0xaef),
  (0xaf9, 0xb57), (0xb5f, 0xb6f), (0xb71, 0xb71), (0xb82, 0xbef), (0xc00, 0xc6f), (0xc80, 0xc83),
  (0xc85, 0xd4e), (0xd54, 0xd57), (0xd5f, 0xd6f), (0xd7a, 0xdf3), (0xe01, 0xe32), (0xe34, 0xe3a),
  (0xe40, 0xe4e), (0xe50, 0xe59), (0xe81, 0xeb2), (0xeb4, 0xed9), (0xede, 0xf00), (0xf0b, 0xf0b),
  (0xf18, 0xf19), (0xf20, 0xf29), (0xf35, 0xf35), (0xf37, 0xf37), (0xf39, 0xf39), (0xf3e, 0xf42),
  (0xf44, 0xf4c), (0xf4e, 0xf51), (0xf53, 0xf56), (0xf58, 0xf5b), (0xf5d, 0xf68), (0xf6a, 0xf72),
  (0xf74, 0xf74), (0xf7a, 0xf80), (0xf82, 0xf84), (0xf86, 0xf92), (0xf94, 0xf9c), (0xf9e, 0xfa1),
  (0xfa3, 0xfa6), (0xfa8, 0xfab), (0xfad, 0xfb8), (0xfba, 0xfbc), (0xfc6, 0xfc6),
  (0x1000, 0x1049), (0x1050, 0x109d), (0x10d0, 0x10fa), (0x10fd, 0x10ff), (0x1200, 0x135f),
  (0x1380, 0x138f), (0x13a0, 0x13f5), (0x1401, 0x166c), (0x166f, 0x169a), (0x16a0, 0x16ea),
  (0x16f1, 0x1734), (0x1740, 0x17b3), (0x17b6, 0x17d3), (0x17d7, 0x17d7), (0x17dc, 0x17e9),
  (0x1810, 0x193b), (0x1946, 0x19d9), (0x1a00, 0x1a1b), (0x1a20, 0x1a99), (0x1aa7, 0x1aa7),
  (0x1ab0, 0x1abd), (0x1abf, 0x1b59), (0x1b6b, 0x1b73), (0x1b80, 0x1bf3), (0x1c00, 0x1c37),
  (0x1c40, 0x1c7d), (0x1cd0, 0x1cd2), (0x1cd4, 0x1d2b), (0x1d2f, 0x1d2f), (0x1d3b, 0x1d3b),
  (0x1d4e, 0x1d4e), (0x1d6b, 0x1d77), (0x1d79, 0x1d9a), (0x1dc0, 0x1e99), (0x1e9c, 0x1f70),
  (0x1f72, 0x1f72), (0x1f74, 0x1f74), (0x1f76, 0x1f76), (0x1f78, 0x1f78), (0x1f7a, 0x1f7a),
  (0x1f7c, 0x1f7c), (0x1fb0, 0x1fb1), (0x1fb6, 0x1fb6), (0x1fc6, 0x1fc6), (0x1fd0, 0x1fd2),
  (0x1fd6, 0x1fd7), (0x1fe0, 0x1fe2), (0x1fe4, 0x1fe7), (0x1ff6, 0x1ff6), (0x214e, 0x214e),
  (0x2184, 0x2184), (0x2c30, 0x2c7b), (0x2c81, 0x2ce4), (0x2cec, 0x2cf3), (0x2d00, 0x2d67),
  (0x2d7f, 0x2dff), (0x2e2f, 0x2e2f), (0x3005, 0x3007), (0x302a, 0x302d), (0x303c, 0x303c),
  (0x3041, 0x309a), (0x309d, 0x309e), (0x30a1, 0x30fa), (0x30fc, 0x30fe), (0x3105, 0x312f),
  (0x31a0, 0x31bf), (0x31f0, 0x31ff), (0x3400, 0x4dbf), (0x4e00, 0xa48c), (0xa4d0, 0xa4fd),
  (0xa500, 0xa60c), (0xa610, 0xa66f), (0xa674, 0xa67d), (0xa67f, 0xa69b), (0xa69e, 0xa6e5),
  (0xa6f0, 0xa6f1), (0xa717, 0xa71f), (0xa723, 0xa76f), (0xa771, 0xa788), (0xa78c, 0xa7d9),
  (0xa7f6, 0xa7f7), (0xa7fa, 0xa827), (0xa82c, 0xa82c), (0xa840, 0xa873), (0xa880, 0xa8c5),
  (0xa8d0, 0xa8f7), (0xa8fb, 0xa8fb), (0xa8fd, 0xa92d), (0xa930, 0xa953), (0xa980, 0xa9c0),
  (0xa9cf, 0xa9d9), (0xa9e0, 0xaa59), (0xaa60, 0xaa76), (0xaa7a, 0xaadd), (0xaae0, 0xaaef),
  (0xaaf2, 0xab5a), (0xab60, 0xab68), (0xabc0, 0xabea), (0xabec, 0xd7a3), (0xfa0e, 0xfa0f),
  (0xfa11, 0xfa11), (0xfa13, 0xfa14), (0xfa1f, 0xfa1f), (0xfa21, 0xfa21), (0xfa23, 0xfa24),
  (0xfa27, 0xfa29), (0xfb1e, 0xfb1e), (0xfe20, 0xfe2f), (0xfe73, 0xfe73), (0x10000, 0x100fa),
  (0x101fd, 0x102e0), (0x10300, 0x1031f), (0x1032d, 0x10340), (0x10342, 0x10349),
  (0x10350, 0x1039d), (0x103a0, 0x103cf), (0x10428, 0x10563), (0x10597, 0x10780),
  (0x10800, 0x10855), (0x10860, 0x10876), (0x10880, 0x1089e), (0x108e0, 0x108f5),
  (0x10900, 0x10915), (0x10920, 0x10939), (0x10980, 0x109b7), (0x109be, 0x109bf),
  (0x10a00, 0x10a3f), (0x10a60, 0x10a7c), (0x10a80, 0x10a9c), (0x10ac0, 0x10ac7),
  (0x10ac9, 0x10ae6), (0x10b00, 0x10b35), (0x10b40, 0x10b55), (0x10b60, 0x10b72),
  (0x10b80, 0x10b91), (0x10c00, 0x10cf2), (0x10d00, 0x10d39), (0x10e80, 0x10eac),
  (0x10eb0, 0x10f1c), (0x10f27, 0x10f50), (0x10f70, 0x10f85), (0x10fb0, 0x10fc4),
  (0x10fe0, 0x11046), (0x11066, 0x110ba), (0x110c2, 0x1113f), (0x11144, 0x11173),
  (0x11176, 0x111c4), (0x111c9, 0x111cc), (0x111ce, 0x111da), (0x111dc, 0x111dc),
  (0x11200, 0x11237), (0x1123e, 0x112a8), (0x112b0, 0x1144a), (0x11450, 0x11459),
  (0x1145e, 0x114c5), (0x114c7, 0x115c0), (0x115d8, 0x11640), (0x11644, 0x11659),
  (0x11680, 0x116b8), (0x116c0, 0x11739), (0x11740, 0x1183a), (0x118c0, 0x118e9),
  (0x118ff, 0x11943), (0x11950, 0x119e1), (0x119e3, 0x11a3e), (0x11a47, 0x11a99),
  (0x11a9d, 0x11a9d), (0x11ab0, 0x11c40), (0x11c50, 0x11c59), (0x11c72, 0x11ef6),
  (0x11fb0, 0x11fb0), (0x12000, 0x12399), (0x12480, 0x12ff0), (0x13000, 0x16a69),
  (0x16a70, 0x16af4), (0x16b00, 0x16b36), (0x16b40, 0x16b43), (0x16b50, 0x16b59),
  (0x16b63, 0x16e7f), (0x16f00, 0x16fe1), (0x16fe3, 0x1bc99), (0x1bc9d, 0x1bc9e),
  (0x1cf00, 0x1cf46), (0x1da00, 0x1da36), (0x1da3b, 0x1da6c), (0x1da75, 0x1da75),
  (0x1da84, 0x1da84), (0x1da9b, 0x1e14e), (0x1e290, 0x1e2f9), (0x1e7e0, 0x1e8c4),
  (0x1e8d0, 0x1e959), (0x20000, 0x2ebe0), (0x30000, 0x3134a)]

/-- The letters, marks and digits of later versions, Jurchen and Seal among them, that may stand
anywhere, as ranges. -/
def laterLabelRanges : List (Nat × Nat) := [
  (0x88f, 0x88f), (0x897, 0x897), (0xc5c, 0xc5c), (0xcdc, 0xcdc), (0xcf3, 0xcf3), (0xece, 0xece),
  (0x1acf, 0x1add), (0x1ae0, 0x1aeb), (0x1c8a, 0x1c8a), (0xa7cd, 0xa7cd), (0xa7cf, 0xa7cf),
  (0xa7db, 0xa7db), (0x105c0, 0x105f3), (0x10940, 0x10959), (0x10d40, 0x10d4f),
  (0x10d69, 0x10d6d), (0x10d6f, 0x10d85), (0x10ec2, 0x10ec7), (0x10efa, 0x10eff),
  (0x1123f, 0x11241), (0x11380, 0x11389), (0x1138b, 0x1138b), (0x1138e, 0x1138e),
  (0x11390, 0x113b5), (0x113b7, 0x113c0), (0x113c2, 0x113c2), (0x113c5, 0x113c5),
  (0x113c7, 0x113ca), (0x113cc, 0x113d3), (0x113e1, 0x113e2), (0x116d0, 0x116e3),
  (0x11b60, 0x11b67), (0x11bc0, 0x11be0), (0x11bf0, 0x11bf9), (0x11db0, 0x11ddb),
  (0x11de0, 0x11de9), (0x11f00, 0x11f10), (0x11f12, 0x11f3a), (0x11f3e, 0x11f42),
  (0x11f50, 0x11f5a), (0x1342f, 0x1342f), (0x13440, 0x13455), (0x13460, 0x143fa),
  (0x16100, 0x16139), (0x16d40, 0x16d6c), (0x16d70, 0x16d79), (0x16ebb, 0x16ed3),
  (0x16ff2, 0x16ff3), (0x187f8, 0x187ff), (0x18cff, 0x18cff), (0x18d09, 0x18d1e),
  (0x18d80, 0x18df2), (0x18e00, 0x19191), (0x1b132, 0x1b132), (0x1b155, 0x1b155),
  (0x1df25, 0x1df2a), (0x1e08f, 0x1e08f), (0x1e4d0, 0x1e4f9), (0x1e5d0, 0x1e5fa),
  (0x1e6c0, 0x1e6de), (0x1e6e0, 0x1e6f5), (0x1e6fe, 0x1e6ff), (0x2b739, 0x2b73f),
  (0x2cea2, 0x2cead), (0x2ebf0, 0x2ee5d), (0x31350, 0x33479), (0x3d000, 0x3fc3f)]

/-- The letters and digits of a label that are read from the right, as ranges between which other
characters of a label stand; the marks among them are not told apart. -/
def rightRanges : List (Nat × Nat) := [
  (0x5d0, 0x64a), (0x66e, 0x6ef), (0x6fa, 0x8c9), (0xfe73, 0xfe73), (0x10800, 0x10d23),
  (0x10e80, 0x10ff6), (0x1e800, 0x1e959)]

/-- The characters of a label that have no direction, as ranges. -/
def neutralRanges : List (Nat × Nat) := [
  (0x2d, 0x2d), (0xb7, 0xb7), (0x2b9, 0x2ba), (0x2c6, 0x2cf), (0x2ec, 0x2ec), (0x375, 0x375),
  (0x200c, 0x200d), (0x2e2f, 0x2e2f), (0x30fb, 0x30fb), (0xa67f, 0xa67f), (0xa717, 0xa71f),
  (0xa788, 0xa788)]

/-- The characters of the Greek script, as ranges. -/
def greekRanges : List (Nat × Nat) := [
  (0x370, 0x373), (0x375, 0x377), (0x37a, 0x37d), (0x37f, 0x37f), (0x384, 0x384), (0x386, 0x386),
  (0x388, 0x38a), (0x38c, 0x38c), (0x38e, 0x3a1), (0x3a3, 0x3e1), (0x3f0, 0x3ff),
  (0x1d26, 0x1d2a), (0x1d5d, 0x1d61), (0x1d66, 0x1d6a), (0x1dbf, 0x1dbf), (0x1f00, 0x1f15),
  (0x1f18, 0x1f1d), (0x1f20, 0x1f45), (0x1f48, 0x1f4d), (0x1f50, 0x1f57), (0x1f59, 0x1f59),
  (0x1f5b, 0x1f5b), (0x1f5d, 0x1f5d), (0x1f5f, 0x1f7d), (0x1f80, 0x1fb4), (0x1fb6, 0x1fc4),
  (0x1fc6, 0x1fd3), (0x1fd6, 0x1fdb), (0x1fdd, 0x1fef), (0x1ff2, 0x1ff4), (0x1ff6, 0x1ffe),
  (0x2126, 0x2126), (0xab65, 0xab65), (0x10140, 0x1018e), (0x101a0, 0x101a0), (0x1d200, 0x1d245)]

/-- The characters of the Hebrew script, as ranges. -/
def hebrewRanges : List (Nat × Nat) := [
  (0x591, 0x5c7), (0x5d0, 0x5ea), (0x5ef, 0x5f4), (0xfb1d, 0xfb36), (0xfb38, 0xfb3c),
  (0xfb3e, 0xfb3e), (0xfb40, 0xfb41), (0xfb43, 0xfb44), (0xfb46, 0xfb4f)]

/-- The characters of Hiragana, Katakana and Han, as ranges. -/
def japaneseRanges : List (Nat × Nat) := [
  (0x2e80, 0x2e99), (0x2e9b, 0x2ef3), (0x2f00, 0x2fd5), (0x3005, 0x3005), (0x3007, 0x3007),
  (0x3021, 0x3029), (0x3038, 0x303b), (0x3041, 0x3096), (0x309d, 0x309f), (0x30a1, 0x30fa),
  (0x30fd, 0x30ff), (0x31f0, 0x31ff), (0x32d0, 0x32fe), (0x3300, 0x3357), (0x3400, 0x4dbf),
  (0x4e00, 0x9fff), (0xf900, 0xfa6d), (0xfa70, 0xfad9), (0xff66, 0xff6f), (0xff71, 0xff9d),
  (0x16fe2, 0x16fe3), (0x16ff0, 0x16ff6), (0x1aff0, 0x1aff3), (0x1aff5, 0x1affb),
  (0x1affd, 0x1affe), (0x1b000, 0x1b122), (0x1b132, 0x1b132), (0x1b150, 0x1b152),
  (0x1b155, 0x1b155), (0x1b164, 0x1b167), (0x1f200, 0x1f200), (0x20000, 0x2a6df),
  (0x2a700, 0x2b81d), (0x2b820, 0x2cead), (0x2ceb0, 0x2ebe0), (0x2ebf0, 0x2ee5d),
  (0x2f800, 0x2fa1d), (0x30000, 0x3134a), (0x31350, 0x33479)]

end InputReplay
