/-! The characters of Unicode 14 that are made of two others, and those that a text in normal form
holds none of. The syllables of Hangul are left to a rule. -/

namespace InputReplay

/-- For each second part, the first parts it follows and what each pair makes. -/
def compositions : List (Nat × List (Nat × Nat)) := [
  (0x300, [
      (0x41, 0xc0), (0x45, 0xc8), (0x49, 0xcc), (0x4e, 0x1f8), (0x4f, 0xd2), (0x55, 0xd9),
      (0x57, 0x1e80), (0x59, 0x1ef2), (0x61, 0xe0), (0x65, 0xe8), (0x69, 0xec), (0x6e, 0x1f9),
      (0x6f, 0xf2), (0x75, 0xf9), (0x77, 0x1e81), (0x79, 0x1ef3), (0xa8, 0x1fed), (0xc2, 0x1ea6),
      (0xca, 0x1ec0), (0xd4, 0x1ed2), (0xdc, 0x1db), (0xe2, 0x1ea7), (0xea, 0x1ec1),
      (0xf4, 0x1ed3), (0xfc, 0x1dc), (0x102, 0x1eb0), (0x103, 0x1eb1), (0x112, 0x1e14),
      (0x113, 0x1e15), (0x14c, 0x1e50), (0x14d, 0x1e51), (0x1a0, 0x1edc), (0x1a1, 0x1edd),
      (0x1af, 0x1eea), (0x1b0, 0x1eeb), (0x391, 0x1fba), (0x395, 0x1fc8), (0x397, 0x1fca),
      (0x399, 0x1fda), (0x39f, 0x1ff8), (0x3a5, 0x1fea), (0x3a9, 0x1ffa), (0x3b1, 0x1f70),
      (0x3b5, 0x1f72), (0x3b7, 0x1f74), (0x3b9, 0x1f76), (0x3bf, 0x1f78), (0x3c5, 0x1f7a),
      (0x3c9, 0x1f7c), (0x3ca, 0x1fd2), (0x3cb, 0x1fe2), (0x415, 0x400), (0x418, 0x40d),
      (0x435, 0x450), (0x438, 0x45d), (0x1f00, 0x1f02), (0x1f01, 0x1f03), (0x1f08, 0x1f0a),
      (0x1f09, 0x1f0b), (0x1f10, 0x1f12), (0x1f11, 0x1f13), (0x1f18, 0x1f1a), (0x1f19, 0x1f1b),
      (0x1f20, 0x1f22), (0x1f21, 0x1f23), (0x1f28, 0x1f2a), (0x1f29, 0x1f2b), (0x1f30, 0x1f32),
      (0x1f31, 0x1f33), (0x1f38, 0x1f3a), (0x1f39, 0x1f3b), (0x1f40, 0x1f42), (0x1f41, 0x1f43),
      (0x1f48, 0x1f4a), (0x1f49, 0x1f4b), (0x1f50, 0x1f52), (0x1f51, 0x1f53), (0x1f59, 0x1f5b),
      (0x1f60, 0x1f62), (0x1f61, 0x1f63), (0x1f68, 0x1f6a), (0x1f69, 0x1f6b), (0x1fbf, 0x1fcd),
      (0x1ffe, 0x1fdd)]),
  (0x301, [
      (0x41, 0xc1), (0x43, 0x106), (0x45, 0xc9), (0x47, 0x1f4), (0x49, 0xcd), (0x4b, 0x1e30),
      (0x4c, 0x139), (0x4d, 0x1e3e), (0x4e, 0x143), (0x4f, 0xd3), (0x50, 0x1e54), (0x52, 0x154),
      (0x53, 0x15a), (0x55, 0xda), (0x57, 0x1e82), (0x59, 0xdd), (0x5a, 0x179), (0x61, 0xe1),
      (0x63, 0x107), (0x65, 0xe9), (0x67, 0x1f5), (0x69, 0xed), (0x6b, 0x1e31), (0x6c, 0x13a),
      (0x6d, 0x1e3f), (0x6e, 0x144), (0x6f, 0xf3), (0x70, 0x1e55), (0x72, 0x155), (0x73, 0x15b),
      (0x75, 0xfa), (0x77, 0x1e83), (0x79, 0xfd), (0x7a, 0x17a), (0xa8, 0x385), (0xc2, 0x1ea4),
      (0xc5, 0x1fa), (0xc6, 0x1fc), (0xc7, 0x1e08), (0xca, 0x1ebe), (0xcf, 0x1e2e),
      (0xd4, 0x1ed0), (0xd5, 0x1e4c), (0xd8, 0x1fe), (0xdc, 0x1d7), (0xe2, 0x1ea5),
      (0xe5, 0x1fb), (0xe6, 0x1fd), (0xe7, 0x1e09), (0xea, 0x1ebf), (0xef, 0x1e2f),
      (0xf4, 0x1ed1), (0xf5, 0x1e4d), (0xf8, 0x1ff), (0xfc, 0x1d8), (0x102, 0x1eae),
      (0x103, 0x1eaf), (0x112, 0x1e16), (0x113, 0x1e17), (0x14c, 0x1e52), (0x14d, 0x1e53),
      (0x168, 0x1e78), (0x169, 0x1e79), (0x1a0, 0x1eda), (0x1a1, 0x1edb), (0x1af, 0x1ee8),
      (0x1b0, 0x1ee9), (0x391, 0x386), (0x395, 0x388), (0x397, 0x389), (0x399, 0x38a),
      (0x39f, 0x38c), (0x3a5, 0x38e), (0x3a9, 0x38f), (0x3b1, 0x3ac), (0x3b5, 0x3ad),
      (0x3b7, 0x3ae), (0x3b9, 0x3af), (0x3bf, 0x3cc), (0x3c5, 0x3cd), (0x3c9, 0x3ce),
      (0x3ca, 0x390), (0x3cb, 0x3b0), (0x3d2, 0x3d3), (0x413, 0x403), (0x41a, 0x40c),
      (0x433, 0x453), (0x43a, 0x45c), (0x1f00, 0x1f04), (0x1f01, 0x1f05), (0x1f08, 0x1f0c),
      (0x1f09, 0x1f0d), (0x1f10, 0x1f14), (0x1f11, 0x1f15), (0x1f18, 0x1f1c), (0x1f19, 0x1f1d),
      (0x1f20, 0x1f24), (0x1f21, 0x1f25), (0x1f28, 0x1f2c), (0x1f29, 0x1f2d), (0x1f30, 0x1f34),
      (0x1f31, 0x1f35), (0x1f38, 0x1f3c), (0x1f39, 0x1f3d), (0x1f40, 0x1f44), (0x1f41, 0x1f45),
      (0x1f48, 0x1f4c), (0x1f49, 0x1f4d), (0x1f50, 0x1f54), (0x1f51, 0x1f55), (0x1f59, 0x1f5d),
      (0x1f60, 0x1f64), (0x1f61, 0x1f65), (0x1f68, 0x1f6c), (0x1f69, 0x1f6d), (0x1fbf, 0x1fce),
      (0x1ffe, 0x1fde)]),
  (0x302, [
      (0x41, 0xc2), (0x43, 0x108), (0x45, 0xca), (0x47, 0x11c), (0x48, 0x124), (0x49, 0xce),
      (0x4a, 0x134), (0x4f, 0xd4), (0x53, 0x15c), (0x55, 0xdb), (0x57, 0x174), (0x59, 0x176),
      (0x5a, 0x1e90), (0x61, 0xe2), (0x63, 0x109), (0x65, 0xea), (0x67, 0x11d), (0x68, 0x125),
      (0x69, 0xee), (0x6a, 0x135), (0x6f, 0xf4), (0x73, 0x15d), (0x75, 0xfb), (0x77, 0x175),
      (0x79, 0x177), (0x7a, 0x1e91), (0x1ea0, 0x1eac), (0x1ea1, 0x1ead), (0x1eb8, 0x1ec6),
      (0x1eb9, 0x1ec7), (0x1ecc, 0x1ed8), (0x1ecd, 0x1ed9)]),
  (0x303, [
      (0x41, 0xc3), (0x45, 0x1ebc), (0x49, 0x128), (0x4e, 0xd1), (0x4f, 0xd5), (0x55, 0x168),
      (0x56, 0x1e7c), (0x59, 0x1ef8), (0x61, 0xe3), (0x65, 0x1ebd), (0x69, 0x129), (0x6e, 0xf1),
      (0x6f, 0xf5), (0x75, 0x169), (0x76, 0x1e7d), (0x79, 0x1ef9), (0xc2, 0x1eaa),
      (0xca, 0x1ec4), (0xd4, 0x1ed6), (0xe2, 0x1eab), (0xea, 0x1ec5), (0xf4, 0x1ed7),
      (0x102, 0x1eb4), (0x103, 0x1eb5), (0x1a0, 0x1ee0), (0x1a1, 0x1ee1), (0x1af, 0x1eee),
      (0x1b0, 0x1eef)]),
  (0x304, [
      (0x41, 0x100), (0x45, 0x112), (0x47, 0x1e20), (0x49, 0x12a), (0x4f, 0x14c), (0x55, 0x16a),
      (0x59, 0x232), (0x61, 0x101), (0x65, 0x113), (0x67, 0x1e21), (0x69, 0x12b), (0x6f, 0x14d),
      (0x75, 0x16b), (0x79, 0x233), (0xc4, 0x1de), (0xc6, 0x1e2), (0xd5, 0x22c), (0xd6, 0x22a),
      (0xdc, 0x1d5), (0xe4, 0x1df), (0xe6, 0x1e3), (0xf5, 0x22d), (0xf6, 0x22b), (0xfc, 0x1d6),
      (0x1ea, 0x1ec), (0x1eb, 0x1ed), (0x226, 0x1e0), (0x227, 0x1e1), (0x22e, 0x230),
      (0x22f, 0x231), (0x391, 0x1fb9), (0x399, 0x1fd9), (0x3a5, 0x1fe9), (0x3b1, 0x1fb1),
      (0x3b9, 0x1fd1), (0x3c5, 0x1fe1), (0x418, 0x4e2), (0x423, 0x4ee), (0x438, 0x4e3),
      (0x443, 0x4ef), (0x1e36, 0x1e38), (0x1e37, 0x1e39), (0x1e5a, 0x1e5c), (0x1e5b, 0x1e5d)]),
  (0x306, [
      (0x41, 0x102), (0x45, 0x114), (0x47, 0x11e), (0x49, 0x12c), (0x4f, 0x14e), (0x55, 0x16c),
      (0x61, 0x103), (0x65, 0x115), (0x67, 0x11f), (0x69, 0x12d), (0x6f, 0x14f), (0x75, 0x16d),
      (0x228, 0x1e1c), (0x229, 0x1e1d), (0x391, 0x1fb8), (0x399, 0x1fd8), (0x3a5, 0x1fe8),
      (0x3b1, 0x1fb0), (0x3b9, 0x1fd0), (0x3c5, 0x1fe0), (0x410, 0x4d0), (0x415, 0x4d6),
      (0x416, 0x4c1), (0x418, 0x419), (0x423, 0x40e), (0x430, 0x4d1), (0x435, 0x4d7),
      (0x436, 0x4c2), (0x438, 0x439), (0x443, 0x45e), (0x1ea0, 0x1eb6), (0x1ea1, 0x1eb7)]),
  (0x307, [
      (0x41, 0x226), (0x42, 0x1e02), (0x43, 0x10a), (0x44, 0x1e0a), (0x45, 0x116),
      (0x46, 0x1e1e), (0x47, 0x120), (0x48, 0x1e22), (0x49, 0x130), (0x4d, 0x1e40),
      (0x4e, 0x1e44), (0x4f, 0x22e), (0x50, 0x1e56), (0x52, 0x1e58), (0x53, 0x1e60),
      (0x54, 0x1e6a), (0x57, 0x1e86), (0x58, 0x1e8a), (0x59, 0x1e8e), (0x5a, 0x17b),
      (0x61, 0x227), (0x62, 0x1e03), (0x63, 0x10b), (0x64, 0x1e0b), (0x65, 0x117),
      (0x66, 0x1e1f), (0x67, 0x121), (0x68, 0x1e23), (0x6d, 0x1e41), (0x6e, 0x1e45),
      (0x6f, 0x22f), (0x70, 0x1e57), (0x72, 0x1e59), (0x73, 0x1e61), (0x74, 0x1e6b),
      (0x77, 0x1e87), (0x78, 0x1e8b), (0x79, 0x1e8f), (0x7a, 0x17c), (0x15a, 0x1e64),
      (0x15b, 0x1e65), (0x160, 0x1e66), (0x161, 0x1e67), (0x17f, 0x1e9b), (0x1e62, 0x1e68),
      (0x1e63, 0x1e69)]),
  (0x308, [
      (0x41, 0xc4), (0x45, 0xcb), (0x48, 0x1e26), (0x49, 0xcf), (0x4f, 0xd6), (0x55, 0xdc),
      (0x57, 0x1e84), (0x58, 0x1e8c), (0x59, 0x178), (0x61, 0xe4), (0x65, 0xeb), (0x68, 0x1e27),
      (0x69, 0xef), (0x6f, 0xf6), (0x74, 0x1e97), (0x75, 0xfc), (0x77, 0x1e85), (0x78, 0x1e8d),
      (0x79, 0xff), (0xd5, 0x1e4e), (0xf5, 0x1e4f), (0x16a, 0x1e7a), (0x16b, 0x1e7b),
      (0x399, 0x3aa), (0x3a5, 0x3ab), (0x3b9, 0x3ca), (0x3c5, 0x3cb), (0x3d2, 0x3d4),
      (0x406, 0x407), (0x410, 0x4d2), (0x415, 0x401), (0x416, 0x4dc), (0x417, 0x4de),
      (0x418, 0x4e4), (0x41e, 0x4e6), (0x423, 0x4f0), (0x427, 0x4f4), (0x42b, 0x4f8),
      (0x42d, 0x4ec), (0x430, 0x4d3), (0x435, 0x451), (0x436, 0x4dd), (0x437, 0x4df),
      (0x438, 0x4e5), (0x43e, 0x4e7), (0x443, 0x4f1), (0x447, 0x4f5), (0x44b, 0x4f9),
      (0x44d, 0x4ed), (0x456, 0x457), (0x4d8, 0x4da), (0x4d9, 0x4db), (0x4e8, 0x4ea),
      (0x4e9, 0x4eb)]),
  (0x309, [
      (0x41, 0x1ea2), (0x45, 0x1eba), (0x49, 0x1ec8), (0x4f, 0x1ece), (0x55, 0x1ee6),
      (0x59, 0x1ef6), (0x61, 0x1ea3), (0x65, 0x1ebb), (0x69, 0x1ec9), (0x6f, 0x1ecf),
      (0x75, 0x1ee7), (0x79, 0x1ef7), (0xc2, 0x1ea8), (0xca, 0x1ec2), (0xd4, 0x1ed4),
      (0xe2, 0x1ea9), (0xea, 0x1ec3), (0xf4, 0x1ed5), (0x102, 0x1eb2), (0x103, 0x1eb3),
      (0x1a0, 0x1ede), (0x1a1, 0x1edf), (0x1af, 0x1eec), (0x1b0, 0x1eed)]),
  (0x30a, [
      (0x41, 0xc5), (0x55, 0x16e), (0x61, 0xe5), (0x75, 0x16f), (0x77, 0x1e98), (0x79, 0x1e99)]),
  (0x30b, [
      (0x4f, 0x150), (0x55, 0x170), (0x6f, 0x151), (0x75, 0x171), (0x423, 0x4f2), (0x443, 0x4f3)]),
  (0x30c, [
      (0x41, 0x1cd), (0x43, 0x10c), (0x44, 0x10e), (0x45, 0x11a), (0x47, 0x1e6), (0x48, 0x21e),
      (0x49, 0x1cf), (0x4b, 0x1e8), (0x4c, 0x13d), (0x4e, 0x147), (0x4f, 0x1d1), (0x52, 0x158),
      (0x53, 0x160), (0x54, 0x164), (0x55, 0x1d3), (0x5a, 0x17d), (0x61, 0x1ce), (0x63, 0x10d),
      (0x64, 0x10f), (0x65, 0x11b), (0x67, 0x1e7), (0x68, 0x21f), (0x69, 0x1d0), (0x6a, 0x1f0),
      (0x6b, 0x1e9), (0x6c, 0x13e), (0x6e, 0x148), (0x6f, 0x1d2), (0x72, 0x159), (0x73, 0x161),
      (0x74, 0x165), (0x75, 0x1d4), (0x7a, 0x17e), (0xdc, 0x1d9), (0xfc, 0x1da), (0x1b7, 0x1ee),
      (0x292, 0x1ef)]),
  (0x30f, [
      (0x41, 0x200), (0x45, 0x204), (0x49, 0x208), (0x4f, 0x20c), (0x52, 0x210), (0x55, 0x214),
      (0x61, 0x201), (0x65, 0x205), (0x69, 0x209), (0x6f, 0x20d), (0x72, 0x211), (0x75, 0x215),
      (0x474, 0x476), (0x475, 0x477)]),
  (0x311, [
      (0x41, 0x202), (0x45, 0x206), (0x49, 0x20a), (0x4f, 0x20e), (0x52, 0x212), (0x55, 0x216),
      (0x61, 0x203), (0x65, 0x207), (0x69, 0x20b), (0x6f, 0x20f), (0x72, 0x213), (0x75, 0x217)]),
  (0x313, [
      (0x391, 0x1f08), (0x395, 0x1f18), (0x397, 0x1f28), (0x399, 0x1f38), (0x39f, 0x1f48),
      (0x3a9, 0x1f68), (0x3b1, 0x1f00), (0x3b5, 0x1f10), (0x3b7, 0x1f20), (0x3b9, 0x1f30),
      (0x3bf, 0x1f40), (0x3c1, 0x1fe4), (0x3c5, 0x1f50), (0x3c9, 0x1f60)]),
  (0x314, [
      (0x391, 0x1f09), (0x395, 0x1f19), (0x397, 0x1f29), (0x399, 0x1f39), (0x39f, 0x1f49),
      (0x3a1, 0x1fec), (0x3a5, 0x1f59), (0x3a9, 0x1f69), (0x3b1, 0x1f01), (0x3b5, 0x1f11),
      (0x3b7, 0x1f21), (0x3b9, 0x1f31), (0x3bf, 0x1f41), (0x3c1, 0x1fe5), (0x3c5, 0x1f51),
      (0x3c9, 0x1f61)]),
  (0x31b, [
      (0x4f, 0x1a0), (0x55, 0x1af), (0x6f, 0x1a1), (0x75, 0x1b0)]),
  (0x323, [
      (0x41, 0x1ea0), (0x42, 0x1e04), (0x44, 0x1e0c), (0x45, 0x1eb8), (0x48, 0x1e24),
      (0x49, 0x1eca), (0x4b, 0x1e32), (0x4c, 0x1e36), (0x4d, 0x1e42), (0x4e, 0x1e46),
      (0x4f, 0x1ecc), (0x52, 0x1e5a), (0x53, 0x1e62), (0x54, 0x1e6c), (0x55, 0x1ee4),
      (0x56, 0x1e7e), (0x57, 0x1e88), (0x59, 0x1ef4), (0x5a, 0x1e92), (0x61, 0x1ea1),
      (0x62, 0x1e05), (0x64, 0x1e0d), (0x65, 0x1eb9), (0x68, 0x1e25), (0x69, 0x1ecb),
      (0x6b, 0x1e33), (0x6c, 0x1e37), (0x6d, 0x1e43), (0x6e, 0x1e47), (0x6f, 0x1ecd),
      (0x72, 0x1e5b), (0x73, 0x1e63), (0x74, 0x1e6d), (0x75, 0x1ee5), (0x76, 0x1e7f),
      (0x77, 0x1e89), (0x79, 0x1ef5), (0x7a, 0x1e93), (0x1a0, 0x1ee2), (0x1a1, 0x1ee3),
      (0x1af, 0x1ef0), (0x1b0, 0x1ef1)]),
  (0x324, [(0x55, 0x1e72), (0x75, 0x1e73)]),
  (0x325, [(0x41, 0x1e00), (0x61, 0x1e01)]),
  (0x326, [
      (0x53, 0x218), (0x54, 0x21a), (0x73, 0x219), (0x74, 0x21b)]),
  (0x327, [
      (0x43, 0xc7), (0x44, 0x1e10), (0x45, 0x228), (0x47, 0x122), (0x48, 0x1e28), (0x4b, 0x136),
      (0x4c, 0x13b), (0x4e, 0x145), (0x52, 0x156), (0x53, 0x15e), (0x54, 0x162), (0x63, 0xe7),
      (0x64, 0x1e11), (0x65, 0x229), (0x67, 0x123), (0x68, 0x1e29), (0x6b, 0x137), (0x6c, 0x13c),
      (0x6e, 0x146), (0x72, 0x157), (0x73, 0x15f), (0x74, 0x163)]),
  (0x328, [
      (0x41, 0x104), (0x45, 0x118), (0x49, 0x12e), (0x4f, 0x1ea), (0x55, 0x172), (0x61, 0x105),
      (0x65, 0x119), (0x69, 0x12f), (0x6f, 0x1eb), (0x75, 0x173)]),
  (0x32d, [
      (0x44, 0x1e12), (0x45, 0x1e18), (0x4c, 0x1e3c), (0x4e, 0x1e4a), (0x54, 0x1e70),
      (0x55, 0x1e76), (0x64, 0x1e13), (0x65, 0x1e19), (0x6c, 0x1e3d), (0x6e, 0x1e4b),
      (0x74, 0x1e71), (0x75, 0x1e77)]),
  (0x32e, [(0x48, 0x1e2a), (0x68, 0x1e2b)]),
  (0x330, [
      (0x45, 0x1e1a), (0x49, 0x1e2c), (0x55, 0x1e74), (0x65, 0x1e1b), (0x69, 0x1e2d),
      (0x75, 0x1e75)]),
  (0x331, [
      (0x42, 0x1e06), (0x44, 0x1e0e), (0x4b, 0x1e34), (0x4c, 0x1e3a), (0x4e, 0x1e48),
      (0x52, 0x1e5e), (0x54, 0x1e6e), (0x5a, 0x1e94), (0x62, 0x1e07), (0x64, 0x1e0f),
      (0x68, 0x1e96), (0x6b, 0x1e35), (0x6c, 0x1e3b), (0x6e, 0x1e49), (0x72, 0x1e5f),
      (0x74, 0x1e6f), (0x7a, 0x1e95)]),
  (0x338, [
      (0x3c, 0x226e), (0x3d, 0x2260), (0x3e, 0x226f), (0x2190, 0x219a), (0x2192, 0x219b),
      (0x2194, 0x21ae), (0x21d0, 0x21cd), (0x21d2, 0x21cf), (0x21d4, 0x21ce), (0x2203, 0x2204),
      (0x2208, 0x2209), (0x220b, 0x220c), (0x2223, 0x2224), (0x2225, 0x2226), (0x223c, 0x2241),
      (0x2243, 0x2244), (0x2245, 0x2247), (0x2248, 0x2249), (0x224d, 0x226d), (0x2261, 0x2262),
      (0x2264, 0x2270), (0x2265, 0x2271), (0x2272, 0x2274), (0x2273, 0x2275), (0x2276, 0x2278),
      (0x2277, 0x2279), (0x227a, 0x2280), (0x227b, 0x2281), (0x227c, 0x22e0), (0x227d, 0x22e1),
      (0x2282, 0x2284), (0x2283, 0x2285), (0x2286, 0x2288), (0x2287, 0x2289), (0x2291, 0x22e2),
      (0x2292, 0x22e3), (0x22a2, 0x22ac), (0x22a8, 0x22ad), (0x22a9, 0x22ae), (0x22ab, 0x22af),
      (0x22b2, 0x22ea), (0x22b3, 0x22eb), (0x22b4, 0x22ec), (0x22b5, 0x22ed)]),
  (0x342, [
      (0xa8, 0x1fc1), (0x3b1, 0x1fb6), (0x3b7, 0x1fc6), (0x3b9, 0x1fd6), (0x3c5, 0x1fe6),
      (0x3c9, 0x1ff6), (0x3ca, 0x1fd7), (0x3cb, 0x1fe7), (0x1f00, 0x1f06), (0x1f01, 0x1f07),
      (0x1f08, 0x1f0e), (0x1f09, 0x1f0f), (0x1f20, 0x1f26), (0x1f21, 0x1f27), (0x1f28, 0x1f2e),
      (0x1f29, 0x1f2f), (0x1f30, 0x1f36), (0x1f31, 0x1f37), (0x1f38, 0x1f3e), (0x1f39, 0x1f3f),
      (0x1f50, 0x1f56), (0x1f51, 0x1f57), (0x1f59, 0x1f5f), (0x1f60, 0x1f66), (0x1f61, 0x1f67),
      (0x1f68, 0x1f6e), (0x1f69, 0x1f6f), (0x1fbf, 0x1fcf), (0x1ffe, 0x1fdf)]),
  (0x345, [
      (0x391, 0x1fbc), (0x397, 0x1fcc), (0x3a9, 0x1ffc), (0x3ac, 0x1fb4), (0x3ae, 0x1fc4),
      (0x3b1, 0x1fb3), (0x3b7, 0x1fc3), (0x3c9, 0x1ff3), (0x3ce, 0x1ff4), (0x1f00, 0x1f80),
      (0x1f01, 0x1f81), (0x1f02, 0x1f82), (0x1f03, 0x1f83), (0x1f04, 0x1f84), (0x1f05, 0x1f85),
      (0x1f06, 0x1f86), (0x1f07, 0x1f87), (0x1f08, 0x1f88), (0x1f09, 0x1f89), (0x1f0a, 0x1f8a),
      (0x1f0b, 0x1f8b), (0x1f0c, 0x1f8c), (0x1f0d, 0x1f8d), (0x1f0e, 0x1f8e), (0x1f0f, 0x1f8f),
      (0x1f20, 0x1f90), (0x1f21, 0x1f91), (0x1f22, 0x1f92), (0x1f23, 0x1f93), (0x1f24, 0x1f94),
      (0x1f25, 0x1f95), (0x1f26, 0x1f96), (0x1f27, 0x1f97), (0x1f28, 0x1f98), (0x1f29, 0x1f99),
      (0x1f2a, 0x1f9a), (0x1f2b, 0x1f9b), (0x1f2c, 0x1f9c), (0x1f2d, 0x1f9d), (0x1f2e, 0x1f9e),
      (0x1f2f, 0x1f9f), (0x1f60, 0x1fa0), (0x1f61, 0x1fa1), (0x1f62, 0x1fa2), (0x1f63, 0x1fa3),
      (0x1f64, 0x1fa4), (0x1f65, 0x1fa5), (0x1f66, 0x1fa6), (0x1f67, 0x1fa7), (0x1f68, 0x1fa8),
      (0x1f69, 0x1fa9), (0x1f6a, 0x1faa), (0x1f6b, 0x1fab), (0x1f6c, 0x1fac), (0x1f6d, 0x1fad),
      (0x1f6e, 0x1fae), (0x1f6f, 0x1faf), (0x1f70, 0x1fb2), (0x1f74, 0x1fc2), (0x1f7c, 0x1ff2),
      (0x1fb6, 0x1fb7), (0x1fc6, 0x1fc7), (0x1ff6, 0x1ff7)]),
  (0x653, [(0x627, 0x622)]),
  (0x654, [
      (0x627, 0x623), (0x648, 0x624), (0x64a, 0x626), (0x6c1, 0x6c2), (0x6d2, 0x6d3),
      (0x6d5, 0x6c0)]),
  (0x655, [(0x627, 0x625)]),
  (0x93c, [(0x928, 0x929), (0x930, 0x931), (0x933, 0x934)]),
  (0x9be, [(0x9c7, 0x9cb)]),
  (0x9d7, [(0x9c7, 0x9cc)]),
  (0xb3e, [(0xb47, 0xb4b)]),
  (0xb56, [(0xb47, 0xb48)]),
  (0xb57, [(0xb47, 0xb4c)]),
  (0xbbe, [(0xbc6, 0xbca), (0xbc7, 0xbcb)]),
  (0xbd7, [(0xb92, 0xb94), (0xbc6, 0xbcc)]),
  (0xc56, [(0xc46, 0xc48)]),
  (0xcc2, [(0xcc6, 0xcca)]),
  (0xcd5, [(0xcbf, 0xcc0), (0xcc6, 0xcc7), (0xcca, 0xccb)]),
  (0xcd6, [(0xcc6, 0xcc8)]),
  (0xd3e, [(0xd46, 0xd4a), (0xd47, 0xd4b)]),
  (0xd57, [(0xd46, 0xd4c)]),
  (0xdca, [(0xdd9, 0xdda), (0xddc, 0xddd)]),
  (0xdcf, [(0xdd9, 0xddc)]),
  (0xddf, [(0xdd9, 0xdde)]),
  (0x102e, [(0x1025, 0x1026)]),
  (0x1b35, [
      (0x1b05, 0x1b06), (0x1b07, 0x1b08), (0x1b09, 0x1b0a), (0x1b0b, 0x1b0c), (0x1b0d, 0x1b0e),
      (0x1b11, 0x1b12), (0x1b3a, 0x1b3b), (0x1b3c, 0x1b3d), (0x1b3e, 0x1b40), (0x1b3f, 0x1b41),
      (0x1b42, 0x1b43)]),
  (0x3099, [
      (0x3046, 0x3094), (0x304b, 0x304c), (0x304d, 0x304e), (0x304f, 0x3050), (0x3051, 0x3052),
      (0x3053, 0x3054), (0x3055, 0x3056), (0x3057, 0x3058), (0x3059, 0x305a), (0x305b, 0x305c),
      (0x305d, 0x305e), (0x305f, 0x3060), (0x3061, 0x3062), (0x3064, 0x3065), (0x3066, 0x3067),
      (0x3068, 0x3069), (0x306f, 0x3070), (0x3072, 0x3073), (0x3075, 0x3076), (0x3078, 0x3079),
      (0x307b, 0x307c), (0x309d, 0x309e), (0x30a6, 0x30f4), (0x30ab, 0x30ac), (0x30ad, 0x30ae),
      (0x30af, 0x30b0), (0x30b1, 0x30b2), (0x30b3, 0x30b4), (0x30b5, 0x30b6), (0x30b7, 0x30b8),
      (0x30b9, 0x30ba), (0x30bb, 0x30bc), (0x30bd, 0x30be), (0x30bf, 0x30c0), (0x30c1, 0x30c2),
      (0x30c4, 0x30c5), (0x30c6, 0x30c7), (0x30c8, 0x30c9), (0x30cf, 0x30d0), (0x30d2, 0x30d3),
      (0x30d5, 0x30d6), (0x30d8, 0x30d9), (0x30db, 0x30dc), (0x30ef, 0x30f7), (0x30f0, 0x30f8),
      (0x30f1, 0x30f9), (0x30f2, 0x30fa), (0x30fd, 0x30fe)]),
  (0x309a, [
      (0x306f, 0x3071), (0x3072, 0x3074), (0x3075, 0x3077), (0x3078, 0x307a), (0x307b, 0x307d),
      (0x30cf, 0x30d1), (0x30d2, 0x30d4), (0x30d5, 0x30d7), (0x30d8, 0x30da), (0x30db, 0x30dd)]),
  (0x110ba, [(0x11099, 0x1109a), (0x1109b, 0x1109c), (0x110a5, 0x110ab)]),
  (0x11127, [(0x11131, 0x1112e), (0x11132, 0x1112f)]),
  (0x1133e, [(0x11347, 0x1134b)]),
  (0x11357, [(0x11347, 0x1134c)]),
  (0x114b0, [(0x114b9, 0x114bc)]),
  (0x114ba, [(0x114b9, 0x114bb)]),
  (0x114bd, [(0x114b9, 0x114be)]),
  (0x115af, [(0x115b8, 0x115ba), (0x115b9, 0x115bb)]),
  (0x11930, [(0x11935, 0x11938)])]

/-- The characters that always give way to others, as ranges. -/
def givingWayRanges : List (Nat × Nat) := [
  (0x340, 0x341), (0x343, 0x344), (0x374, 0x374), (0x37e, 0x37e), (0x387, 0x387), (0x958, 0x95f),
  (0x9dc, 0x9dd), (0x9df, 0x9df), (0xa33, 0xa33), (0xa36, 0xa36), (0xa59, 0xa5b), (0xa5e, 0xa5e),
  (0xb5c, 0xb5d), (0xf43, 0xf43), (0xf4d, 0xf4d), (0xf52, 0xf52), (0xf57, 0xf57), (0xf5c, 0xf5c),
  (0xf69, 0xf69), (0xf73, 0xf73), (0xf75, 0xf76), (0xf78, 0xf78), (0xf81, 0xf81), (0xf93, 0xf93),
  (0xf9d, 0xf9d), (0xfa2, 0xfa2), (0xfa7, 0xfa7), (0xfac, 0xfac), (0xfb9, 0xfb9),
  (0x1f71, 0x1f71), (0x1f73, 0x1f73), (0x1f75, 0x1f75), (0x1f77, 0x1f77), (0x1f79, 0x1f79),
  (0x1f7b, 0x1f7b), (0x1f7d, 0x1f7d), (0x1fbb, 0x1fbb), (0x1fbe, 0x1fbe), (0x1fc9, 0x1fc9),
  (0x1fcb, 0x1fcb), (0x1fd3, 0x1fd3), (0x1fdb, 0x1fdb), (0x1fe3, 0x1fe3), (0x1feb, 0x1feb),
  (0x1fee, 0x1fef), (0x1ff9, 0x1ff9), (0x1ffb, 0x1ffb), (0x1ffd, 0x1ffd), (0x2000, 0x2001),
  (0x2126, 0x2126), (0x212a, 0x212b), (0x2329, 0x232a), (0x2adc, 0x2adc), (0xf900, 0xfa0d),
  (0xfa10, 0xfa10), (0xfa12, 0xfa12), (0xfa15, 0xfa1e), (0xfa20, 0xfa20), (0xfa22, 0xfa22),
  (0xfa25, 0xfa26), (0xfa2a, 0xfa6d), (0xfa70, 0xfad9), (0xfb1d, 0xfb1d), (0xfb1f, 0xfb1f),
  (0xfb2a, 0xfb36), (0xfb38, 0xfb3c), (0xfb3e, 0xfb3e), (0xfb40, 0xfb41), (0xfb43, 0xfb44),
  (0xfb46, 0xfb4e), (0x1d15e, 0x1d164), (0x1d1bb, 0x1d1c0), (0x2f800, 0x2fa1d)]

end InputReplay
