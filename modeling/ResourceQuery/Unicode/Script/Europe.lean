import ResourceQuery.Unicode.Script.Basic

namespace ResourceQuery.Unicode

namespace Script

def armenian : Script := ⟨["armenian", "armn"], .spans
  [⟨0x531, 0x556, 1⟩, ⟨0x559, 0x58a, 1⟩, ⟨0x58d, 0x58f, 1⟩, ⟨0xfb13, 0xfb17, 1⟩]⟩

def braille : Script := ⟨["braille", "brai"], .spans [⟨0x2800, 0x28ff, 1⟩]⟩

def carian : Script := ⟨["carian", "cari"], .spans [⟨0x102a0, 0x102d0, 1⟩]⟩

def caucasianAlbanian : Script := ⟨["caucasianalbanian", "aghb"], .spans
  [⟨0x10530, 0x10563, 1⟩, ⟨0x1056f, 0x1056f, 1⟩]⟩

def common : Script := ⟨["common", "zyyy"], .spans
  [⟨0x0, 0x40, 1⟩, ⟨0x5b, 0x60, 1⟩, ⟨0x7b, 0xa9, 1⟩, ⟨0xab, 0xb9, 1⟩, ⟨0xbb, 0xbf, 1⟩,
   ⟨0xd7, 0xd7, 1⟩, ⟨0xf7, 0xf7, 1⟩, ⟨0x2b9, 0x2df, 1⟩, ⟨0x2e5, 0x2e9, 1⟩, ⟨0x2ec, 0x2ff, 1⟩,
   ⟨0x374, 0x374, 1⟩, ⟨0x37e, 0x37e, 1⟩, ⟨0x385, 0x387, 2⟩, ⟨0x605, 0x605, 1⟩, ⟨0x60c, 0x60c, 1⟩,
   ⟨0x61b, 0x61b, 1⟩, ⟨0x61f, 0x61f, 1⟩, ⟨0x640, 0x640, 1⟩, ⟨0x6dd, 0x6dd, 1⟩, ⟨0x8e2, 0x8e2, 1⟩,
   ⟨0x964, 0x965, 1⟩, ⟨0xe3f, 0xe3f, 1⟩, ⟨0xfd5, 0xfd8, 1⟩, ⟨0x10fb, 0x10fb, 1⟩,
   ⟨0x16eb, 0x16ed, 1⟩, ⟨0x1735, 0x1736, 1⟩, ⟨0x1802, 0x1803, 1⟩, ⟨0x1805, 0x1805, 1⟩,
   ⟨0x1cd3, 0x1cd3, 1⟩, ⟨0x1ce1, 0x1ce1, 1⟩, ⟨0x1ce9, 0x1cec, 1⟩, ⟨0x1cee, 0x1cf3, 1⟩,
   ⟨0x1cf5, 0x1cf7, 1⟩, ⟨0x1cfa, 0x1cfa, 1⟩, ⟨0x2000, 0x200b, 1⟩, ⟨0x200e, 0x2064, 1⟩,
   ⟨0x2066, 0x2070, 1⟩, ⟨0x2074, 0x208e, 2⟩, ⟨0x2075, 0x207d, 2⟩, ⟨0x2081, 0x208d, 2⟩,
   ⟨0x20a0, 0x20c0, 1⟩, ⟨0x2100, 0x2125, 1⟩, ⟨0x2127, 0x2129, 1⟩, ⟨0x212c, 0x2131, 1⟩,
   ⟨0x2133, 0x214d, 1⟩, ⟨0x214f, 0x215f, 1⟩, ⟨0x2189, 0x218b, 1⟩, ⟨0x2190, 0x2429, 1⟩,
   ⟨0x2440, 0x244a, 1⟩, ⟨0x2460, 0x27ff, 1⟩, ⟨0x2900, 0x2b73, 1⟩, ⟨0x2b76, 0x2b95, 1⟩,
   ⟨0x2b97, 0x2bff, 1⟩, ⟨0x2e00, 0x2e5d, 1⟩, ⟨0x2ff0, 0x3020, 2⟩, ⟨0x2ff1, 0x3003, 2⟩,
   ⟨0x3009, 0x301f, 2⟩, ⟨0x3030, 0x3037, 1⟩, ⟨0x303c, 0x303f, 1⟩, ⟨0x309b, 0x309c, 1⟩,
   ⟨0x30a0, 0x30a0, 1⟩, ⟨0x30fb, 0x30fc, 1⟩, ⟨0x3190, 0x319f, 1⟩, ⟨0x31c0, 0x31e5, 1⟩,
   ⟨0x31ef, 0x31ef, 1⟩, ⟨0x3220, 0x325f, 1⟩, ⟨0x327f, 0x32cf, 1⟩, ⟨0x32ff, 0x32ff, 1⟩,
   ⟨0x3358, 0x33ff, 1⟩, ⟨0x4dc0, 0x4dff, 1⟩, ⟨0xa700, 0xa721, 1⟩, ⟨0xa788, 0xa78a, 1⟩,
   ⟨0xa830, 0xa839, 1⟩, ⟨0xa92e, 0xa92e, 1⟩, ⟨0xa9cf, 0xa9cf, 1⟩, ⟨0xab5b, 0xab5b, 1⟩,
   ⟨0xab6a, 0xab6b, 1⟩, ⟨0xfd3e, 0xfd3f, 1⟩, ⟨0xfe10, 0xfe19, 1⟩, ⟨0xfe30, 0xfe52, 1⟩,
   ⟨0xfe54, 0xfe66, 1⟩, ⟨0xfe68, 0xfe6b, 1⟩, ⟨0xfeff, 0xff1f, 2⟩, ⟨0xff02, 0xff20, 2⟩,
   ⟨0xff3b, 0xff40, 1⟩, ⟨0xff5b, 0xff65, 1⟩, ⟨0xff70, 0xff70, 1⟩, ⟨0xff9e, 0xff9f, 1⟩,
   ⟨0xffe0, 0xffee, 2⟩, ⟨0xffe1, 0xffe5, 2⟩, ⟨0xffe9, 0xffed, 2⟩, ⟨0xfff9, 0xfffd, 1⟩,
   ⟨0x10100, 0x10102, 1⟩, ⟨0x10107, 0x10133, 1⟩, ⟨0x10137, 0x1013f, 1⟩, ⟨0x10190, 0x1019c, 1⟩,
   ⟨0x101d0, 0x101fc, 1⟩, ⟨0x102e1, 0x102fb, 1⟩, ⟨0x1bca0, 0x1bca3, 1⟩, ⟨0x1cc00, 0x1ccf9, 1⟩,
   ⟨0x1cd00, 0x1ceb3, 1⟩, ⟨0x1cf50, 0x1cfc3, 1⟩, ⟨0x1d000, 0x1d0f5, 1⟩, ⟨0x1d100, 0x1d126, 1⟩,
   ⟨0x1d129, 0x1d166, 1⟩, ⟨0x1d16a, 0x1d17a, 1⟩, ⟨0x1d183, 0x1d184, 1⟩, ⟨0x1d18c, 0x1d1a9, 1⟩,
   ⟨0x1d1ae, 0x1d1ea, 1⟩, ⟨0x1d2c0, 0x1d2d3, 1⟩, ⟨0x1d2e0, 0x1d2f3, 1⟩, ⟨0x1d300, 0x1d356, 1⟩,
   ⟨0x1d360, 0x1d378, 1⟩, ⟨0x1d400, 0x1d454, 1⟩, ⟨0x1d456, 0x1d49c, 1⟩, ⟨0x1d49e, 0x1d49f, 1⟩,
   ⟨0x1d4a2, 0x1d4a2, 1⟩, ⟨0x1d4a5, 0x1d4a6, 1⟩, ⟨0x1d4a9, 0x1d4ac, 1⟩, ⟨0x1d4ae, 0x1d4b9, 1⟩,
   ⟨0x1d4bb, 0x1d509, 2⟩, ⟨0x1d4be, 0x1d4c2, 2⟩, ⟨0x1d4c6, 0x1d504, 2⟩, ⟨0x1d508, 0x1d50a, 2⟩,
   ⟨0x1d50d, 0x1d514, 1⟩, ⟨0x1d516, 0x1d538, 2⟩, ⟨0x1d517, 0x1d51b, 2⟩, ⟨0x1d51f, 0x1d53d, 2⟩,
   ⟨0x1d53c, 0x1d546, 2⟩, ⟨0x1d541, 0x1d543, 2⟩, ⟨0x1d54a, 0x1d6a4, 2⟩, ⟨0x1d54b, 0x1d54f, 2⟩,
   ⟨0x1d553, 0x1d6a5, 2⟩, ⟨0x1d6a8, 0x1d7cb, 1⟩, ⟨0x1d7ce, 0x1d7ff, 1⟩, ⟨0x1ec71, 0x1ecb4, 1⟩,
   ⟨0x1ed01, 0x1ed3d, 1⟩, ⟨0x1f000, 0x1f02b, 1⟩, ⟨0x1f030, 0x1f093, 1⟩, ⟨0x1f0a0, 0x1f0ae, 1⟩,
   ⟨0x1f0b1, 0x1f0f5, 2⟩, ⟨0x1f0b2, 0x1f0be, 2⟩, ⟨0x1f0c2, 0x1f0ce, 2⟩, ⟨0x1f0d2, 0x1f0f4, 2⟩,
   ⟨0x1f100, 0x1f1ad, 1⟩, ⟨0x1f1e6, 0x1f1ff, 1⟩, ⟨0x1f201, 0x1f202, 1⟩, ⟨0x1f210, 0x1f23b, 1⟩,
   ⟨0x1f240, 0x1f248, 1⟩, ⟨0x1f250, 0x1f251, 1⟩, ⟨0x1f260, 0x1f265, 1⟩, ⟨0x1f300, 0x1f6d7, 1⟩,
   ⟨0x1f6dc, 0x1f6ec, 1⟩, ⟨0x1f6f0, 0x1f6fc, 1⟩, ⟨0x1f700, 0x1f776, 1⟩, ⟨0x1f77b, 0x1f7d9, 1⟩,
   ⟨0x1f7e0, 0x1f7eb, 1⟩, ⟨0x1f7f0, 0x1f7f0, 1⟩, ⟨0x1f800, 0x1f80b, 1⟩, ⟨0x1f810, 0x1f847, 1⟩,
   ⟨0x1f850, 0x1f859, 1⟩, ⟨0x1f860, 0x1f887, 1⟩, ⟨0x1f890, 0x1f8ad, 1⟩, ⟨0x1f8b0, 0x1f8bb, 1⟩,
   ⟨0x1f8c0, 0x1f8c1, 1⟩, ⟨0x1f900, 0x1fa53, 1⟩, ⟨0x1fa60, 0x1fa6d, 1⟩, ⟨0x1fa70, 0x1fa7c, 1⟩,
   ⟨0x1fa80, 0x1fa89, 1⟩, ⟨0x1fa8f, 0x1fac6, 1⟩, ⟨0x1face, 0x1fadc, 1⟩, ⟨0x1fadf, 0x1fae9, 1⟩,
   ⟨0x1faf0, 0x1faf8, 1⟩, ⟨0x1fb00, 0x1fb92, 1⟩, ⟨0x1fb94, 0x1fbf9, 1⟩, ⟨0xe0001, 0xe0001, 1⟩,
   ⟨0xe0020, 0xe007f, 1⟩]⟩

def coptic : Script := ⟨["coptic", "copt", "qaac"], .spans
  [⟨0x3e2, 0x3ef, 1⟩, ⟨0x2c80, 0x2cf3, 1⟩, ⟨0x2cf9, 0x2cff, 1⟩]⟩

def cypriot : Script := ⟨["cypriot", "cprt"], .spans
  [⟨0x10800, 0x10805, 1⟩, ⟨0x10808, 0x10834, 2⟩, ⟨0x1080b, 0x10837, 2⟩, ⟨0x10838, 0x10838, 1⟩,
   ⟨0x1083c, 0x1083c, 1⟩, ⟨0x1083f, 0x1083f, 1⟩]⟩

def cyproMinoan : Script := ⟨["cyprominoan", "cpmn"], .spans [⟨0x12f90, 0x12ff2, 1⟩]⟩

def cyrillic : Script := ⟨["cyrillic", "cyrl"], .spans
  [⟨0x400, 0x484, 1⟩, ⟨0x487, 0x52f, 1⟩, ⟨0x1c80, 0x1c8a, 1⟩, ⟨0x1d2b, 0x1d2b, 1⟩,
   ⟨0x1d78, 0x1d78, 1⟩, ⟨0x2de0, 0x2dff, 1⟩, ⟨0xa640, 0xa69f, 1⟩, ⟨0xfe2e, 0xfe2f, 1⟩,
   ⟨0x1e030, 0x1e06d, 1⟩, ⟨0x1e08f, 0x1e08f, 1⟩]⟩

def duployan : Script := ⟨["duployan", "dupl"], .spans
  [⟨0x1bc00, 0x1bc6a, 1⟩, ⟨0x1bc70, 0x1bc7c, 1⟩, ⟨0x1bc80, 0x1bc88, 1⟩, ⟨0x1bc90, 0x1bc99, 1⟩,
   ⟨0x1bc9c, 0x1bc9f, 1⟩]⟩

def elbasan : Script := ⟨["elbasan", "elba"], .spans [⟨0x10500, 0x10527, 1⟩]⟩

def georgian : Script := ⟨["georgian", "geor"], .spans
  [⟨0x10a0, 0x10c5, 1⟩, ⟨0x10c7, 0x10c7, 1⟩, ⟨0x10cd, 0x10cd, 1⟩, ⟨0x10d0, 0x10fa, 1⟩,
   ⟨0x10fc, 0x10ff, 1⟩, ⟨0x1c90, 0x1cba, 1⟩, ⟨0x1cbd, 0x1cbf, 1⟩, ⟨0x2d00, 0x2d25, 1⟩,
   ⟨0x2d27, 0x2d27, 1⟩, ⟨0x2d2d, 0x2d2d, 1⟩]⟩

def glagolitic : Script := ⟨["glagolitic", "glag"], .spans
  [⟨0x2c00, 0x2c5f, 1⟩, ⟨0x1e000, 0x1e018, 2⟩, ⟨0x1e001, 0x1e005, 2⟩, ⟨0x1e009, 0x1e017, 2⟩,
   ⟨0x1e01b, 0x1e021, 1⟩, ⟨0x1e023, 0x1e024, 1⟩, ⟨0x1e026, 0x1e02a, 1⟩]⟩

def gothic : Script := ⟨["gothic", "goth"], .spans [⟨0x10330, 0x1034a, 1⟩]⟩

def greek : Script := ⟨["greek", "grek"], .spans
  [⟨0x370, 0x373, 1⟩, ⟨0x375, 0x377, 1⟩, ⟨0x37a, 0x37d, 1⟩, ⟨0x37f, 0x37f, 1⟩, ⟨0x384, 0x3a0, 2⟩,
   ⟨0x389, 0x389, 1⟩, ⟨0x38f, 0x3e1, 2⟩, ⟨0x3a4, 0x3e0, 2⟩, ⟨0x3f0, 0x3ff, 1⟩, ⟨0x1d26, 0x1d2a, 1⟩,
   ⟨0x1d5d, 0x1d61, 1⟩, ⟨0x1d66, 0x1d6a, 1⟩, ⟨0x1dbf, 0x1dbf, 1⟩, ⟨0x1f00, 0x1f15, 1⟩,
   ⟨0x1f18, 0x1f1d, 1⟩, ⟨0x1f20, 0x1f45, 1⟩, ⟨0x1f48, 0x1f4d, 1⟩, ⟨0x1f50, 0x1f57, 1⟩,
   ⟨0x1f59, 0x1f7d, 2⟩, ⟨0x1f60, 0x1f7c, 2⟩, ⟨0x1f80, 0x1fb4, 1⟩, ⟨0x1fb6, 0x1fc4, 1⟩,
   ⟨0x1fc6, 0x1fd3, 1⟩, ⟨0x1fd6, 0x1fdb, 1⟩, ⟨0x1fdd, 0x1fef, 1⟩, ⟨0x1ff2, 0x1ffe, 2⟩,
   ⟨0x1ff3, 0x1ff3, 1⟩, ⟨0x1ff7, 0x1ffd, 2⟩, ⟨0x2126, 0x2126, 1⟩, ⟨0xab65, 0xab65, 1⟩,
   ⟨0x10140, 0x1018e, 1⟩, ⟨0x101a0, 0x101a0, 1⟩, ⟨0x1d200, 0x1d245, 1⟩]⟩

def inherited : Script := ⟨["inherited", "qaai", "zinh"], .spans
  [⟨0x300, 0x36f, 1⟩, ⟨0x485, 0x486, 1⟩, ⟨0x64b, 0x655, 1⟩, ⟨0x670, 0x670, 1⟩, ⟨0x951, 0x954, 1⟩,
   ⟨0x1ab0, 0x1ace, 1⟩, ⟨0x1cd0, 0x1ce8, 2⟩, ⟨0x1cd1, 0x1cd1, 1⟩, ⟨0x1cd5, 0x1cdf, 2⟩,
   ⟨0x1ce3, 0x1ce7, 2⟩, ⟨0x1ced, 0x1ced, 1⟩, ⟨0x1cf4, 0x1cf4, 1⟩, ⟨0x1cf8, 0x1cf9, 1⟩,
   ⟨0x1dc0, 0x1dff, 1⟩, ⟨0x200c, 0x200d, 1⟩, ⟨0x20d0, 0x20f0, 1⟩, ⟨0x302a, 0x302d, 1⟩,
   ⟨0x3099, 0x309a, 1⟩, ⟨0xfe00, 0xfe0f, 1⟩, ⟨0xfe20, 0xfe2d, 1⟩, ⟨0x101fd, 0x101fd, 1⟩,
   ⟨0x102e0, 0x102e0, 1⟩, ⟨0x1133b, 0x1133b, 1⟩, ⟨0x1cf00, 0x1cf2d, 1⟩, ⟨0x1cf30, 0x1cf46, 1⟩,
   ⟨0x1d167, 0x1d169, 1⟩, ⟨0x1d17b, 0x1d182, 1⟩, ⟨0x1d185, 0x1d18b, 1⟩, ⟨0x1d1aa, 0x1d1ad, 1⟩,
   ⟨0xe0100, 0xe01ef, 1⟩]⟩

def latin : Script := ⟨["latin", "latn"], .spans
  [⟨0x41, 0x5a, 1⟩, ⟨0x61, 0x7a, 1⟩, ⟨0xaa, 0xaa, 1⟩, ⟨0xba, 0xba, 1⟩, ⟨0xc0, 0x2b8, 2⟩,
   ⟨0xc1, 0xd5, 2⟩, ⟨0xd9, 0xf5, 2⟩, ⟨0xf9, 0x2b7, 2⟩, ⟨0x2e0, 0x2e4, 1⟩, ⟨0x1d00, 0x1d25, 1⟩,
   ⟨0x1d2c, 0x1d5c, 1⟩, ⟨0x1d62, 0x1d65, 1⟩, ⟨0x1d6b, 0x1dbd, 2⟩, ⟨0x1d6c, 0x1d76, 2⟩,
   ⟨0x1d7a, 0x1dbe, 2⟩, ⟨0x1e00, 0x1eff, 1⟩, ⟨0x2071, 0x2071, 1⟩, ⟨0x207f, 0x207f, 1⟩,
   ⟨0x2090, 0x209c, 1⟩, ⟨0x212a, 0x212b, 1⟩, ⟨0x2132, 0x2132, 1⟩, ⟨0x214e, 0x214e, 1⟩,
   ⟨0x2160, 0x2188, 1⟩, ⟨0x2c60, 0x2c7f, 1⟩, ⟨0xa722, 0xa787, 1⟩, ⟨0xa78b, 0xa7cd, 1⟩,
   ⟨0xa7d0, 0xa7d1, 1⟩, ⟨0xa7d3, 0xa7db, 2⟩, ⟨0xa7d6, 0xa7dc, 2⟩, ⟨0xa7f2, 0xa7ff, 1⟩,
   ⟨0xab30, 0xab5a, 1⟩, ⟨0xab5c, 0xab64, 1⟩, ⟨0xab66, 0xab69, 1⟩, ⟨0xfb00, 0xfb06, 1⟩,
   ⟨0xff21, 0xff3a, 1⟩, ⟨0xff41, 0xff5a, 1⟩, ⟨0x10780, 0x10785, 1⟩, ⟨0x10787, 0x107b0, 1⟩,
   ⟨0x107b2, 0x107ba, 1⟩, ⟨0x1df00, 0x1df1e, 1⟩, ⟨0x1df25, 0x1df2a, 1⟩]⟩

def linearA : Script := ⟨["lineara", "lina"], .spans
  [⟨0x10600, 0x10736, 1⟩, ⟨0x10740, 0x10755, 1⟩, ⟨0x10760, 0x10767, 1⟩]⟩

def linearB : Script := ⟨["linearb", "linb"], .spans
  [⟨0x10000, 0x1000b, 1⟩, ⟨0x1000d, 0x10026, 1⟩, ⟨0x10028, 0x1003a, 1⟩, ⟨0x1003c, 0x1003d, 1⟩,
   ⟨0x1003f, 0x1004d, 1⟩, ⟨0x10050, 0x1005d, 1⟩, ⟨0x10080, 0x100fa, 1⟩]⟩

def lycian : Script := ⟨["lycian", "lyci"], .spans [⟨0x10280, 0x1029c, 1⟩]⟩

def lydian : Script := ⟨["lydian", "lydi"], .spans [⟨0x10920, 0x10939, 1⟩, ⟨0x1093f, 0x1093f, 1⟩]⟩

def ogham : Script := ⟨["ogham", "ogam"], .spans [⟨0x1680, 0x169c, 1⟩]⟩

def oldHungarian : Script := ⟨["oldhungarian", "hung"], .spans
  [⟨0x10c80, 0x10cb2, 1⟩, ⟨0x10cc0, 0x10cf2, 1⟩, ⟨0x10cfa, 0x10cff, 1⟩]⟩

def oldItalic : Script := ⟨["olditalic", "ital"], .spans
  [⟨0x10300, 0x10323, 1⟩, ⟨0x1032d, 0x1032f, 1⟩]⟩

def oldPermic : Script := ⟨["oldpermic", "perm"], .spans [⟨0x10350, 0x1037a, 1⟩]⟩

def runic : Script := ⟨["runic", "runr"], .spans [⟨0x16a0, 0x16ea, 1⟩, ⟨0x16ee, 0x16f8, 1⟩]⟩

def shavian : Script := ⟨["shavian", "shaw"], .spans [⟨0x10450, 0x1047f, 1⟩]⟩

def signWriting : Script := ⟨["signwriting", "sgnw"], .spans
  [⟨0x1d800, 0x1da8b, 1⟩, ⟨0x1da9b, 0x1daaf, 2⟩, ⟨0x1da9c, 0x1da9e, 2⟩, ⟨0x1daa2, 0x1daae, 2⟩]⟩

def todhri : Script := ⟨["todhri", "todr"], .spans [⟨0x105c0, 0x105f3, 1⟩]⟩

def vithkuqi : Script := ⟨["vithkuqi", "vith"], .spans
  [⟨0x10570, 0x10594, 2⟩, ⟨0x10571, 0x10579, 2⟩, ⟨0x1057d, 0x10589, 2⟩, ⟨0x1058d, 0x10591, 2⟩,
   ⟨0x10595, 0x105bb, 2⟩, ⟨0x10598, 0x105a0, 2⟩, ⟨0x105a4, 0x105b0, 2⟩, ⟨0x105b4, 0x105b8, 2⟩,
   ⟨0x105bc, 0x105bc, 1⟩]⟩

def european : List Script :=
  [armenian, braille, carian, caucasianAlbanian, common, coptic, cypriot, cyproMinoan, cyrillic,
   duployan, elbasan, georgian, glagolitic, gothic, greek, inherited, latin, linearA, linearB,
   lycian, lydian, ogham, oldHungarian, oldItalic, oldPermic, runic, shavian, signWriting, todhri,
   vithkuqi]

end Script

end ResourceQuery.Unicode
