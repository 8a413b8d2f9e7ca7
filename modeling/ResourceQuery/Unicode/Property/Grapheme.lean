import ResourceQuery.Unicode.Category

namespace ResourceQuery.Unicode

/-- Characters other than nonspacing and enclosing marks that join the one before them into one
sign. -/
def otherGraphemeExtend : Class := .spans
  [⟨0x9be, 0x9be, 1⟩, ⟨0x9d7, 0x9d7, 1⟩, ⟨0xb3e, 0xb3e, 1⟩, ⟨0xb57, 0xb57, 1⟩, ⟨0xbbe, 0xbbe, 1⟩,
   ⟨0xbd7, 0xbd7, 1⟩, ⟨0xcc0, 0xcc2, 2⟩, ⟨0xcc7, 0xcc8, 1⟩, ⟨0xcca, 0xccb, 1⟩, ⟨0xcd5, 0xcd6, 1⟩,
   ⟨0xd3e, 0xd3e, 1⟩, ⟨0xd57, 0xd57, 1⟩, ⟨0xdcf, 0xdcf, 1⟩, ⟨0xddf, 0xddf, 1⟩, ⟨0x1715, 0x1715, 1⟩,
   ⟨0x1734, 0x1734, 1⟩, ⟨0x1b35, 0x1b35, 1⟩, ⟨0x1b3b, 0x1b3d, 2⟩, ⟨0x1b43, 0x1b44, 1⟩,
   ⟨0x1baa, 0x1baa, 1⟩, ⟨0x1bf2, 0x1bf3, 1⟩, ⟨0x200c, 0x200c, 1⟩, ⟨0x302e, 0x302f, 1⟩,
   ⟨0xa953, 0xa953, 1⟩, ⟨0xa9c0, 0xa9c0, 1⟩, ⟨0xff9e, 0xff9f, 1⟩, ⟨0x111c0, 0x111c0, 1⟩,
   ⟨0x11235, 0x11235, 1⟩, ⟨0x1133e, 0x1133e, 1⟩, ⟨0x1134d, 0x1134d, 1⟩, ⟨0x11357, 0x11357, 1⟩,
   ⟨0x113b8, 0x113b8, 1⟩, ⟨0x113c2, 0x113c2, 1⟩, ⟨0x113c5, 0x113c9, 2⟩, ⟨0x113c8, 0x113c8, 1⟩,
   ⟨0x113cf, 0x113cf, 1⟩, ⟨0x114b0, 0x114b0, 1⟩, ⟨0x114bd, 0x114bd, 1⟩, ⟨0x115af, 0x115af, 1⟩,
   ⟨0x116b6, 0x116b6, 1⟩, ⟨0x11930, 0x11930, 1⟩, ⟨0x1193d, 0x1193d, 1⟩, ⟨0x11f41, 0x11f41, 1⟩,
   ⟨0x16ff0, 0x16ff1, 1⟩, ⟨0x1d165, 0x1d166, 1⟩, ⟨0x1d16d, 0x1d172, 1⟩, ⟨0xe0020, 0xe007f, 1⟩]

def graphemeExtend : Class := nonspacingMark ∪ enclosingMark ∪ otherGraphemeExtend

def graphemeBase : Class := graphic \ (lineSeparator ∪ paragraphSeparator ∪ graphemeExtend)

def graphemeLink : Class := .spans
  [⟨0x94d, 0x94d, 1⟩, ⟨0x9cd, 0x9cd, 1⟩, ⟨0xa4d, 0xa4d, 1⟩, ⟨0xacd, 0xacd, 1⟩, ⟨0xb4d, 0xb4d, 1⟩,
   ⟨0xbcd, 0xbcd, 1⟩, ⟨0xc4d, 0xc4d, 1⟩, ⟨0xccd, 0xccd, 1⟩, ⟨0xd3b, 0xd3c, 1⟩, ⟨0xd4d, 0xd4d, 1⟩,
   ⟨0xdca, 0xdca, 1⟩, ⟨0xe3a, 0xe3a, 1⟩, ⟨0xeba, 0xeba, 1⟩, ⟨0xf84, 0xf84, 1⟩, ⟨0x1039, 0x103a, 1⟩,
   ⟨0x1714, 0x1715, 1⟩, ⟨0x1734, 0x1734, 1⟩, ⟨0x17d2, 0x17d2, 1⟩, ⟨0x1a60, 0x1a60, 1⟩,
   ⟨0x1b44, 0x1b44, 1⟩, ⟨0x1baa, 0x1bab, 1⟩, ⟨0x1bf2, 0x1bf3, 1⟩, ⟨0x2d7f, 0x2d7f, 1⟩,
   ⟨0xa806, 0xa806, 1⟩, ⟨0xa82c, 0xa82c, 1⟩, ⟨0xa8c4, 0xa8c4, 1⟩, ⟨0xa953, 0xa953, 1⟩,
   ⟨0xa9c0, 0xa9c0, 1⟩, ⟨0xaaf6, 0xaaf6, 1⟩, ⟨0xabed, 0xabed, 1⟩, ⟨0x10a3f, 0x10a3f, 1⟩,
   ⟨0x11046, 0x11046, 1⟩, ⟨0x11070, 0x11070, 1⟩, ⟨0x1107f, 0x1107f, 1⟩, ⟨0x110b9, 0x110b9, 1⟩,
   ⟨0x11133, 0x11134, 1⟩, ⟨0x111c0, 0x111c0, 1⟩, ⟨0x11235, 0x11235, 1⟩, ⟨0x112ea, 0x112ea, 1⟩,
   ⟨0x1134d, 0x1134d, 1⟩, ⟨0x113ce, 0x113d0, 1⟩, ⟨0x11442, 0x11442, 1⟩, ⟨0x114c2, 0x114c2, 1⟩,
   ⟨0x115bf, 0x115bf, 1⟩, ⟨0x1163f, 0x1163f, 1⟩, ⟨0x116b6, 0x116b6, 1⟩, ⟨0x1172b, 0x1172b, 1⟩,
   ⟨0x11839, 0x11839, 1⟩, ⟨0x1193d, 0x1193e, 1⟩, ⟨0x119e0, 0x119e0, 1⟩, ⟨0x11a34, 0x11a34, 1⟩,
   ⟨0x11a47, 0x11a47, 1⟩, ⟨0x11a99, 0x11a99, 1⟩, ⟨0x11c3f, 0x11c3f, 1⟩, ⟨0x11d44, 0x11d45, 1⟩,
   ⟨0x11d97, 0x11d97, 1⟩, ⟨0x11f41, 0x11f42, 1⟩, ⟨0x1612f, 0x1612f, 1⟩]

def diacritic : Class := .spans
  [⟨0x5e, 0x60, 2⟩, ⟨0xa8, 0xa8, 1⟩, ⟨0xaf, 0xaf, 1⟩, ⟨0xb4, 0xb4, 1⟩, ⟨0xb7, 0xb8, 1⟩,
   ⟨0x2b0, 0x34e, 1⟩, ⟨0x350, 0x357, 1⟩, ⟨0x35d, 0x362, 1⟩, ⟨0x374, 0x375, 1⟩, ⟨0x37a, 0x37a, 1⟩,
   ⟨0x384, 0x385, 1⟩, ⟨0x483, 0x487, 1⟩, ⟨0x559, 0x559, 1⟩, ⟨0x591, 0x5c1, 2⟩, ⟨0x592, 0x5a0, 2⟩,
   ⟨0x5a4, 0x5bc, 2⟩, ⟨0x5c2, 0x5c4, 2⟩, ⟨0x64b, 0x652, 1⟩, ⟨0x657, 0x658, 1⟩, ⟨0x6df, 0x6e0, 1⟩,
   ⟨0x6e5, 0x6e6, 1⟩, ⟨0x6ea, 0x6ec, 1⟩, ⟨0x730, 0x74a, 1⟩, ⟨0x7a6, 0x7b0, 1⟩, ⟨0x7eb, 0x7f5, 1⟩,
   ⟨0x818, 0x819, 1⟩, ⟨0x898, 0x89f, 1⟩, ⟨0x8c9, 0x8d2, 1⟩, ⟨0x8e3, 0x8fe, 1⟩, ⟨0x93c, 0x93c, 1⟩,
   ⟨0x94d, 0x94d, 1⟩, ⟨0x951, 0x954, 1⟩, ⟨0x971, 0x971, 1⟩, ⟨0x9bc, 0x9bc, 1⟩, ⟨0x9cd, 0x9cd, 1⟩,
   ⟨0xa3c, 0xa3c, 1⟩, ⟨0xa4d, 0xa4d, 1⟩, ⟨0xabc, 0xabc, 1⟩, ⟨0xacd, 0xacd, 1⟩, ⟨0xafd, 0xaff, 1⟩,
   ⟨0xb3c, 0xb3c, 1⟩, ⟨0xb4d, 0xb4d, 1⟩, ⟨0xb55, 0xb55, 1⟩, ⟨0xbcd, 0xbcd, 1⟩, ⟨0xc3c, 0xc3c, 1⟩,
   ⟨0xc4d, 0xc4d, 1⟩, ⟨0xcbc, 0xcbc, 1⟩, ⟨0xccd, 0xccd, 1⟩, ⟨0xd3b, 0xd3c, 1⟩, ⟨0xd4d, 0xd4d, 1⟩,
   ⟨0xdca, 0xdca, 1⟩, ⟨0xe3a, 0xe3a, 1⟩, ⟨0xe47, 0xe4c, 1⟩, ⟨0xe4e, 0xe4e, 1⟩, ⟨0xeba, 0xeba, 1⟩,
   ⟨0xec8, 0xecc, 1⟩, ⟨0xf18, 0xf19, 1⟩, ⟨0xf35, 0xf39, 2⟩, ⟨0xf3e, 0xf3f, 1⟩, ⟨0xf82, 0xf84, 1⟩,
   ⟨0xf86, 0xf87, 1⟩, ⟨0xfc6, 0xfc6, 1⟩, ⟨0x1037, 0x1039, 2⟩, ⟨0x103a, 0x103a, 1⟩,
   ⟨0x1063, 0x1064, 1⟩, ⟨0x1069, 0x106d, 1⟩, ⟨0x1087, 0x108d, 1⟩, ⟨0x108f, 0x108f, 1⟩,
   ⟨0x109a, 0x109b, 1⟩, ⟨0x135d, 0x135f, 1⟩, ⟨0x1714, 0x1715, 1⟩, ⟨0x1734, 0x1734, 1⟩,
   ⟨0x17c9, 0x17d3, 1⟩, ⟨0x17dd, 0x17dd, 1⟩, ⟨0x1939, 0x193b, 1⟩, ⟨0x1a60, 0x1a60, 1⟩,
   ⟨0x1a75, 0x1a7c, 1⟩, ⟨0x1a7f, 0x1a7f, 1⟩, ⟨0x1ab0, 0x1abe, 1⟩, ⟨0x1ac1, 0x1acb, 1⟩,
   ⟨0x1b34, 0x1b34, 1⟩, ⟨0x1b44, 0x1b44, 1⟩, ⟨0x1b6b, 0x1b73, 1⟩, ⟨0x1baa, 0x1bab, 1⟩,
   ⟨0x1be6, 0x1be6, 1⟩, ⟨0x1bf2, 0x1bf3, 1⟩, ⟨0x1c36, 0x1c37, 1⟩, ⟨0x1c78, 0x1c7d, 1⟩,
   ⟨0x1cd0, 0x1ce8, 1⟩, ⟨0x1ced, 0x1ced, 1⟩, ⟨0x1cf4, 0x1cf4, 1⟩, ⟨0x1cf7, 0x1cf9, 1⟩,
   ⟨0x1d2c, 0x1d6a, 1⟩, ⟨0x1dc4, 0x1dcf, 1⟩, ⟨0x1df5, 0x1dff, 1⟩, ⟨0x1fbd, 0x1fc1, 2⟩,
   ⟨0x1fc0, 0x1fc0, 1⟩, ⟨0x1fcd, 0x1fcf, 1⟩, ⟨0x1fdd, 0x1fdf, 1⟩, ⟨0x1fed, 0x1fef, 1⟩,
   ⟨0x1ffd, 0x1ffe, 1⟩, ⟨0x2cef, 0x2cf1, 1⟩, ⟨0x2e2f, 0x2e2f, 1⟩, ⟨0x302a, 0x302f, 1⟩,
   ⟨0x3099, 0x309c, 1⟩, ⟨0x30fc, 0x30fc, 1⟩, ⟨0xa66f, 0xa66f, 1⟩, ⟨0xa67c, 0xa67d, 1⟩,
   ⟨0xa67f, 0xa67f, 1⟩, ⟨0xa69c, 0xa69d, 1⟩, ⟨0xa6f0, 0xa6f1, 1⟩, ⟨0xa700, 0xa721, 1⟩,
   ⟨0xa788, 0xa78a, 1⟩, ⟨0xa7f8, 0xa7f9, 1⟩, ⟨0xa806, 0xa806, 1⟩, ⟨0xa82c, 0xa82c, 1⟩,
   ⟨0xa8c4, 0xa8c4, 1⟩, ⟨0xa8e0, 0xa8f1, 1⟩, ⟨0xa92b, 0xa92e, 1⟩, ⟨0xa953, 0xa953, 1⟩,
   ⟨0xa9b3, 0xa9b3, 1⟩, ⟨0xa9c0, 0xa9c0, 1⟩, ⟨0xa9e5, 0xa9e5, 1⟩, ⟨0xaa7b, 0xaa7d, 1⟩,
   ⟨0xaabf, 0xaac2, 1⟩, ⟨0xaaf6, 0xaaf6, 1⟩, ⟨0xab5b, 0xab5f, 1⟩, ⟨0xab69, 0xab6b, 1⟩,
   ⟨0xabec, 0xabed, 1⟩, ⟨0xfb1e, 0xfb1e, 1⟩, ⟨0xfe20, 0xfe2f, 1⟩, ⟨0xff3e, 0xff40, 2⟩,
   ⟨0xff70, 0xff70, 1⟩, ⟨0xff9e, 0xff9f, 1⟩, ⟨0xffe3, 0xffe3, 1⟩, ⟨0x102e0, 0x102e0, 1⟩,
   ⟨0x10780, 0x10785, 1⟩, ⟨0x10787, 0x107b0, 1⟩, ⟨0x107b2, 0x107ba, 1⟩, ⟨0x10a38, 0x10a3a, 1⟩,
   ⟨0x10a3f, 0x10a3f, 1⟩, ⟨0x10ae5, 0x10ae6, 1⟩, ⟨0x10d22, 0x10d27, 1⟩, ⟨0x10d4e, 0x10d4e, 1⟩,
   ⟨0x10d69, 0x10d6d, 1⟩, ⟨0x10efd, 0x10eff, 1⟩, ⟨0x10f46, 0x10f50, 1⟩, ⟨0x10f82, 0x10f85, 1⟩,
   ⟨0x11046, 0x11046, 1⟩, ⟨0x11070, 0x11070, 1⟩, ⟨0x110b9, 0x110ba, 1⟩, ⟨0x11133, 0x11134, 1⟩,
   ⟨0x11173, 0x11173, 1⟩, ⟨0x111c0, 0x111c0, 1⟩, ⟨0x111ca, 0x111cc, 1⟩, ⟨0x11235, 0x11236, 1⟩,
   ⟨0x112e9, 0x112ea, 1⟩, ⟨0x1133b, 0x1133c, 1⟩, ⟨0x1134d, 0x1134d, 1⟩, ⟨0x11366, 0x1136c, 1⟩,
   ⟨0x11370, 0x11374, 1⟩, ⟨0x113ce, 0x113d0, 1⟩, ⟨0x113d2, 0x113d3, 1⟩, ⟨0x113e1, 0x113e2, 1⟩,
   ⟨0x11442, 0x11442, 1⟩, ⟨0x11446, 0x11446, 1⟩, ⟨0x114c2, 0x114c3, 1⟩, ⟨0x115bf, 0x115c0, 1⟩,
   ⟨0x1163f, 0x1163f, 1⟩, ⟨0x116b6, 0x116b7, 1⟩, ⟨0x1172b, 0x1172b, 1⟩, ⟨0x11839, 0x1183a, 1⟩,
   ⟨0x1193d, 0x1193e, 1⟩, ⟨0x11943, 0x11943, 1⟩, ⟨0x119e0, 0x119e0, 1⟩, ⟨0x11a34, 0x11a34, 1⟩,
   ⟨0x11a47, 0x11a47, 1⟩, ⟨0x11a99, 0x11a99, 1⟩, ⟨0x11c3f, 0x11c3f, 1⟩, ⟨0x11d42, 0x11d44, 2⟩,
   ⟨0x11d45, 0x11d45, 1⟩, ⟨0x11d97, 0x11d97, 1⟩, ⟨0x11f41, 0x11f42, 1⟩, ⟨0x11f5a, 0x11f5a, 1⟩,
   ⟨0x13447, 0x13455, 1⟩, ⟨0x1612f, 0x1612f, 1⟩, ⟨0x16af0, 0x16af4, 1⟩, ⟨0x16b30, 0x16b36, 1⟩,
   ⟨0x16d6b, 0x16d6c, 1⟩, ⟨0x16f8f, 0x16f9f, 1⟩, ⟨0x16ff0, 0x16ff1, 1⟩, ⟨0x1aff0, 0x1aff3, 1⟩,
   ⟨0x1aff5, 0x1affb, 1⟩, ⟨0x1affd, 0x1affe, 1⟩, ⟨0x1cf00, 0x1cf2d, 1⟩, ⟨0x1cf30, 0x1cf46, 1⟩,
   ⟨0x1d167, 0x1d169, 1⟩, ⟨0x1d16d, 0x1d172, 1⟩, ⟨0x1d17b, 0x1d182, 1⟩, ⟨0x1d185, 0x1d18b, 1⟩,
   ⟨0x1d1aa, 0x1d1ad, 1⟩, ⟨0x1e030, 0x1e06d, 1⟩, ⟨0x1e130, 0x1e136, 1⟩, ⟨0x1e2ae, 0x1e2ae, 1⟩,
   ⟨0x1e2ec, 0x1e2ef, 1⟩, ⟨0x1e5ee, 0x1e5ef, 1⟩, ⟨0x1e8d0, 0x1e8d6, 1⟩, ⟨0x1e944, 0x1e94a, 2⟩,
   ⟨0x1e945, 0x1e945, 1⟩, ⟨0x1e949, 0x1e949, 1⟩]

def extender : Class := .spans
  [⟨0xb7, 0xb7, 1⟩, ⟨0x2d0, 0x2d1, 1⟩, ⟨0x640, 0x640, 1⟩, ⟨0x7fa, 0x7fa, 1⟩, ⟨0xa71, 0xa71, 1⟩,
   ⟨0xafb, 0xafb, 1⟩, ⟨0xb55, 0xb55, 1⟩, ⟨0xe46, 0xe46, 1⟩, ⟨0xec6, 0xec6, 1⟩, ⟨0x180a, 0x180a, 1⟩,
   ⟨0x1843, 0x1843, 1⟩, ⟨0x1aa7, 0x1aa7, 1⟩, ⟨0x1c36, 0x1c36, 1⟩, ⟨0x1c7b, 0x1c7b, 1⟩,
   ⟨0x3005, 0x3005, 1⟩, ⟨0x3031, 0x3035, 1⟩, ⟨0x309d, 0x309e, 1⟩, ⟨0x30fc, 0x30fe, 1⟩,
   ⟨0xa015, 0xa015, 1⟩, ⟨0xa60c, 0xa60c, 1⟩, ⟨0xa9cf, 0xa9cf, 1⟩, ⟨0xa9e6, 0xa9e6, 1⟩,
   ⟨0xaa70, 0xaa70, 1⟩, ⟨0xaadd, 0xaadd, 1⟩, ⟨0xaaf3, 0xaaf4, 1⟩, ⟨0xff70, 0xff70, 1⟩,
   ⟨0x10781, 0x10782, 1⟩, ⟨0x10d4e, 0x10d4e, 1⟩, ⟨0x10d6a, 0x10d6a, 1⟩, ⟨0x10d6f, 0x10d6f, 1⟩,
   ⟨0x11237, 0x11237, 1⟩, ⟨0x1135d, 0x1135d, 1⟩, ⟨0x113d2, 0x113d3, 1⟩, ⟨0x115c6, 0x115c8, 1⟩,
   ⟨0x11a98, 0x11a98, 1⟩, ⟨0x16b42, 0x16b43, 1⟩, ⟨0x16fe0, 0x16fe1, 1⟩, ⟨0x16fe3, 0x16fe3, 1⟩,
   ⟨0x1e13c, 0x1e13d, 1⟩, ⟨0x1e5ef, 0x1e5ef, 1⟩, ⟨0x1e944, 0x1e946, 1⟩]

def modifierCombiningMark : Class := .spans
  [⟨0x654, 0x655, 1⟩, ⟨0x658, 0x658, 1⟩, ⟨0x6dc, 0x6dc, 1⟩, ⟨0x6e3, 0x6e3, 1⟩, ⟨0x6e7, 0x6e8, 1⟩,
   ⟨0x8ca, 0x8cb, 1⟩, ⟨0x8cd, 0x8cf, 1⟩, ⟨0x8d3, 0x8d3, 1⟩, ⟨0x8f3, 0x8f3, 1⟩]

def logicalOrderException : Class := .spans
  [⟨0xe40, 0xe44, 1⟩, ⟨0xec0, 0xec4, 1⟩, ⟨0x19b5, 0x19b7, 1⟩, ⟨0x19ba, 0x19ba, 1⟩,
   ⟨0xaab5, 0xaab6, 1⟩, ⟨0xaab9, 0xaabb, 2⟩, ⟨0xaabc, 0xaabc, 1⟩]

end ResourceQuery.Unicode
