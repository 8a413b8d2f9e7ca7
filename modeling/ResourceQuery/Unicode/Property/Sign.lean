import ResourceQuery.Unicode.Class

namespace ResourceQuery.Unicode

def dash : Class := .spans
  [⟨0x2d, 0x2d, 1⟩, ⟨0x58a, 0x58a, 1⟩, ⟨0x5be, 0x5be, 1⟩, ⟨0x1400, 0x1400, 1⟩, ⟨0x1806, 0x1806, 1⟩,
   ⟨0x2010, 0x2015, 1⟩, ⟨0x2053, 0x2053, 1⟩, ⟨0x207b, 0x207b, 1⟩, ⟨0x208b, 0x208b, 1⟩,
   ⟨0x2212, 0x2212, 1⟩, ⟨0x2e17, 0x2e17, 1⟩, ⟨0x2e1a, 0x2e1a, 1⟩, ⟨0x2e3a, 0x2e3b, 1⟩,
   ⟨0x2e40, 0x2e40, 1⟩, ⟨0x2e5d, 0x2e5d, 1⟩, ⟨0x301c, 0x301c, 1⟩, ⟨0x3030, 0x3030, 1⟩,
   ⟨0x30a0, 0x30a0, 1⟩, ⟨0xfe31, 0xfe32, 1⟩, ⟨0xfe58, 0xfe58, 1⟩, ⟨0xfe63, 0xfe63, 1⟩,
   ⟨0xff0d, 0xff0d, 1⟩, ⟨0x10d6e, 0x10d6e, 1⟩, ⟨0x10ead, 0x10ead, 1⟩]

def hyphen : Class := .spans
  [⟨0x2d, 0x2d, 1⟩, ⟨0xad, 0xad, 1⟩, ⟨0x58a, 0x58a, 1⟩, ⟨0x1806, 0x1806, 1⟩, ⟨0x2010, 0x2011, 1⟩,
   ⟨0x2e17, 0x2e17, 1⟩, ⟨0x30fb, 0x30fb, 1⟩, ⟨0xfe63, 0xfe63, 1⟩, ⟨0xff0d, 0xff0d, 1⟩,
   ⟨0xff65, 0xff65, 1⟩]

def quotationMark : Class := .spans
  [⟨0x22, 0x22, 1⟩, ⟨0x27, 0x27, 1⟩, ⟨0xab, 0xab, 1⟩, ⟨0xbb, 0xbb, 1⟩, ⟨0x2018, 0x201f, 1⟩,
   ⟨0x2039, 0x203a, 1⟩, ⟨0x2e42, 0x2e42, 1⟩, ⟨0x300c, 0x300f, 1⟩, ⟨0x301d, 0x301f, 1⟩,
   ⟨0xfe41, 0xfe44, 1⟩, ⟨0xff02, 0xff02, 1⟩, ⟨0xff07, 0xff07, 1⟩, ⟨0xff62, 0xff63, 1⟩]

def terminalPunctuation : Class := .spans
  [⟨0x21, 0x21, 1⟩, ⟨0x2c, 0x2e, 2⟩, ⟨0x3a, 0x3b, 1⟩, ⟨0x3f, 0x3f, 1⟩, ⟨0x37e, 0x37e, 1⟩,
   ⟨0x387, 0x387, 1⟩, ⟨0x589, 0x589, 1⟩, ⟨0x5c3, 0x5c3, 1⟩, ⟨0x60c, 0x60c, 1⟩, ⟨0x61b, 0x61f, 2⟩,
   ⟨0x61e, 0x61e, 1⟩, ⟨0x6d4, 0x6d4, 1⟩, ⟨0x700, 0x70a, 1⟩, ⟨0x70c, 0x70c, 1⟩, ⟨0x7f8, 0x7f9, 1⟩,
   ⟨0x830, 0x835, 1⟩, ⟨0x837, 0x83e, 1⟩, ⟨0x85e, 0x85e, 1⟩, ⟨0x964, 0x965, 1⟩, ⟨0xe5a, 0xe5b, 1⟩,
   ⟨0xf08, 0xf08, 1⟩, ⟨0xf0d, 0xf12, 1⟩, ⟨0x104a, 0x104b, 1⟩, ⟨0x1361, 0x1368, 1⟩,
   ⟨0x166e, 0x166e, 1⟩, ⟨0x16eb, 0x16ed, 1⟩, ⟨0x1735, 0x1736, 1⟩, ⟨0x17d4, 0x17d6, 1⟩,
   ⟨0x17da, 0x17da, 1⟩, ⟨0x1802, 0x1805, 1⟩, ⟨0x1808, 0x1809, 1⟩, ⟨0x1944, 0x1945, 1⟩,
   ⟨0x1aa8, 0x1aab, 1⟩, ⟨0x1b4e, 0x1b4f, 1⟩, ⟨0x1b5a, 0x1b5b, 1⟩, ⟨0x1b5d, 0x1b5f, 1⟩,
   ⟨0x1b7d, 0x1b7f, 1⟩, ⟨0x1c3b, 0x1c3f, 1⟩, ⟨0x1c7e, 0x1c7f, 1⟩, ⟨0x2024, 0x2024, 1⟩,
   ⟨0x203c, 0x203d, 1⟩, ⟨0x2047, 0x2049, 1⟩, ⟨0x2cf9, 0x2cfb, 1⟩, ⟨0x2e2e, 0x2e2e, 1⟩,
   ⟨0x2e3c, 0x2e3c, 1⟩, ⟨0x2e41, 0x2e41, 1⟩, ⟨0x2e4c, 0x2e4e, 2⟩, ⟨0x2e4f, 0x2e4f, 1⟩,
   ⟨0x2e53, 0x2e54, 1⟩, ⟨0x3001, 0x3002, 1⟩, ⟨0xa4fe, 0xa4ff, 1⟩, ⟨0xa60d, 0xa60f, 1⟩,
   ⟨0xa6f3, 0xa6f7, 1⟩, ⟨0xa876, 0xa877, 1⟩, ⟨0xa8ce, 0xa8cf, 1⟩, ⟨0xa92f, 0xa92f, 1⟩,
   ⟨0xa9c7, 0xa9c9, 1⟩, ⟨0xaa5d, 0xaa5f, 1⟩, ⟨0xaadf, 0xaadf, 1⟩, ⟨0xaaf0, 0xaaf1, 1⟩,
   ⟨0xabeb, 0xabeb, 1⟩, ⟨0xfe12, 0xfe12, 1⟩, ⟨0xfe15, 0xfe16, 1⟩, ⟨0xfe50, 0xfe56, 2⟩,
   ⟨0xfe51, 0xfe51, 1⟩, ⟨0xfe55, 0xfe57, 2⟩, ⟨0xff01, 0xff01, 1⟩, ⟨0xff0c, 0xff0e, 2⟩,
   ⟨0xff1a, 0xff1b, 1⟩, ⟨0xff1f, 0xff1f, 1⟩, ⟨0xff61, 0xff61, 1⟩, ⟨0xff64, 0xff64, 1⟩,
   ⟨0x1039f, 0x1039f, 1⟩, ⟨0x103d0, 0x103d0, 1⟩, ⟨0x10857, 0x10857, 1⟩, ⟨0x1091f, 0x1091f, 1⟩,
   ⟨0x10a56, 0x10a57, 1⟩, ⟨0x10af0, 0x10af5, 1⟩, ⟨0x10b3a, 0x10b3f, 1⟩, ⟨0x10b99, 0x10b9c, 1⟩,
   ⟨0x10f55, 0x10f59, 1⟩, ⟨0x10f86, 0x10f89, 1⟩, ⟨0x11047, 0x1104d, 1⟩, ⟨0x110be, 0x110c1, 1⟩,
   ⟨0x11141, 0x11143, 1⟩, ⟨0x111c5, 0x111c6, 1⟩, ⟨0x111cd, 0x111cd, 1⟩, ⟨0x111de, 0x111df, 1⟩,
   ⟨0x11238, 0x1123c, 1⟩, ⟨0x112a9, 0x112a9, 1⟩, ⟨0x113d4, 0x113d5, 1⟩, ⟨0x1144b, 0x1144d, 1⟩,
   ⟨0x1145a, 0x1145b, 1⟩, ⟨0x115c2, 0x115c5, 1⟩, ⟨0x115c9, 0x115d7, 1⟩, ⟨0x11641, 0x11642, 1⟩,
   ⟨0x1173c, 0x1173e, 1⟩, ⟨0x11944, 0x11946, 2⟩, ⟨0x11a42, 0x11a43, 1⟩, ⟨0x11a9b, 0x11a9c, 1⟩,
   ⟨0x11aa1, 0x11aa2, 1⟩, ⟨0x11c41, 0x11c43, 1⟩, ⟨0x11c71, 0x11c71, 1⟩, ⟨0x11ef7, 0x11ef8, 1⟩,
   ⟨0x11f43, 0x11f44, 1⟩, ⟨0x12470, 0x12474, 1⟩, ⟨0x16a6e, 0x16a6f, 1⟩, ⟨0x16af5, 0x16af5, 1⟩,
   ⟨0x16b37, 0x16b39, 1⟩, ⟨0x16b44, 0x16b44, 1⟩, ⟨0x16d6e, 0x16d6f, 1⟩, ⟨0x16e97, 0x16e98, 1⟩,
   ⟨0x1bc9f, 0x1bc9f, 1⟩, ⟨0x1da87, 0x1da8a, 1⟩]

def sentenceTerminal : Class := .spans
  [⟨0x21, 0x21, 1⟩, ⟨0x2e, 0x2e, 1⟩, ⟨0x3f, 0x3f, 1⟩, ⟨0x589, 0x589, 1⟩, ⟨0x61d, 0x61f, 1⟩,
   ⟨0x6d4, 0x6d4, 1⟩, ⟨0x700, 0x702, 1⟩, ⟨0x7f9, 0x7f9, 1⟩, ⟨0x837, 0x839, 2⟩, ⟨0x83d, 0x83e, 1⟩,
   ⟨0x964, 0x965, 1⟩, ⟨0x104a, 0x104b, 1⟩, ⟨0x1362, 0x1362, 1⟩, ⟨0x1367, 0x1368, 1⟩,
   ⟨0x166e, 0x166e, 1⟩, ⟨0x1735, 0x1736, 1⟩, ⟨0x17d4, 0x17d5, 1⟩, ⟨0x1803, 0x1803, 1⟩,
   ⟨0x1809, 0x1809, 1⟩, ⟨0x1944, 0x1945, 1⟩, ⟨0x1aa8, 0x1aab, 1⟩, ⟨0x1b4e, 0x1b4f, 1⟩,
   ⟨0x1b5a, 0x1b5b, 1⟩, ⟨0x1b5e, 0x1b5f, 1⟩, ⟨0x1b7d, 0x1b7f, 1⟩, ⟨0x1c3b, 0x1c3c, 1⟩,
   ⟨0x1c7e, 0x1c7f, 1⟩, ⟨0x2024, 0x2024, 1⟩, ⟨0x203c, 0x203d, 1⟩, ⟨0x2047, 0x2049, 1⟩,
   ⟨0x2cf9, 0x2cfb, 1⟩, ⟨0x2e2e, 0x2e2e, 1⟩, ⟨0x2e3c, 0x2e3c, 1⟩, ⟨0x2e53, 0x2e54, 1⟩,
   ⟨0x3002, 0x3002, 1⟩, ⟨0xa4ff, 0xa4ff, 1⟩, ⟨0xa60e, 0xa60f, 1⟩, ⟨0xa6f3, 0xa6f3, 1⟩,
   ⟨0xa6f7, 0xa6f7, 1⟩, ⟨0xa876, 0xa877, 1⟩, ⟨0xa8ce, 0xa8cf, 1⟩, ⟨0xa92f, 0xa92f, 1⟩,
   ⟨0xa9c8, 0xa9c9, 1⟩, ⟨0xaa5d, 0xaa5f, 1⟩, ⟨0xaaf0, 0xaaf1, 1⟩, ⟨0xabeb, 0xabeb, 1⟩,
   ⟨0xfe12, 0xfe12, 1⟩, ⟨0xfe15, 0xfe16, 1⟩, ⟨0xfe52, 0xfe52, 1⟩, ⟨0xfe56, 0xfe57, 1⟩,
   ⟨0xff01, 0xff01, 1⟩, ⟨0xff0e, 0xff0e, 1⟩, ⟨0xff1f, 0xff1f, 1⟩, ⟨0xff61, 0xff61, 1⟩,
   ⟨0x10a56, 0x10a57, 1⟩, ⟨0x10f55, 0x10f59, 1⟩, ⟨0x10f86, 0x10f89, 1⟩, ⟨0x11047, 0x11048, 1⟩,
   ⟨0x110be, 0x110c1, 1⟩, ⟨0x11141, 0x11143, 1⟩, ⟨0x111c5, 0x111c6, 1⟩, ⟨0x111cd, 0x111cd, 1⟩,
   ⟨0x111de, 0x111df, 1⟩, ⟨0x11238, 0x11239, 1⟩, ⟨0x1123b, 0x1123c, 1⟩, ⟨0x112a9, 0x112a9, 1⟩,
   ⟨0x113d4, 0x113d5, 1⟩, ⟨0x1144b, 0x1144c, 1⟩, ⟨0x115c2, 0x115c3, 1⟩, ⟨0x115c9, 0x115d7, 1⟩,
   ⟨0x11641, 0x11642, 1⟩, ⟨0x1173c, 0x1173e, 1⟩, ⟨0x11944, 0x11946, 2⟩, ⟨0x11a42, 0x11a43, 1⟩,
   ⟨0x11a9b, 0x11a9c, 1⟩, ⟨0x11c41, 0x11c42, 1⟩, ⟨0x11ef7, 0x11ef8, 1⟩, ⟨0x11f43, 0x11f44, 1⟩,
   ⟨0x16a6e, 0x16a6f, 1⟩, ⟨0x16af5, 0x16af5, 1⟩, ⟨0x16b37, 0x16b38, 1⟩, ⟨0x16b44, 0x16b44, 1⟩,
   ⟨0x16d6e, 0x16d6f, 1⟩, ⟨0x16e98, 0x16e98, 1⟩, ⟨0x1bc9f, 0x1bc9f, 1⟩, ⟨0x1da88, 0x1da88, 1⟩]

def asciiHexDigit : Class := .spans [⟨0x30, 0x39, 1⟩, ⟨0x41, 0x46, 1⟩, ⟨0x61, 0x66, 1⟩]

def hexDigit : Class := .spans
  [⟨0x30, 0x39, 1⟩, ⟨0x41, 0x46, 1⟩, ⟨0x61, 0x66, 1⟩, ⟨0xff10, 0xff19, 1⟩, ⟨0xff21, 0xff26, 1⟩,
   ⟨0xff41, 0xff46, 1⟩]

end ResourceQuery.Unicode
