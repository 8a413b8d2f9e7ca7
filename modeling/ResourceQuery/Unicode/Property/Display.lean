import ResourceQuery.Unicode.Alphabetic

namespace ResourceQuery.Unicode

def bidiControl : Class := .spans
  [⟨0x61c, 0x61c, 1⟩, ⟨0x200e, 0x200f, 1⟩, ⟨0x202a, 0x202e, 1⟩, ⟨0x2066, 0x2069, 1⟩]

def bidiMirrored : Class := .spans
  [⟨0x28, 0x29, 1⟩, ⟨0x3c, 0x3e, 2⟩, ⟨0x5b, 0x5d, 2⟩, ⟨0x7b, 0x7d, 2⟩, ⟨0xab, 0xab, 1⟩,
   ⟨0xbb, 0xbb, 1⟩, ⟨0xf3a, 0xf3d, 1⟩, ⟨0x169b, 0x169c, 1⟩, ⟨0x2039, 0x203a, 1⟩,
   ⟨0x2045, 0x2046, 1⟩, ⟨0x207d, 0x207e, 1⟩, ⟨0x208d, 0x208e, 1⟩, ⟨0x2140, 0x2140, 1⟩,
   ⟨0x2201, 0x2204, 1⟩, ⟨0x2208, 0x220d, 1⟩, ⟨0x2211, 0x2211, 1⟩, ⟨0x2215, 0x2216, 1⟩,
   ⟨0x221a, 0x221d, 1⟩, ⟨0x221f, 0x2222, 1⟩, ⟨0x2224, 0x2226, 2⟩, ⟨0x222b, 0x2233, 1⟩,
   ⟨0x2239, 0x224b, 2⟩, ⟨0x223c, 0x224c, 2⟩, ⟨0x2252, 0x2255, 1⟩, ⟨0x225f, 0x2260, 1⟩,
   ⟨0x2262, 0x226a, 2⟩, ⟨0x2265, 0x228b, 2⟩, ⟨0x226e, 0x228c, 2⟩, ⟨0x228f, 0x2292, 1⟩,
   ⟨0x2298, 0x2298, 1⟩, ⟨0x22a2, 0x22a3, 1⟩, ⟨0x22a6, 0x22b8, 1⟩, ⟨0x22be, 0x22bf, 1⟩,
   ⟨0x22c9, 0x22cd, 1⟩, ⟨0x22d0, 0x22d1, 1⟩, ⟨0x22d6, 0x22ed, 1⟩, ⟨0x22f0, 0x22ff, 1⟩,
   ⟨0x2308, 0x230b, 1⟩, ⟨0x2320, 0x2321, 1⟩, ⟨0x2329, 0x232a, 1⟩, ⟨0x2768, 0x2775, 1⟩,
   ⟨0x27c0, 0x27c0, 1⟩, ⟨0x27c3, 0x27c6, 1⟩, ⟨0x27c8, 0x27c9, 1⟩, ⟨0x27cb, 0x27cd, 1⟩,
   ⟨0x27d3, 0x27d6, 1⟩, ⟨0x27dc, 0x27de, 1⟩, ⟨0x27e2, 0x27ef, 1⟩, ⟨0x2983, 0x2998, 1⟩,
   ⟨0x299b, 0x29a0, 1⟩, ⟨0x29a2, 0x29af, 1⟩, ⟨0x29b8, 0x29b8, 1⟩, ⟨0x29c0, 0x29c5, 1⟩,
   ⟨0x29c9, 0x29c9, 1⟩, ⟨0x29ce, 0x29d2, 1⟩, ⟨0x29d4, 0x29d5, 1⟩, ⟨0x29d8, 0x29dc, 1⟩,
   ⟨0x29e1, 0x29e5, 2⟩, ⟨0x29e4, 0x29e4, 1⟩, ⟨0x29e8, 0x29e9, 1⟩, ⟨0x29f4, 0x29f9, 1⟩,
   ⟨0x29fc, 0x29fd, 1⟩, ⟨0x2a0a, 0x2a1c, 1⟩, ⟨0x2a1e, 0x2a21, 1⟩, ⟨0x2a24, 0x2a26, 2⟩,
   ⟨0x2a29, 0x2a2d, 2⟩, ⟨0x2a2c, 0x2a2e, 2⟩, ⟨0x2a34, 0x2a35, 1⟩, ⟨0x2a3c, 0x2a3e, 1⟩,
   ⟨0x2a57, 0x2a58, 1⟩, ⟨0x2a64, 0x2a65, 1⟩, ⟨0x2a6a, 0x2a6d, 1⟩, ⟨0x2a6f, 0x2a70, 1⟩,
   ⟨0x2a73, 0x2a74, 1⟩, ⟨0x2a79, 0x2aa3, 1⟩, ⟨0x2aa6, 0x2aad, 1⟩, ⟨0x2aaf, 0x2ad6, 1⟩,
   ⟨0x2adc, 0x2ade, 2⟩, ⟨0x2ae2, 0x2ae6, 1⟩, ⟨0x2aec, 0x2aee, 1⟩, ⟨0x2af3, 0x2af3, 1⟩,
   ⟨0x2af7, 0x2afb, 1⟩, ⟨0x2afd, 0x2afd, 1⟩, ⟨0x2bfe, 0x2bfe, 1⟩, ⟨0x2e02, 0x2e05, 1⟩,
   ⟨0x2e09, 0x2e0a, 1⟩, ⟨0x2e0c, 0x2e0d, 1⟩, ⟨0x2e1c, 0x2e1d, 1⟩, ⟨0x2e20, 0x2e29, 1⟩,
   ⟨0x2e55, 0x2e5c, 1⟩, ⟨0x3008, 0x3011, 1⟩, ⟨0x3014, 0x301b, 1⟩, ⟨0xfe59, 0xfe5e, 1⟩,
   ⟨0xfe64, 0xfe65, 1⟩, ⟨0xff08, 0xff09, 1⟩, ⟨0xff1c, 0xff1e, 2⟩, ⟨0xff3b, 0xff3d, 2⟩,
   ⟨0xff5b, 0xff5f, 2⟩, ⟨0xff60, 0xff62, 2⟩, ⟨0xff63, 0xff63, 1⟩, ⟨0x1d6db, 0x1d6db, 1⟩,
   ⟨0x1d715, 0x1d715, 1⟩, ⟨0x1d74f, 0x1d74f, 1⟩, ⟨0x1d789, 0x1d789, 1⟩, ⟨0x1d7c3, 0x1d7c3, 1⟩]

def variationSelector : Class := .spans
  [⟨0x180b, 0x180d, 1⟩, ⟨0x180f, 0x180f, 1⟩, ⟨0xfe00, 0xfe0f, 1⟩, ⟨0xe0100, 0xe01ef, 1⟩]

def prependedConcatenationMark : Class := .spans
  [⟨0x600, 0x605, 1⟩, ⟨0x6dd, 0x6dd, 1⟩, ⟨0x70f, 0x70f, 1⟩, ⟨0x890, 0x891, 1⟩, ⟨0x8e2, 0x8e2, 1⟩,
   ⟨0x110bd, 0x110bd, 1⟩, ⟨0x110cd, 0x110cd, 1⟩]

def otherDefaultIgnorable : Class := .spans
  [⟨0x34f, 0x34f, 1⟩, ⟨0x115f, 0x1160, 1⟩, ⟨0x17b4, 0x17b5, 1⟩, ⟨0x2065, 0x2065, 1⟩,
   ⟨0x3164, 0x3164, 1⟩, ⟨0xffa0, 0xffa0, 1⟩, ⟨0xfff0, 0xfff8, 1⟩, ⟨0xe0000, 0xe001e, 2⟩,
   ⟨0xe0003, 0xe001f, 2⟩, ⟨0xe0080, 0xe00ff, 1⟩, ⟨0xe01f0, 0xe0fff, 1⟩]

/-- Characters that are not shown where they are not known. -/
def defaultIgnorable : Class :=
  (otherDefaultIgnorable ∪ format ∪ variationSelector) \
    (whiteSpace ∪ prependedConcatenationMark ∪ .spans [⟨0xfff9, 0xfffb, 1⟩, ⟨0x13430, 0x1343f, 1⟩])

def deprecated : Class := .spans
  [⟨0x149, 0x149, 1⟩, ⟨0x673, 0x673, 1⟩, ⟨0xf77, 0xf79, 2⟩, ⟨0x17a3, 0x17a4, 1⟩,
   ⟨0x206a, 0x206f, 1⟩, ⟨0x2329, 0x232a, 1⟩, ⟨0xe0001, 0xe0001, 1⟩]

def noncharacter : Class := .spans
  [⟨0xfdd0, 0xfdef, 1⟩, ⟨0xfffe, 0xffff, 1⟩, ⟨0x1fffe, 0x1ffff, 1⟩, ⟨0x2fffe, 0x2ffff, 1⟩,
   ⟨0x3fffe, 0x3ffff, 1⟩, ⟨0x4fffe, 0x4ffff, 1⟩, ⟨0x5fffe, 0x5ffff, 1⟩, ⟨0x6fffe, 0x6ffff, 1⟩,
   ⟨0x7fffe, 0x7ffff, 1⟩, ⟨0x8fffe, 0x8ffff, 1⟩, ⟨0x9fffe, 0x9ffff, 1⟩, ⟨0xafffe, 0xaffff, 1⟩,
   ⟨0xbfffe, 0xbffff, 1⟩, ⟨0xcfffe, 0xcffff, 1⟩, ⟨0xdfffe, 0xdffff, 1⟩, ⟨0xefffe, 0xeffff, 1⟩,
   ⟨0xffffe, 0xfffff, 1⟩, ⟨0x10fffe, 0x10ffff, 1⟩]

end ResourceQuery.Unicode
