import ResourceQuery.Unicode.Class

namespace ResourceQuery.Unicode

def emoji : Class := .spans
  [⟨0x23, 0x23, 1⟩, ⟨0x2a, 0x2a, 1⟩, ⟨0x30, 0x39, 1⟩, ⟨0xa9, 0xa9, 1⟩, ⟨0xae, 0xae, 1⟩,
   ⟨0x203c, 0x203c, 1⟩, ⟨0x2049, 0x2049, 1⟩, ⟨0x2122, 0x2122, 1⟩, ⟨0x2139, 0x2139, 1⟩,
   ⟨0x2194, 0x2199, 1⟩, ⟨0x21a9, 0x21aa, 1⟩, ⟨0x231a, 0x231b, 1⟩, ⟨0x2328, 0x2328, 1⟩,
   ⟨0x23cf, 0x23cf, 1⟩, ⟨0x23e9, 0x23f3, 1⟩, ⟨0x23f8, 0x23fa, 1⟩, ⟨0x24c2, 0x24c2, 1⟩,
   ⟨0x25aa, 0x25ab, 1⟩, ⟨0x25b6, 0x25b6, 1⟩, ⟨0x25c0, 0x25c0, 1⟩, ⟨0x25fb, 0x25fe, 1⟩,
   ⟨0x2600, 0x2604, 1⟩, ⟨0x260e, 0x260e, 1⟩, ⟨0x2611, 0x2611, 1⟩, ⟨0x2614, 0x2615, 1⟩,
   ⟨0x2618, 0x2618, 1⟩, ⟨0x261d, 0x261d, 1⟩, ⟨0x2620, 0x2622, 2⟩, ⟨0x2623, 0x2623, 1⟩,
   ⟨0x2626, 0x2626, 1⟩, ⟨0x262a, 0x262a, 1⟩, ⟨0x262e, 0x262f, 1⟩, ⟨0x2638, 0x263a, 1⟩,
   ⟨0x2640, 0x2642, 2⟩, ⟨0x2648, 0x2653, 1⟩, ⟨0x265f, 0x2660, 1⟩, ⟨0x2663, 0x2665, 2⟩,
   ⟨0x2666, 0x2668, 2⟩, ⟨0x267b, 0x267b, 1⟩, ⟨0x267e, 0x267f, 1⟩, ⟨0x2692, 0x2697, 1⟩,
   ⟨0x2699, 0x269b, 2⟩, ⟨0x269c, 0x269c, 1⟩, ⟨0x26a0, 0x26a1, 1⟩, ⟨0x26a7, 0x26a7, 1⟩,
   ⟨0x26aa, 0x26ab, 1⟩, ⟨0x26b0, 0x26b1, 1⟩, ⟨0x26bd, 0x26be, 1⟩, ⟨0x26c4, 0x26c5, 1⟩,
   ⟨0x26c8, 0x26c8, 1⟩, ⟨0x26ce, 0x26cf, 1⟩, ⟨0x26d1, 0x26d3, 2⟩, ⟨0x26d4, 0x26d4, 1⟩,
   ⟨0x26e9, 0x26ea, 1⟩, ⟨0x26f0, 0x26f5, 1⟩, ⟨0x26f7, 0x26fa, 1⟩, ⟨0x26fd, 0x26fd, 1⟩,
   ⟨0x2702, 0x2702, 1⟩, ⟨0x2705, 0x2705, 1⟩, ⟨0x2708, 0x270d, 1⟩, ⟨0x270f, 0x270f, 1⟩,
   ⟨0x2712, 0x2716, 2⟩, ⟨0x271d, 0x271d, 1⟩, ⟨0x2721, 0x2721, 1⟩, ⟨0x2728, 0x2728, 1⟩,
   ⟨0x2733, 0x2734, 1⟩, ⟨0x2744, 0x2744, 1⟩, ⟨0x2747, 0x2747, 1⟩, ⟨0x274c, 0x274e, 2⟩,
   ⟨0x2753, 0x2755, 1⟩, ⟨0x2757, 0x2757, 1⟩, ⟨0x2763, 0x2764, 1⟩, ⟨0x2795, 0x2797, 1⟩,
   ⟨0x27a1, 0x27a1, 1⟩, ⟨0x27b0, 0x27b0, 1⟩, ⟨0x27bf, 0x27bf, 1⟩, ⟨0x2934, 0x2935, 1⟩,
   ⟨0x2b05, 0x2b07, 1⟩, ⟨0x2b1b, 0x2b1c, 1⟩, ⟨0x2b50, 0x2b50, 1⟩, ⟨0x2b55, 0x2b55, 1⟩,
   ⟨0x3030, 0x3030, 1⟩, ⟨0x303d, 0x303d, 1⟩, ⟨0x3297, 0x3299, 2⟩, ⟨0x1f004, 0x1f004, 1⟩,
   ⟨0x1f0cf, 0x1f0cf, 1⟩, ⟨0x1f170, 0x1f171, 1⟩, ⟨0x1f17e, 0x1f17f, 1⟩, ⟨0x1f18e, 0x1f18e, 1⟩,
   ⟨0x1f191, 0x1f19a, 1⟩, ⟨0x1f1e6, 0x1f1ff, 1⟩, ⟨0x1f201, 0x1f202, 1⟩, ⟨0x1f21a, 0x1f21a, 1⟩,
   ⟨0x1f22f, 0x1f22f, 1⟩, ⟨0x1f232, 0x1f23a, 1⟩, ⟨0x1f250, 0x1f251, 1⟩, ⟨0x1f300, 0x1f321, 1⟩,
   ⟨0x1f324, 0x1f393, 1⟩, ⟨0x1f396, 0x1f397, 1⟩, ⟨0x1f399, 0x1f39b, 1⟩, ⟨0x1f39e, 0x1f3f0, 1⟩,
   ⟨0x1f3f3, 0x1f53d, 2⟩, ⟨0x1f3f4, 0x1f3f4, 1⟩, ⟨0x1f3f8, 0x1f4fc, 2⟩, ⟨0x1f500, 0x1f53c, 2⟩,
   ⟨0x1f549, 0x1f54e, 1⟩, ⟨0x1f550, 0x1f567, 1⟩, ⟨0x1f56f, 0x1f570, 1⟩, ⟨0x1f573, 0x1f57a, 1⟩,
   ⟨0x1f587, 0x1f587, 1⟩, ⟨0x1f58a, 0x1f58d, 1⟩, ⟨0x1f590, 0x1f590, 1⟩, ⟨0x1f595, 0x1f596, 1⟩,
   ⟨0x1f5a4, 0x1f5a5, 1⟩, ⟨0x1f5a8, 0x1f5a8, 1⟩, ⟨0x1f5b1, 0x1f5b2, 1⟩, ⟨0x1f5bc, 0x1f5bc, 1⟩,
   ⟨0x1f5c2, 0x1f5c4, 1⟩, ⟨0x1f5d1, 0x1f5d3, 1⟩, ⟨0x1f5dc, 0x1f5de, 1⟩, ⟨0x1f5e1, 0x1f5e3, 2⟩,
   ⟨0x1f5e8, 0x1f5e8, 1⟩, ⟨0x1f5ef, 0x1f5ef, 1⟩, ⟨0x1f5f3, 0x1f5f3, 1⟩, ⟨0x1f5fa, 0x1f64f, 1⟩,
   ⟨0x1f680, 0x1f6c5, 1⟩, ⟨0x1f6cb, 0x1f6d2, 1⟩, ⟨0x1f6d5, 0x1f6d7, 1⟩, ⟨0x1f6dc, 0x1f6e5, 1⟩,
   ⟨0x1f6e9, 0x1f6eb, 2⟩, ⟨0x1f6ec, 0x1f6ec, 1⟩, ⟨0x1f6f0, 0x1f6f0, 1⟩, ⟨0x1f6f3, 0x1f6fc, 1⟩,
   ⟨0x1f7e0, 0x1f7eb, 1⟩, ⟨0x1f7f0, 0x1f7f0, 1⟩, ⟨0x1f90c, 0x1f93a, 1⟩, ⟨0x1f93c, 0x1f945, 1⟩,
   ⟨0x1f947, 0x1f9ff, 1⟩, ⟨0x1fa70, 0x1fa7c, 1⟩, ⟨0x1fa80, 0x1fa89, 1⟩, ⟨0x1fa8f, 0x1fac6, 1⟩,
   ⟨0x1face, 0x1fadc, 1⟩, ⟨0x1fadf, 0x1fae9, 1⟩, ⟨0x1faf0, 0x1faf8, 1⟩]

def emojiPresentation : Class := .spans
  [⟨0x231a, 0x231b, 1⟩, ⟨0x23e9, 0x23ec, 1⟩, ⟨0x23f0, 0x23f0, 1⟩, ⟨0x23f3, 0x23f3, 1⟩,
   ⟨0x25fd, 0x25fe, 1⟩, ⟨0x2614, 0x2615, 1⟩, ⟨0x2648, 0x2653, 1⟩, ⟨0x267f, 0x267f, 1⟩,
   ⟨0x2693, 0x2693, 1⟩, ⟨0x26a1, 0x26a1, 1⟩, ⟨0x26aa, 0x26ab, 1⟩, ⟨0x26bd, 0x26be, 1⟩,
   ⟨0x26c4, 0x26c5, 1⟩, ⟨0x26ce, 0x26ce, 1⟩, ⟨0x26d4, 0x26d4, 1⟩, ⟨0x26ea, 0x26ea, 1⟩,
   ⟨0x26f2, 0x26f3, 1⟩, ⟨0x26f5, 0x26f5, 1⟩, ⟨0x26fa, 0x26fa, 1⟩, ⟨0x26fd, 0x26fd, 1⟩,
   ⟨0x2705, 0x2705, 1⟩, ⟨0x270a, 0x270b, 1⟩, ⟨0x2728, 0x2728, 1⟩, ⟨0x274c, 0x274e, 2⟩,
   ⟨0x2753, 0x2755, 1⟩, ⟨0x2757, 0x2757, 1⟩, ⟨0x2795, 0x2797, 1⟩, ⟨0x27b0, 0x27b0, 1⟩,
   ⟨0x27bf, 0x27bf, 1⟩, ⟨0x2b1b, 0x2b1c, 1⟩, ⟨0x2b50, 0x2b50, 1⟩, ⟨0x2b55, 0x2b55, 1⟩,
   ⟨0x1f004, 0x1f004, 1⟩, ⟨0x1f0cf, 0x1f0cf, 1⟩, ⟨0x1f18e, 0x1f18e, 1⟩, ⟨0x1f191, 0x1f19a, 1⟩,
   ⟨0x1f1e6, 0x1f1ff, 1⟩, ⟨0x1f201, 0x1f201, 1⟩, ⟨0x1f21a, 0x1f21a, 1⟩, ⟨0x1f22f, 0x1f22f, 1⟩,
   ⟨0x1f232, 0x1f236, 1⟩, ⟨0x1f238, 0x1f23a, 1⟩, ⟨0x1f250, 0x1f251, 1⟩, ⟨0x1f300, 0x1f320, 1⟩,
   ⟨0x1f32d, 0x1f37b, 2⟩, ⟨0x1f32e, 0x1f334, 2⟩, ⟨0x1f338, 0x1f392, 2⟩, ⟨0x1f37f, 0x1f393, 2⟩,
   ⟨0x1f3a0, 0x1f3ca, 1⟩, ⟨0x1f3cf, 0x1f3d3, 1⟩, ⟨0x1f3e0, 0x1f3f0, 1⟩, ⟨0x1f3f4, 0x1f3f4, 1⟩,
   ⟨0x1f3f8, 0x1f4fc, 2⟩, ⟨0x1f3f9, 0x1f43d, 2⟩, ⟨0x1f443, 0x1f4fb, 2⟩, ⟨0x1f4ff, 0x1f53d, 1⟩,
   ⟨0x1f54b, 0x1f54e, 1⟩, ⟨0x1f550, 0x1f567, 1⟩, ⟨0x1f57a, 0x1f57a, 1⟩, ⟨0x1f595, 0x1f596, 1⟩,
   ⟨0x1f5a4, 0x1f5a4, 1⟩, ⟨0x1f5fb, 0x1f64f, 1⟩, ⟨0x1f680, 0x1f6c5, 1⟩, ⟨0x1f6cc, 0x1f6cc, 1⟩,
   ⟨0x1f6d0, 0x1f6d2, 1⟩, ⟨0x1f6d5, 0x1f6d7, 1⟩, ⟨0x1f6dc, 0x1f6df, 1⟩, ⟨0x1f6eb, 0x1f6ec, 1⟩,
   ⟨0x1f6f4, 0x1f6fc, 1⟩, ⟨0x1f7e0, 0x1f7eb, 1⟩, ⟨0x1f7f0, 0x1f7f0, 1⟩, ⟨0x1f90c, 0x1f93a, 1⟩,
   ⟨0x1f93c, 0x1f945, 1⟩, ⟨0x1f947, 0x1f9ff, 1⟩, ⟨0x1fa70, 0x1fa7c, 1⟩, ⟨0x1fa80, 0x1fa89, 1⟩,
   ⟨0x1fa8f, 0x1fac6, 1⟩, ⟨0x1face, 0x1fadc, 1⟩, ⟨0x1fadf, 0x1fae9, 1⟩, ⟨0x1faf0, 0x1faf8, 1⟩]

def emojiModifier : Class := .spans [⟨0x1f3fb, 0x1f3ff, 1⟩]

def emojiModifierBase : Class := .spans
  [⟨0x261d, 0x261d, 1⟩, ⟨0x26f9, 0x26f9, 1⟩, ⟨0x270a, 0x270d, 1⟩, ⟨0x1f385, 0x1f385, 1⟩,
   ⟨0x1f3c2, 0x1f3c4, 1⟩, ⟨0x1f3c7, 0x1f3c7, 1⟩, ⟨0x1f3ca, 0x1f3cc, 1⟩, ⟨0x1f442, 0x1f443, 1⟩,
   ⟨0x1f446, 0x1f450, 1⟩, ⟨0x1f466, 0x1f478, 1⟩, ⟨0x1f47c, 0x1f47c, 1⟩, ⟨0x1f481, 0x1f487, 2⟩,
   ⟨0x1f482, 0x1f482, 1⟩, ⟨0x1f486, 0x1f486, 1⟩, ⟨0x1f48f, 0x1f491, 2⟩, ⟨0x1f4aa, 0x1f4aa, 1⟩,
   ⟨0x1f574, 0x1f575, 1⟩, ⟨0x1f57a, 0x1f57a, 1⟩, ⟨0x1f590, 0x1f590, 1⟩, ⟨0x1f595, 0x1f596, 1⟩,
   ⟨0x1f645, 0x1f647, 1⟩, ⟨0x1f64b, 0x1f64f, 1⟩, ⟨0x1f6a3, 0x1f6a3, 1⟩, ⟨0x1f6b4, 0x1f6b6, 1⟩,
   ⟨0x1f6c0, 0x1f6c0, 1⟩, ⟨0x1f6cc, 0x1f6cc, 1⟩, ⟨0x1f90c, 0x1f90c, 1⟩, ⟨0x1f90f, 0x1f90f, 1⟩,
   ⟨0x1f918, 0x1f91f, 1⟩, ⟨0x1f926, 0x1f926, 1⟩, ⟨0x1f930, 0x1f939, 1⟩, ⟨0x1f93c, 0x1f93e, 1⟩,
   ⟨0x1f977, 0x1f977, 1⟩, ⟨0x1f9b5, 0x1f9b6, 1⟩, ⟨0x1f9b8, 0x1f9b9, 1⟩, ⟨0x1f9bb, 0x1f9bb, 1⟩,
   ⟨0x1f9cd, 0x1f9dd, 2⟩, ⟨0x1f9ce, 0x1f9ce, 1⟩, ⟨0x1f9d2, 0x1f9dc, 2⟩, ⟨0x1fac3, 0x1fac5, 1⟩,
   ⟨0x1faf0, 0x1faf8, 1⟩]

def emojiComponent : Class := .spans
  [⟨0x23, 0x23, 1⟩, ⟨0x2a, 0x2a, 1⟩, ⟨0x30, 0x39, 1⟩, ⟨0x200d, 0x200d, 1⟩, ⟨0x20e3, 0x20e3, 1⟩,
   ⟨0xfe0f, 0xfe0f, 1⟩, ⟨0x1f1e6, 0x1f1ff, 1⟩, ⟨0x1f3fb, 0x1f3ff, 1⟩, ⟨0x1f9b0, 0x1f9b3, 1⟩,
   ⟨0xe0020, 0xe007f, 1⟩]

def extendedPictographic : Class := .spans
  [⟨0xa9, 0xa9, 1⟩, ⟨0xae, 0xae, 1⟩, ⟨0x203c, 0x203c, 1⟩, ⟨0x2049, 0x2049, 1⟩, ⟨0x2122, 0x2122, 1⟩,
   ⟨0x2139, 0x2139, 1⟩, ⟨0x2194, 0x2199, 1⟩, ⟨0x21a9, 0x21aa, 1⟩, ⟨0x231a, 0x231b, 1⟩,
   ⟨0x2328, 0x2328, 1⟩, ⟨0x2388, 0x2388, 1⟩, ⟨0x23cf, 0x23cf, 1⟩, ⟨0x23e9, 0x23f3, 1⟩,
   ⟨0x23f8, 0x23fa, 1⟩, ⟨0x24c2, 0x24c2, 1⟩, ⟨0x25aa, 0x25ab, 1⟩, ⟨0x25b6, 0x25b6, 1⟩,
   ⟨0x25c0, 0x25c0, 1⟩, ⟨0x25fb, 0x25fe, 1⟩, ⟨0x2600, 0x2605, 1⟩, ⟨0x2607, 0x2612, 1⟩,
   ⟨0x2614, 0x2685, 1⟩, ⟨0x2690, 0x2705, 1⟩, ⟨0x2708, 0x2712, 1⟩, ⟨0x2714, 0x2716, 2⟩,
   ⟨0x271d, 0x271d, 1⟩, ⟨0x2721, 0x2721, 1⟩, ⟨0x2728, 0x2728, 1⟩, ⟨0x2733, 0x2734, 1⟩,
   ⟨0x2744, 0x2744, 1⟩, ⟨0x2747, 0x2747, 1⟩, ⟨0x274c, 0x274e, 2⟩, ⟨0x2753, 0x2755, 1⟩,
   ⟨0x2757, 0x2757, 1⟩, ⟨0x2763, 0x2767, 1⟩, ⟨0x2795, 0x2797, 1⟩, ⟨0x27a1, 0x27a1, 1⟩,
   ⟨0x27b0, 0x27b0, 1⟩, ⟨0x27bf, 0x27bf, 1⟩, ⟨0x2934, 0x2935, 1⟩, ⟨0x2b05, 0x2b07, 1⟩,
   ⟨0x2b1b, 0x2b1c, 1⟩, ⟨0x2b50, 0x2b50, 1⟩, ⟨0x2b55, 0x2b55, 1⟩, ⟨0x3030, 0x3030, 1⟩,
   ⟨0x303d, 0x303d, 1⟩, ⟨0x3297, 0x3299, 2⟩, ⟨0x1f000, 0x1f0ff, 1⟩, ⟨0x1f10d, 0x1f10f, 1⟩,
   ⟨0x1f12f, 0x1f12f, 1⟩, ⟨0x1f16c, 0x1f171, 1⟩, ⟨0x1f17e, 0x1f17f, 1⟩, ⟨0x1f18e, 0x1f18e, 1⟩,
   ⟨0x1f191, 0x1f19a, 1⟩, ⟨0x1f1ad, 0x1f1e5, 1⟩, ⟨0x1f201, 0x1f20f, 1⟩, ⟨0x1f21a, 0x1f21a, 1⟩,
   ⟨0x1f22f, 0x1f22f, 1⟩, ⟨0x1f232, 0x1f23a, 1⟩, ⟨0x1f23c, 0x1f23f, 1⟩, ⟨0x1f249, 0x1f3fa, 1⟩,
   ⟨0x1f400, 0x1f53d, 1⟩, ⟨0x1f546, 0x1f64f, 1⟩, ⟨0x1f680, 0x1f6ff, 1⟩, ⟨0x1f774, 0x1f77f, 1⟩,
   ⟨0x1f7d5, 0x1f7ff, 1⟩, ⟨0x1f80c, 0x1f80f, 1⟩, ⟨0x1f848, 0x1f84f, 1⟩, ⟨0x1f85a, 0x1f85f, 1⟩,
   ⟨0x1f888, 0x1f88f, 1⟩, ⟨0x1f8ae, 0x1f8ff, 1⟩, ⟨0x1f90c, 0x1f93a, 1⟩, ⟨0x1f93c, 0x1f945, 1⟩,
   ⟨0x1f947, 0x1faff, 1⟩, ⟨0x1fc00, 0x1fffd, 1⟩]

def regionalIndicator : Class := .spans [⟨0x1f1e6, 0x1f1ff, 1⟩]

end ResourceQuery.Unicode
