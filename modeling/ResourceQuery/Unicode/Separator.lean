import ResourceQuery.Unicode.Class

namespace ResourceQuery.Unicode

def spaceSeparator : Class := .spans
  [⟨0x20, 0x20, 1⟩, ⟨0xa0, 0xa0, 1⟩, ⟨0x1680, 0x1680, 1⟩, ⟨0x2000, 0x200a, 1⟩, ⟨0x202f, 0x202f, 1⟩,
   ⟨0x205f, 0x205f, 1⟩, ⟨0x3000, 0x3000, 1⟩]

def lineSeparator : Class := .spans [⟨0x2028, 0x2028, 1⟩]

def paragraphSeparator : Class := .spans [⟨0x2029, 0x2029, 1⟩]

def control : Class := .spans [⟨0x0, 0x1f, 1⟩, ⟨0x7f, 0x9f, 1⟩]

def format : Class := .spans
  [⟨0xad, 0xad, 1⟩, ⟨0x600, 0x605, 1⟩, ⟨0x61c, 0x61c, 1⟩, ⟨0x6dd, 0x6dd, 1⟩, ⟨0x70f, 0x70f, 1⟩,
   ⟨0x890, 0x891, 1⟩, ⟨0x8e2, 0x8e2, 1⟩, ⟨0x180e, 0x180e, 1⟩, ⟨0x200b, 0x200f, 1⟩,
   ⟨0x202a, 0x202e, 1⟩, ⟨0x2060, 0x206e, 2⟩, ⟨0x2061, 0x2063, 2⟩, ⟨0x2067, 0x206f, 2⟩,
   ⟨0xfeff, 0xfeff, 1⟩, ⟨0xfff9, 0xfffb, 1⟩, ⟨0x110bd, 0x110bd, 1⟩, ⟨0x110cd, 0x110cd, 1⟩,
   ⟨0x13430, 0x1343f, 1⟩, ⟨0x1bca0, 0x1bca3, 1⟩, ⟨0x1d173, 0x1d17a, 1⟩, ⟨0xe0001, 0xe0001, 1⟩,
   ⟨0xe0020, 0xe007f, 1⟩]

def privateUse : Class := .spans
  [⟨0xe000, 0xf8ff, 1⟩, ⟨0xf0000, 0xffffd, 1⟩, ⟨0x100000, 0x10fffd, 1⟩]

end ResourceQuery.Unicode
