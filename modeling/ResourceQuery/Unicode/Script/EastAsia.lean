import ResourceQuery.Unicode.Script.Basic

namespace ResourceQuery.Unicode

namespace Script

def bopomofo : Script := ⟨["bopomofo", "bopo"], .spans
  [⟨0x2ea, 0x2eb, 1⟩, ⟨0x3105, 0x312f, 1⟩, ⟨0x31a0, 0x31bf, 1⟩]⟩

def han : Script := ⟨["han", "hani"], .spans
  [⟨0x2e80, 0x2e99, 1⟩, ⟨0x2e9b, 0x2ef3, 1⟩, ⟨0x2f00, 0x2fd5, 1⟩, ⟨0x3005, 0x3007, 2⟩,
   ⟨0x3021, 0x3029, 1⟩, ⟨0x3038, 0x303b, 1⟩, ⟨0x3400, 0x4dbf, 1⟩, ⟨0x4e00, 0x9fff, 1⟩,
   ⟨0xf900, 0xfa6d, 1⟩, ⟨0xfa70, 0xfad9, 1⟩, ⟨0x16fe2, 0x16fe3, 1⟩, ⟨0x16ff0, 0x16ff1, 1⟩,
   ⟨0x20000, 0x2a6df, 1⟩, ⟨0x2a700, 0x2b739, 1⟩, ⟨0x2b740, 0x2b81d, 1⟩, ⟨0x2b820, 0x2cea1, 1⟩,
   ⟨0x2ceb0, 0x2ebe0, 1⟩, ⟨0x2ebf0, 0x2ee5d, 1⟩, ⟨0x2f800, 0x2fa1d, 1⟩, ⟨0x30000, 0x3134a, 1⟩,
   ⟨0x31350, 0x323af, 1⟩]⟩

def hangul : Script := ⟨["hangul", "hang"], .spans
  [⟨0x1100, 0x11ff, 1⟩, ⟨0x302e, 0x302f, 1⟩, ⟨0x3131, 0x318e, 1⟩, ⟨0x3200, 0x321e, 1⟩,
   ⟨0x3260, 0x327e, 1⟩, ⟨0xa960, 0xa97c, 1⟩, ⟨0xac00, 0xd7a3, 1⟩, ⟨0xd7b0, 0xd7c6, 1⟩,
   ⟨0xd7cb, 0xd7fb, 1⟩, ⟨0xffa0, 0xffbe, 1⟩, ⟨0xffc2, 0xffc7, 1⟩, ⟨0xffca, 0xffcf, 1⟩,
   ⟨0xffd2, 0xffd7, 1⟩, ⟨0xffda, 0xffdc, 1⟩]⟩

def hiragana : Script := ⟨["hiragana", "hira"], .spans
  [⟨0x3041, 0x3096, 1⟩, ⟨0x309d, 0x309f, 1⟩, ⟨0x1b001, 0x1b11f, 1⟩, ⟨0x1b132, 0x1b132, 1⟩,
   ⟨0x1b150, 0x1b152, 1⟩, ⟨0x1f200, 0x1f200, 1⟩]⟩

def katakana : Script := ⟨["katakana", "kana"], .spans
  [⟨0x30a1, 0x30fa, 1⟩, ⟨0x30fd, 0x30ff, 1⟩, ⟨0x31f0, 0x31ff, 1⟩, ⟨0x32d0, 0x3356, 2⟩,
   ⟨0x32d1, 0x32fd, 2⟩, ⟨0x3301, 0x3357, 2⟩, ⟨0xff66, 0xff6f, 1⟩, ⟨0xff71, 0xff9d, 1⟩,
   ⟨0x1aff0, 0x1aff3, 1⟩, ⟨0x1aff5, 0x1affb, 1⟩, ⟨0x1affd, 0x1affe, 1⟩, ⟨0x1b000, 0x1b000, 1⟩,
   ⟨0x1b120, 0x1b122, 1⟩, ⟨0x1b155, 0x1b155, 1⟩, ⟨0x1b164, 0x1b167, 1⟩]⟩

def khitanSmallScript : Script := ⟨["khitansmallscript", "kits"], .spans
  [⟨0x16fe4, 0x16fe4, 1⟩, ⟨0x18b00, 0x18cd5, 1⟩, ⟨0x18cff, 0x18cff, 1⟩]⟩

def lisu : Script := ⟨["lisu"], .spans [⟨0xa4d0, 0xa4ff, 1⟩, ⟨0x11fb0, 0x11fb0, 1⟩]⟩

def miao : Script := ⟨["miao", "plrd"], .spans
  [⟨0x16f00, 0x16f4a, 1⟩, ⟨0x16f4f, 0x16f87, 1⟩, ⟨0x16f8f, 0x16f9f, 1⟩]⟩

def mongolian : Script := ⟨["mongolian", "mong"], .spans
  [⟨0x1800, 0x1801, 1⟩, ⟨0x1804, 0x1818, 2⟩, ⟨0x1807, 0x1819, 2⟩, ⟨0x1820, 0x1878, 1⟩,
   ⟨0x1880, 0x18aa, 1⟩, ⟨0x11660, 0x1166c, 1⟩]⟩

def nushu : Script := ⟨["nushu", "nshu"], .spans [⟨0x16fe1, 0x16fe1, 1⟩, ⟨0x1b170, 0x1b2fb, 1⟩]⟩

def oldSogdian : Script := ⟨["oldsogdian", "sogo"], .spans [⟨0x10f00, 0x10f27, 1⟩]⟩

def oldTurkic : Script := ⟨["oldturkic", "orkh"], .spans [⟨0x10c00, 0x10c48, 1⟩]⟩

def oldUyghur : Script := ⟨["olduyghur", "ougr"], .spans [⟨0x10f70, 0x10f89, 1⟩]⟩

def sogdian : Script := ⟨["sogdian", "sogd"], .spans [⟨0x10f30, 0x10f59, 1⟩]⟩

def tangut : Script := ⟨["tangut", "tang"], .spans
  [⟨0x16fe0, 0x16fe0, 1⟩, ⟨0x17000, 0x187f7, 1⟩, ⟨0x18800, 0x18aff, 1⟩, ⟨0x18d00, 0x18d08, 1⟩]⟩

def yi : Script := ⟨["yi", "yiii"], .spans [⟨0xa000, 0xa48c, 1⟩, ⟨0xa490, 0xa4c6, 1⟩]⟩

def eastAsian : List Script :=
  [bopomofo, han, hangul, hiragana, katakana, khitanSmallScript, lisu, miao, mongolian, nushu,
   oldSogdian, oldTurkic, oldUyghur, sogdian, tangut, yi]

end Script

end ResourceQuery.Unicode
