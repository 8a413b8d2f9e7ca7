import ResourceQuery.Unicode.Script.Basic

namespace ResourceQuery.Unicode

namespace Script

def adlam : Script := ⟨["adlam", "adlm"], .spans
  [⟨0x1e900, 0x1e94b, 1⟩, ⟨0x1e950, 0x1e959, 1⟩, ⟨0x1e95e, 0x1e95f, 1⟩]⟩

def bamum : Script := ⟨["bamum", "bamu"], .spans [⟨0xa6a0, 0xa6f7, 1⟩, ⟨0x16800, 0x16a38, 1⟩]⟩

def bassaVah : Script := ⟨["bassavah", "bass"], .spans
  [⟨0x16ad0, 0x16aed, 1⟩, ⟨0x16af0, 0x16af5, 1⟩]⟩

def canadianAboriginal : Script := ⟨["canadianaboriginal", "cans"], .spans
  [⟨0x1400, 0x167f, 1⟩, ⟨0x18b0, 0x18f5, 1⟩, ⟨0x11ab0, 0x11abf, 1⟩]⟩

def cherokee : Script := ⟨["cherokee", "cher"], .spans
  [⟨0x13a0, 0x13f5, 1⟩, ⟨0x13f8, 0x13fd, 1⟩, ⟨0xab70, 0xabbf, 1⟩]⟩

def deseret : Script := ⟨["deseret", "dsrt"], .spans [⟨0x10400, 0x1044f, 1⟩]⟩

def ethiopic : Script := ⟨["ethiopic", "ethi"], .spans
  [⟨0x1200, 0x1248, 1⟩, ⟨0x124a, 0x124d, 1⟩, ⟨0x1250, 0x1256, 1⟩, ⟨0x1258, 0x125c, 2⟩,
   ⟨0x125b, 0x125d, 2⟩, ⟨0x1260, 0x1288, 1⟩, ⟨0x128a, 0x128d, 1⟩, ⟨0x1290, 0x12b0, 1⟩,
   ⟨0x12b2, 0x12b5, 1⟩, ⟨0x12b8, 0x12be, 1⟩, ⟨0x12c0, 0x12c4, 2⟩, ⟨0x12c3, 0x12c5, 2⟩,
   ⟨0x12c8, 0x1314, 2⟩, ⟨0x12c9, 0x12d5, 2⟩, ⟨0x12d9, 0x130f, 2⟩, ⟨0x1313, 0x1315, 2⟩,
   ⟨0x1318, 0x135a, 1⟩, ⟨0x135d, 0x137c, 1⟩, ⟨0x1380, 0x1399, 1⟩, ⟨0x2d80, 0x2d96, 1⟩,
   ⟨0x2da0, 0x2dde, 2⟩, ⟨0x2da1, 0x2da5, 2⟩, ⟨0x2da9, 0x2dad, 2⟩, ⟨0x2db1, 0x2db5, 2⟩,
   ⟨0x2db9, 0x2dbd, 2⟩, ⟨0x2dc1, 0x2dc5, 2⟩, ⟨0x2dc9, 0x2dcd, 2⟩, ⟨0x2dd1, 0x2dd5, 2⟩,
   ⟨0x2dd9, 0x2ddd, 2⟩, ⟨0xab01, 0xab06, 1⟩, ⟨0xab09, 0xab0e, 1⟩, ⟨0xab11, 0xab16, 1⟩,
   ⟨0xab20, 0xab2e, 2⟩, ⟨0xab21, 0xab25, 2⟩, ⟨0xab29, 0xab2d, 2⟩, ⟨0x1e7e0, 0x1e7e6, 1⟩,
   ⟨0x1e7e8, 0x1e7eb, 1⟩, ⟨0x1e7ed, 0x1e7ee, 1⟩, ⟨0x1e7f0, 0x1e7fe, 1⟩]⟩

def garay : Script := ⟨["garay", "gara"], .spans
  [⟨0x10d40, 0x10d65, 1⟩, ⟨0x10d69, 0x10d85, 1⟩, ⟨0x10d8e, 0x10d8f, 1⟩]⟩

def medefaidrin : Script := ⟨["medefaidrin", "medf"], .spans [⟨0x16e40, 0x16e9a, 1⟩]⟩

def mendeKikakui : Script := ⟨["mendekikakui", "mend"], .spans
  [⟨0x1e800, 0x1e8c4, 1⟩, ⟨0x1e8c7, 0x1e8d6, 1⟩]⟩

def nko : Script := ⟨["nko", "nkoo"], .spans [⟨0x7c0, 0x7fa, 1⟩, ⟨0x7fd, 0x7ff, 1⟩]⟩

def osage : Script := ⟨["osage", "osge"], .spans [⟨0x104b0, 0x104d3, 1⟩, ⟨0x104d8, 0x104fb, 1⟩]⟩

def osmanya : Script := ⟨["osmanya", "osma"], .spans [⟨0x10480, 0x1049d, 1⟩, ⟨0x104a0, 0x104a9, 1⟩]⟩

def tifinagh : Script := ⟨["tifinagh", "tfng"], .spans
  [⟨0x2d30, 0x2d67, 1⟩, ⟨0x2d6f, 0x2d70, 1⟩, ⟨0x2d7f, 0x2d7f, 1⟩]⟩

def vai : Script := ⟨["vai", "vaii"], .spans [⟨0xa500, 0xa62b, 1⟩]⟩

def africanAndAmerican : List Script :=
  [adlam, bamum, bassaVah, canadianAboriginal, cherokee, deseret, ethiopic, garay, medefaidrin,
   mendeKikakui, nko, osage, osmanya, tifinagh, vai]

end Script

end ResourceQuery.Unicode
