import ResourceQuery.Unicode.Script.Basic

namespace ResourceQuery.Unicode

namespace Script

def ahom : Script := ⟨["ahom"], .spans
  [⟨0x11700, 0x1171a, 1⟩, ⟨0x1171d, 0x1172b, 1⟩, ⟨0x11730, 0x11746, 1⟩]⟩

def bengali : Script := ⟨["bengali", "beng"], .spans
  [⟨0x980, 0x983, 1⟩, ⟨0x985, 0x98c, 1⟩, ⟨0x98f, 0x990, 1⟩, ⟨0x993, 0x9a8, 1⟩, ⟨0x9aa, 0x9b0, 1⟩,
   ⟨0x9b2, 0x9b2, 1⟩, ⟨0x9b6, 0x9b9, 1⟩, ⟨0x9bc, 0x9c4, 1⟩, ⟨0x9c7, 0x9c8, 1⟩, ⟨0x9cb, 0x9ce, 1⟩,
   ⟨0x9d7, 0x9d7, 1⟩, ⟨0x9dc, 0x9dd, 1⟩, ⟨0x9df, 0x9e3, 1⟩, ⟨0x9e6, 0x9fe, 1⟩]⟩

def bhaiksuki : Script := ⟨["bhaiksuki", "bhks"], .spans
  [⟨0x11c00, 0x11c44, 2⟩, ⟨0x11c01, 0x11c07, 2⟩, ⟨0x11c0b, 0x11c35, 2⟩, ⟨0x11c39, 0x11c45, 2⟩,
   ⟨0x11c50, 0x11c6c, 1⟩]⟩

def brahmi : Script := ⟨["brahmi", "brah"], .spans
  [⟨0x11000, 0x1104d, 1⟩, ⟨0x11052, 0x11075, 1⟩, ⟨0x1107f, 0x1107f, 1⟩]⟩

def chakma : Script := ⟨["chakma", "cakm"], .spans [⟨0x11100, 0x11134, 1⟩, ⟨0x11136, 0x11147, 1⟩]⟩

def devanagari : Script := ⟨["devanagari", "deva"], .spans
  [⟨0x900, 0x950, 1⟩, ⟨0x955, 0x963, 1⟩, ⟨0x966, 0x97f, 1⟩, ⟨0xa8e0, 0xa8ff, 1⟩,
   ⟨0x11b00, 0x11b09, 1⟩]⟩

def divesAkuru : Script := ⟨["divesakuru", "diak"], .spans
  [⟨0x11900, 0x11906, 1⟩, ⟨0x11909, 0x11909, 1⟩, ⟨0x1190c, 0x11913, 1⟩, ⟨0x11915, 0x11916, 1⟩,
   ⟨0x11918, 0x11935, 1⟩, ⟨0x11937, 0x11938, 1⟩, ⟨0x1193b, 0x11946, 1⟩, ⟨0x11950, 0x11959, 1⟩]⟩

def dogra : Script := ⟨["dogra", "dogr"], .spans [⟨0x11800, 0x1183b, 1⟩]⟩

def grantha : Script := ⟨["grantha", "gran"], .spans
  [⟨0x11300, 0x11303, 1⟩, ⟨0x11305, 0x1130c, 1⟩, ⟨0x1130f, 0x11310, 1⟩, ⟨0x11313, 0x11328, 1⟩,
   ⟨0x1132a, 0x11330, 1⟩, ⟨0x11332, 0x11333, 1⟩, ⟨0x11335, 0x11339, 1⟩, ⟨0x1133c, 0x11344, 1⟩,
   ⟨0x11347, 0x11348, 1⟩, ⟨0x1134b, 0x1134d, 1⟩, ⟨0x11350, 0x11350, 1⟩, ⟨0x11357, 0x11357, 1⟩,
   ⟨0x1135d, 0x11363, 1⟩, ⟨0x11366, 0x1136c, 1⟩, ⟨0x11370, 0x11374, 1⟩]⟩

def gujarati : Script := ⟨["gujarati", "gujr"], .spans
  [⟨0xa81, 0xaa7, 2⟩, ⟨0xa82, 0xa82, 1⟩, ⟨0xa86, 0xa8c, 2⟩, ⟨0xa90, 0xa90, 1⟩, ⟨0xa94, 0xab2, 2⟩,
   ⟨0xaab, 0xaaf, 2⟩, ⟨0xab3, 0xab9, 2⟩, ⟨0xab6, 0xab8, 2⟩, ⟨0xabc, 0xac5, 1⟩, ⟨0xac7, 0xacd, 2⟩,
   ⟨0xac8, 0xac8, 1⟩, ⟨0xacc, 0xacc, 1⟩, ⟨0xad0, 0xad0, 1⟩, ⟨0xae0, 0xae3, 1⟩, ⟨0xae6, 0xaf1, 1⟩,
   ⟨0xaf9, 0xaff, 1⟩]⟩

def gunjalaGondi : Script := ⟨["gunjalagondi", "gong"], .spans
  [⟨0x11d60, 0x11d65, 1⟩, ⟨0x11d67, 0x11d68, 1⟩, ⟨0x11d6a, 0x11d8e, 1⟩, ⟨0x11d90, 0x11d91, 1⟩,
   ⟨0x11d93, 0x11d98, 1⟩, ⟨0x11da0, 0x11da9, 1⟩]⟩

def gurmukhi : Script := ⟨["gurmukhi", "guru"], .spans
  [⟨0xa01, 0xa09, 2⟩, ⟨0xa02, 0xa02, 1⟩, ⟨0xa06, 0xa0a, 2⟩, ⟨0xa0f, 0xa10, 1⟩, ⟨0xa13, 0xa28, 1⟩,
   ⟨0xa2a, 0xa30, 1⟩, ⟨0xa32, 0xa33, 1⟩, ⟨0xa35, 0xa36, 1⟩, ⟨0xa38, 0xa39, 1⟩, ⟨0xa3c, 0xa42, 2⟩,
   ⟨0xa3f, 0xa41, 2⟩, ⟨0xa47, 0xa48, 1⟩, ⟨0xa4b, 0xa4d, 1⟩, ⟨0xa51, 0xa51, 1⟩, ⟨0xa59, 0xa5c, 1⟩,
   ⟨0xa5e, 0xa5e, 1⟩, ⟨0xa66, 0xa76, 1⟩]⟩

def gurungKhema : Script := ⟨["gurungkhema", "gukh"], .spans [⟨0x16100, 0x16139, 1⟩]⟩

def hanifiRohingya : Script := ⟨["hanifirohingya", "rohg"], .spans
  [⟨0x10d00, 0x10d27, 1⟩, ⟨0x10d30, 0x10d39, 1⟩]⟩

def kaithi : Script := ⟨["kaithi", "kthi"], .spans [⟨0x11080, 0x110c2, 1⟩, ⟨0x110cd, 0x110cd, 1⟩]⟩

def kannada : Script := ⟨["kannada", "knda"], .spans
  [⟨0xc80, 0xcb2, 2⟩, ⟨0xc81, 0xc8b, 2⟩, ⟨0xc8f, 0xc8f, 1⟩, ⟨0xc93, 0xca7, 2⟩, ⟨0xcab, 0xcb9, 2⟩,
   ⟨0xcb6, 0xcb8, 2⟩, ⟨0xcbc, 0xcc4, 1⟩, ⟨0xcc6, 0xccc, 2⟩, ⟨0xcc7, 0xcc7, 1⟩, ⟨0xccb, 0xccd, 2⟩,
   ⟨0xcd5, 0xcd6, 1⟩, ⟨0xcdd, 0xcde, 1⟩, ⟨0xce0, 0xce3, 1⟩, ⟨0xce6, 0xcef, 1⟩, ⟨0xcf1, 0xcf3, 1⟩]⟩

def kharoshthi : Script := ⟨["kharoshthi", "khar"], .spans
  [⟨0x10a00, 0x10a03, 1⟩, ⟨0x10a05, 0x10a06, 1⟩, ⟨0x10a0c, 0x10a13, 1⟩, ⟨0x10a15, 0x10a35, 2⟩,
   ⟨0x10a16, 0x10a16, 1⟩, ⟨0x10a1a, 0x10a34, 2⟩, ⟨0x10a38, 0x10a3a, 1⟩, ⟨0x10a3f, 0x10a48, 1⟩,
   ⟨0x10a50, 0x10a58, 1⟩]⟩

def khojki : Script := ⟨["khojki", "khoj"], .spans [⟨0x11200, 0x11211, 1⟩, ⟨0x11213, 0x11241, 1⟩]⟩

def khudawadi : Script := ⟨["khudawadi", "sind"], .spans
  [⟨0x112b0, 0x112ea, 1⟩, ⟨0x112f0, 0x112f9, 1⟩]⟩

def kiratRai : Script := ⟨["kiratrai", "krai"], .spans [⟨0x16d40, 0x16d79, 1⟩]⟩

def lepcha : Script := ⟨["lepcha", "lepc"], .spans
  [⟨0x1c00, 0x1c37, 1⟩, ⟨0x1c3b, 0x1c49, 1⟩, ⟨0x1c4d, 0x1c4f, 1⟩]⟩

def limbu : Script := ⟨["limbu", "limb"], .spans
  [⟨0x1900, 0x191e, 1⟩, ⟨0x1920, 0x192b, 1⟩, ⟨0x1930, 0x193b, 1⟩, ⟨0x1940, 0x1940, 1⟩,
   ⟨0x1944, 0x194f, 1⟩]⟩

def mahajani : Script := ⟨["mahajani", "mahj"], .spans [⟨0x11150, 0x11176, 1⟩]⟩

def malayalam : Script := ⟨["malayalam", "mlym"], .spans
  [⟨0xd00, 0xd4e, 2⟩, ⟨0xd01, 0xd0b, 2⟩, ⟨0xd0f, 0xd0f, 1⟩, ⟨0xd13, 0xd43, 2⟩, ⟨0xd47, 0xd47, 1⟩,
   ⟨0xd4b, 0xd4f, 2⟩, ⟨0xd54, 0xd63, 1⟩, ⟨0xd66, 0xd7f, 1⟩]⟩

def marchen : Script := ⟨["marchen", "marc"], .spans
  [⟨0x11c70, 0x11c8f, 1⟩, ⟨0x11c92, 0x11ca7, 1⟩, ⟨0x11ca9, 0x11cb6, 1⟩]⟩

def masaramGondi : Script := ⟨["masaramgondi", "gonm"], .spans
  [⟨0x11d00, 0x11d06, 1⟩, ⟨0x11d08, 0x11d09, 1⟩, ⟨0x11d0b, 0x11d36, 1⟩, ⟨0x11d3a, 0x11d3c, 2⟩,
   ⟨0x11d3d, 0x11d47, 2⟩, ⟨0x11d40, 0x11d46, 2⟩, ⟨0x11d50, 0x11d59, 1⟩]⟩

def meeteiMayek : Script := ⟨["meeteimayek", "mtei"], .spans
  [⟨0xaae0, 0xaaf6, 1⟩, ⟨0xabc0, 0xabed, 1⟩, ⟨0xabf0, 0xabf9, 1⟩]⟩

def modi : Script := ⟨["modi"], .spans [⟨0x11600, 0x11644, 1⟩, ⟨0x11650, 0x11659, 1⟩]⟩

def mro : Script := ⟨["mro", "mroo"], .spans
  [⟨0x16a40, 0x16a5e, 1⟩, ⟨0x16a60, 0x16a69, 1⟩, ⟨0x16a6e, 0x16a6f, 1⟩]⟩

def multani : Script := ⟨["multani", "mult"], .spans
  [⟨0x11280, 0x11286, 1⟩, ⟨0x11288, 0x1128c, 2⟩, ⟨0x1128b, 0x112a9, 2⟩, ⟨0x11290, 0x1129c, 2⟩,
   ⟨0x112a0, 0x112a8, 2⟩]⟩

def nagMundari : Script := ⟨["nagmundari", "nagm"], .spans [⟨0x1e4d0, 0x1e4f9, 1⟩]⟩

def nandinagari : Script := ⟨["nandinagari", "nand"], .spans
  [⟨0x119a0, 0x119a7, 1⟩, ⟨0x119aa, 0x119d7, 1⟩, ⟨0x119da, 0x119e4, 1⟩]⟩

def newa : Script := ⟨["newa"], .spans [⟨0x11400, 0x1145b, 1⟩, ⟨0x1145d, 0x11461, 1⟩]⟩

def olChiki : Script := ⟨["olchiki", "olck"], .spans [⟨0x1c50, 0x1c7f, 1⟩]⟩

def olOnal : Script := ⟨["olonal", "onao"], .spans [⟨0x1e5d0, 0x1e5fa, 1⟩, ⟨0x1e5ff, 0x1e5ff, 1⟩]⟩

def oriya : Script := ⟨["oriya", "orya"], .spans
  [⟨0xb01, 0xb0b, 2⟩, ⟨0xb02, 0xb02, 1⟩, ⟨0xb06, 0xb0c, 2⟩, ⟨0xb0f, 0xb10, 1⟩, ⟨0xb13, 0xb28, 1⟩,
   ⟨0xb2a, 0xb30, 1⟩, ⟨0xb32, 0xb33, 1⟩, ⟨0xb35, 0xb39, 1⟩, ⟨0xb3c, 0xb44, 1⟩, ⟨0xb47, 0xb48, 1⟩,
   ⟨0xb4b, 0xb4d, 1⟩, ⟨0xb55, 0xb57, 1⟩, ⟨0xb5c, 0xb5d, 1⟩, ⟨0xb5f, 0xb63, 1⟩, ⟨0xb66, 0xb77, 1⟩]⟩

def phagsPa : Script := ⟨["phagspa", "phag"], .spans [⟨0xa840, 0xa877, 1⟩]⟩

def saurashtra : Script := ⟨["saurashtra", "saur"], .spans
  [⟨0xa880, 0xa8c5, 1⟩, ⟨0xa8ce, 0xa8d9, 1⟩]⟩

def sharada : Script := ⟨["sharada", "shrd"], .spans [⟨0x11180, 0x111df, 1⟩]⟩

def siddham : Script := ⟨["siddham", "sidd"], .spans [⟨0x11580, 0x115b5, 1⟩, ⟨0x115b8, 0x115dd, 1⟩]⟩

def sinhala : Script := ⟨["sinhala", "sinh"], .spans
  [⟨0xd81, 0xd95, 2⟩, ⟨0xd82, 0xd82, 1⟩, ⟨0xd86, 0xd96, 2⟩, ⟨0xd9a, 0xdb1, 1⟩, ⟨0xdb3, 0xdbb, 1⟩,
   ⟨0xdbd, 0xdbd, 1⟩, ⟨0xdc0, 0xdc6, 1⟩, ⟨0xdca, 0xdca, 1⟩, ⟨0xdcf, 0xdd4, 1⟩, ⟨0xdd6, 0xdde, 2⟩,
   ⟨0xdd9, 0xddf, 2⟩, ⟨0xde6, 0xdef, 1⟩, ⟨0xdf2, 0xdf4, 1⟩, ⟨0x111e1, 0x111f4, 1⟩]⟩

def soraSompeng : Script := ⟨["sorasompeng", "sora"], .spans
  [⟨0x110d0, 0x110e8, 1⟩, ⟨0x110f0, 0x110f9, 1⟩]⟩

def soyombo : Script := ⟨["soyombo", "soyo"], .spans [⟨0x11a50, 0x11aa2, 1⟩]⟩

def sunuwar : Script := ⟨["sunuwar", "sunu"], .spans [⟨0x11bc0, 0x11be1, 1⟩, ⟨0x11bf0, 0x11bf9, 1⟩]⟩

def sylotiNagri : Script := ⟨["sylotinagri", "sylo"], .spans [⟨0xa800, 0xa82c, 1⟩]⟩

def takri : Script := ⟨["takri", "takr"], .spans [⟨0x11680, 0x116b9, 1⟩, ⟨0x116c0, 0x116c9, 1⟩]⟩

def tamil : Script := ⟨["tamil", "taml"], .spans
  [⟨0xb82, 0xb83, 1⟩, ⟨0xb85, 0xb8a, 1⟩, ⟨0xb8e, 0xb94, 2⟩, ⟨0xb8f, 0xb8f, 1⟩, ⟨0xb93, 0xb95, 2⟩,
   ⟨0xb99, 0xb9a, 1⟩, ⟨0xb9c, 0xb9e, 2⟩, ⟨0xb9f, 0xb9f, 1⟩, ⟨0xba3, 0xba4, 1⟩, ⟨0xba8, 0xbaa, 1⟩,
   ⟨0xbae, 0xbb9, 1⟩, ⟨0xbbe, 0xbc2, 1⟩, ⟨0xbc6, 0xbcc, 2⟩, ⟨0xbc7, 0xbc7, 1⟩, ⟨0xbcb, 0xbcd, 2⟩,
   ⟨0xbd0, 0xbd0, 1⟩, ⟨0xbd7, 0xbd7, 1⟩, ⟨0xbe6, 0xbfa, 1⟩, ⟨0x11fc0, 0x11ff1, 1⟩,
   ⟨0x11fff, 0x11fff, 1⟩]⟩

def tangsa : Script := ⟨["tangsa", "tnsa"], .spans [⟨0x16a70, 0x16abe, 1⟩, ⟨0x16ac0, 0x16ac9, 1⟩]⟩

def telugu : Script := ⟨["telugu", "telu"], .spans
  [⟨0xc00, 0xc38, 2⟩, ⟨0xc01, 0xc0b, 2⟩, ⟨0xc0f, 0xc0f, 1⟩, ⟨0xc13, 0xc27, 2⟩, ⟨0xc2b, 0xc39, 2⟩,
   ⟨0xc3c, 0xc44, 1⟩, ⟨0xc46, 0xc4c, 2⟩, ⟨0xc47, 0xc47, 1⟩, ⟨0xc4b, 0xc4d, 2⟩, ⟨0xc55, 0xc56, 1⟩,
   ⟨0xc58, 0xc5a, 1⟩, ⟨0xc5d, 0xc5d, 1⟩, ⟨0xc60, 0xc63, 1⟩, ⟨0xc66, 0xc6f, 1⟩, ⟨0xc77, 0xc7f, 1⟩]⟩

def thaana : Script := ⟨["thaana", "thaa"], .spans [⟨0x780, 0x7b1, 1⟩]⟩

def tibetan : Script := ⟨["tibetan", "tibt"], .spans
  [⟨0xf00, 0xf47, 1⟩, ⟨0xf49, 0xf6c, 1⟩, ⟨0xf71, 0xf97, 1⟩, ⟨0xf99, 0xfbc, 1⟩, ⟨0xfbe, 0xfcc, 1⟩,
   ⟨0xfce, 0xfd4, 1⟩, ⟨0xfd9, 0xfda, 1⟩]⟩

def tirhuta : Script := ⟨["tirhuta", "tirh"], .spans [⟨0x11480, 0x114c7, 1⟩, ⟨0x114d0, 0x114d9, 1⟩]⟩

def toto : Script := ⟨["toto"], .spans [⟨0x1e290, 0x1e2ae, 1⟩]⟩

def tuluTigalari : Script := ⟨["tulutigalari", "tutg"], .spans
  [⟨0x11380, 0x11389, 1⟩, ⟨0x1138b, 0x1138b, 1⟩, ⟨0x1138e, 0x113b4, 2⟩, ⟨0x11391, 0x113bf, 2⟩,
   ⟨0x113b8, 0x113c2, 2⟩, ⟨0x113c5, 0x113c9, 2⟩, ⟨0x113c8, 0x113d4, 2⟩, ⟨0x113cd, 0x113d7, 2⟩,
   ⟨0x113d8, 0x113d8, 1⟩, ⟨0x113e1, 0x113e2, 1⟩]⟩

def wancho : Script := ⟨["wancho", "wcho"], .spans [⟨0x1e2c0, 0x1e2f9, 1⟩, ⟨0x1e2ff, 0x1e2ff, 1⟩]⟩

def warangCiti : Script := ⟨["warangciti", "wara"], .spans
  [⟨0x118a0, 0x118f2, 1⟩, ⟨0x118ff, 0x118ff, 1⟩]⟩

def zanabazarSquare : Script := ⟨["zanabazarsquare", "zanb"], .spans [⟨0x11a00, 0x11a47, 1⟩]⟩

def southAsian : List Script :=
  [ahom, bengali, bhaiksuki, brahmi, chakma, devanagari, divesAkuru, dogra, grantha, gujarati,
   gunjalaGondi, gurmukhi, gurungKhema, hanifiRohingya, kaithi, kannada, kharoshthi, khojki,
   khudawadi, kiratRai, lepcha, limbu, mahajani, malayalam, marchen, masaramGondi, meeteiMayek,
   modi, mro, multani, nagMundari, nandinagari, newa, olChiki, olOnal, oriya, phagsPa, saurashtra,
   sharada, siddham, sinhala, soraSompeng, soyombo, sunuwar, sylotiNagri, takri, tamil, tangsa,
   telugu, thaana, tibetan, tirhuta, toto, tuluTigalari, wancho, warangCiti, zanabazarSquare]

end Script

end ResourceQuery.Unicode
