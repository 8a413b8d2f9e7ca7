import ResourceQuery.Unicode.Script.Basic

namespace ResourceQuery.Unicode

namespace Script

def balinese : Script := ⟨["balinese", "bali"], .spans [⟨0x1b00, 0x1b4c, 1⟩, ⟨0x1b4e, 0x1b7f, 1⟩]⟩

def batak : Script := ⟨["batak", "batk"], .spans [⟨0x1bc0, 0x1bf3, 1⟩, ⟨0x1bfc, 0x1bff, 1⟩]⟩

def buginese : Script := ⟨["buginese", "bugi"], .spans [⟨0x1a00, 0x1a1b, 1⟩, ⟨0x1a1e, 0x1a1f, 1⟩]⟩

def buhid : Script := ⟨["buhid", "buhd"], .spans [⟨0x1740, 0x1753, 1⟩]⟩

def cham : Script := ⟨["cham"], .spans
  [⟨0xaa00, 0xaa36, 1⟩, ⟨0xaa40, 0xaa4d, 1⟩, ⟨0xaa50, 0xaa59, 1⟩, ⟨0xaa5c, 0xaa5f, 1⟩]⟩

def hanunoo : Script := ⟨["hanunoo", "hano"], .spans [⟨0x1720, 0x1734, 1⟩]⟩

def javanese : Script := ⟨["javanese", "java"], .spans
  [⟨0xa980, 0xa9cd, 1⟩, ⟨0xa9d0, 0xa9d9, 1⟩, ⟨0xa9de, 0xa9df, 1⟩]⟩

def kawi : Script := ⟨["kawi"], .spans
  [⟨0x11f00, 0x11f3a, 2⟩, ⟨0x11f01, 0x11f0f, 2⟩, ⟨0x11f13, 0x11f39, 2⟩, ⟨0x11f3e, 0x11f5a, 1⟩]⟩

def kayahLi : Script := ⟨["kayahli", "kali"], .spans [⟨0xa900, 0xa92d, 1⟩, ⟨0xa92f, 0xa92f, 1⟩]⟩

def khmer : Script := ⟨["khmer", "khmr"], .spans
  [⟨0x1780, 0x17dd, 1⟩, ⟨0x17e0, 0x17e9, 1⟩, ⟨0x17f0, 0x17f9, 1⟩, ⟨0x19e0, 0x19ff, 1⟩]⟩

def lao : Script := ⟨["lao", "laoo"], .spans
  [⟨0xe81, 0xe82, 1⟩, ⟨0xe84, 0xea2, 2⟩, ⟨0xe87, 0xe89, 2⟩, ⟨0xe8d, 0xebd, 2⟩, ⟨0xea8, 0xebc, 2⟩,
   ⟨0xec0, 0xed8, 2⟩, ⟨0xec1, 0xec3, 2⟩, ⟨0xec9, 0xecd, 2⟩, ⟨0xed1, 0xed9, 2⟩, ⟨0xedc, 0xedf, 1⟩]⟩

def makasar : Script := ⟨["makasar", "maka"], .spans [⟨0x11ee0, 0x11ef8, 1⟩]⟩

def myanmar : Script := ⟨["myanmar", "mymr"], .spans
  [⟨0x1000, 0x109f, 1⟩, ⟨0xa9e0, 0xa9fe, 1⟩, ⟨0xaa60, 0xaa7f, 1⟩, ⟨0x116d0, 0x116e3, 1⟩]⟩

def newTaiLue : Script := ⟨["newtailue", "talu"], .spans
  [⟨0x1980, 0x19ab, 1⟩, ⟨0x19b0, 0x19c9, 1⟩, ⟨0x19d0, 0x19da, 1⟩, ⟨0x19de, 0x19df, 1⟩]⟩

def nyiakengPuachueHmong : Script := ⟨["nyiakengpuachuehmong", "hmnp"], .spans
  [⟨0x1e100, 0x1e12c, 1⟩, ⟨0x1e130, 0x1e13d, 1⟩, ⟨0x1e140, 0x1e149, 1⟩, ⟨0x1e14e, 0x1e14f, 1⟩]⟩

def pahawhHmong : Script := ⟨["pahawhhmong", "hmng"], .spans
  [⟨0x16b00, 0x16b45, 1⟩, ⟨0x16b50, 0x16b59, 1⟩, ⟨0x16b5b, 0x16b77, 2⟩, ⟨0x16b5c, 0x16b60, 2⟩,
   ⟨0x16b64, 0x16b76, 2⟩, ⟨0x16b7d, 0x16b8f, 1⟩]⟩

def pauCinHau : Script := ⟨["paucinhau", "pauc"], .spans [⟨0x11ac0, 0x11af8, 1⟩]⟩

def rejang : Script := ⟨["rejang", "rjng"], .spans [⟨0xa930, 0xa953, 1⟩, ⟨0xa95f, 0xa95f, 1⟩]⟩

def sundanese : Script := ⟨["sundanese", "sund"], .spans [⟨0x1b80, 0x1bbf, 1⟩, ⟨0x1cc0, 0x1cc7, 1⟩]⟩

def tagalog : Script := ⟨["tagalog", "tglg"], .spans [⟨0x1700, 0x1715, 1⟩, ⟨0x171f, 0x171f, 1⟩]⟩

def tagbanwa : Script := ⟨["tagbanwa", "tagb"], .spans
  [⟨0x1760, 0x176c, 1⟩, ⟨0x176e, 0x1770, 1⟩, ⟨0x1772, 0x1773, 1⟩]⟩

def taiLe : Script := ⟨["taile", "tale"], .spans [⟨0x1950, 0x196d, 1⟩, ⟨0x1970, 0x1974, 1⟩]⟩

def taiTham : Script := ⟨["taitham", "lana"], .spans
  [⟨0x1a20, 0x1a5e, 1⟩, ⟨0x1a60, 0x1a7c, 1⟩, ⟨0x1a7f, 0x1a89, 1⟩, ⟨0x1a90, 0x1a99, 1⟩,
   ⟨0x1aa0, 0x1aad, 1⟩]⟩

def taiViet : Script := ⟨["taiviet", "tavt"], .spans [⟨0xaa80, 0xaac2, 1⟩, ⟨0xaadb, 0xaadf, 1⟩]⟩

def thai : Script := ⟨["thai"], .spans [⟨0xe01, 0xe3a, 1⟩, ⟨0xe40, 0xe5b, 1⟩]⟩

def southeastAsian : List Script :=
  [balinese, batak, buginese, buhid, cham, hanunoo, javanese, kawi, kayahLi, khmer, lao, makasar,
   myanmar, newTaiLue, nyiakengPuachueHmong, pahawhHmong, pauCinHau, rejang, sundanese, tagalog,
   tagbanwa, taiLe, taiTham, taiViet, thai]

end Script

end ResourceQuery.Unicode
