import ResourceQuery.Unicode.Script.Basic

namespace ResourceQuery.Unicode

namespace Script

def anatolianHieroglyphs : Script := ⟨["anatolianhieroglyphs", "hluw"], .spans
  [⟨0x14400, 0x14646, 1⟩]⟩

def arabic : Script := ⟨["arabic", "arab"], .spans
  [⟨0x600, 0x60a, 2⟩, ⟨0x601, 0x603, 2⟩, ⟨0x607, 0x619, 2⟩, ⟨0x60e, 0x63e, 2⟩, ⟨0x61d, 0x61d, 1⟩,
   ⟨0x621, 0x649, 2⟩, ⟨0x642, 0x64a, 2⟩, ⟨0x656, 0x66f, 1⟩, ⟨0x671, 0x6dc, 1⟩, ⟨0x6de, 0x6ff, 1⟩,
   ⟨0x750, 0x77f, 1⟩, ⟨0x870, 0x88e, 1⟩, ⟨0x890, 0x891, 1⟩, ⟨0x897, 0x8e1, 1⟩, ⟨0x8e3, 0x8ff, 1⟩,
   ⟨0xfb50, 0xfbc2, 1⟩, ⟨0xfbd3, 0xfd3d, 1⟩, ⟨0xfd40, 0xfd8f, 1⟩, ⟨0xfd92, 0xfdc7, 1⟩,
   ⟨0xfdcf, 0xfdcf, 1⟩, ⟨0xfdf0, 0xfdff, 1⟩, ⟨0xfe70, 0xfefc, 2⟩, ⟨0xfe71, 0xfe73, 2⟩,
   ⟨0xfe77, 0xfefb, 2⟩, ⟨0x10e60, 0x10e7e, 1⟩, ⟨0x10ec2, 0x10ec4, 1⟩, ⟨0x10efc, 0x10eff, 1⟩,
   ⟨0x1ee00, 0x1ee03, 1⟩, ⟨0x1ee05, 0x1ee1f, 1⟩, ⟨0x1ee21, 0x1ee22, 1⟩, ⟨0x1ee24, 0x1ee24, 1⟩,
   ⟨0x1ee27, 0x1ee31, 2⟩, ⟨0x1ee2a, 0x1ee36, 2⟩, ⟨0x1ee35, 0x1ee3b, 2⟩, ⟨0x1ee42, 0x1ee42, 1⟩,
   ⟨0x1ee47, 0x1ee51, 2⟩, ⟨0x1ee4e, 0x1ee4e, 1⟩, ⟨0x1ee52, 0x1ee54, 2⟩, ⟨0x1ee57, 0x1ee61, 2⟩,
   ⟨0x1ee62, 0x1ee64, 2⟩, ⟨0x1ee67, 0x1ee6a, 1⟩, ⟨0x1ee6c, 0x1ee72, 1⟩, ⟨0x1ee74, 0x1ee77, 1⟩,
   ⟨0x1ee79, 0x1ee7c, 1⟩, ⟨0x1ee7e, 0x1ee88, 2⟩, ⟨0x1ee81, 0x1ee9b, 2⟩, ⟨0x1ee8c, 0x1ee9a, 2⟩,
   ⟨0x1eea1, 0x1eebb, 2⟩, ⟨0x1eea2, 0x1eea2, 1⟩, ⟨0x1eea6, 0x1eea8, 2⟩, ⟨0x1eeac, 0x1eeba, 2⟩,
   ⟨0x1eef0, 0x1eef1, 1⟩]⟩

def avestan : Script := ⟨["avestan", "avst"], .spans [⟨0x10b00, 0x10b35, 1⟩, ⟨0x10b39, 0x10b3f, 1⟩]⟩

def chorasmian : Script := ⟨["chorasmian", "chrs"], .spans [⟨0x10fb0, 0x10fcb, 1⟩]⟩

def cuneiform : Script := ⟨["cuneiform", "xsux"], .spans
  [⟨0x12000, 0x12399, 1⟩, ⟨0x12400, 0x1246e, 1⟩, ⟨0x12470, 0x12474, 1⟩, ⟨0x12480, 0x12543, 1⟩]⟩

def egyptianHieroglyphs : Script := ⟨["egyptianhieroglyphs", "egyp"], .spans
  [⟨0x13000, 0x13455, 1⟩, ⟨0x13460, 0x143fa, 1⟩]⟩

def elymaic : Script := ⟨["elymaic", "elym"], .spans [⟨0x10fe0, 0x10ff6, 1⟩]⟩

def hatran : Script := ⟨["hatran", "hatr"], .spans
  [⟨0x108e0, 0x108f2, 1⟩, ⟨0x108f4, 0x108f5, 1⟩, ⟨0x108fb, 0x108ff, 1⟩]⟩

def hebrew : Script := ⟨["hebrew", "hebr"], .spans
  [⟨0x591, 0x5c7, 1⟩, ⟨0x5d0, 0x5ea, 1⟩, ⟨0x5ef, 0x5f4, 1⟩, ⟨0xfb1d, 0xfb36, 1⟩,
   ⟨0xfb38, 0xfb3c, 1⟩, ⟨0xfb3e, 0xfb40, 2⟩, ⟨0xfb41, 0xfb43, 2⟩, ⟨0xfb44, 0xfb4e, 2⟩,
   ⟨0xfb47, 0xfb4f, 2⟩]⟩

def imperialAramaic : Script := ⟨["imperialaramaic", "armi"], .spans
  [⟨0x10840, 0x10855, 1⟩, ⟨0x10857, 0x1085f, 1⟩]⟩

def inscriptionalPahlavi : Script := ⟨["inscriptionalpahlavi", "phli"], .spans
  [⟨0x10b60, 0x10b72, 1⟩, ⟨0x10b78, 0x10b7f, 1⟩]⟩

def inscriptionalParthian : Script := ⟨["inscriptionalparthian", "prti"], .spans
  [⟨0x10b40, 0x10b55, 1⟩, ⟨0x10b58, 0x10b5f, 1⟩]⟩

def mandaic : Script := ⟨["mandaic", "mand"], .spans [⟨0x840, 0x85b, 1⟩, ⟨0x85e, 0x85e, 1⟩]⟩

def manichaean : Script := ⟨["manichaean", "mani"], .spans
  [⟨0x10ac0, 0x10ae6, 1⟩, ⟨0x10aeb, 0x10af6, 1⟩]⟩

def meroiticCursive : Script := ⟨["meroiticcursive", "merc"], .spans
  [⟨0x109a0, 0x109b7, 1⟩, ⟨0x109bc, 0x109cf, 1⟩, ⟨0x109d2, 0x109ff, 1⟩]⟩

def meroiticHieroglyphs : Script := ⟨["meroitichieroglyphs", "mero"], .spans
  [⟨0x10980, 0x1099f, 1⟩]⟩

def nabataean : Script := ⟨["nabataean", "nbat"], .spans
  [⟨0x10880, 0x1089e, 1⟩, ⟨0x108a7, 0x108af, 1⟩]⟩

def oldNorthArabian : Script := ⟨["oldnortharabian", "narb"], .spans [⟨0x10a80, 0x10a9f, 1⟩]⟩

def oldPersian : Script := ⟨["oldpersian", "xpeo"], .spans
  [⟨0x103a0, 0x103c3, 1⟩, ⟨0x103c8, 0x103d5, 1⟩]⟩

def oldSouthArabian : Script := ⟨["oldsoutharabian", "sarb"], .spans [⟨0x10a60, 0x10a7f, 1⟩]⟩

def palmyrene : Script := ⟨["palmyrene", "palm"], .spans [⟨0x10860, 0x1087f, 1⟩]⟩

def phoenician : Script := ⟨["phoenician", "phnx"], .spans
  [⟨0x10900, 0x1091b, 1⟩, ⟨0x1091f, 0x1091f, 1⟩]⟩

def psalterPahlavi : Script := ⟨["psalterpahlavi", "phlp"], .spans
  [⟨0x10b80, 0x10b91, 1⟩, ⟨0x10b99, 0x10b9c, 1⟩, ⟨0x10ba9, 0x10baf, 1⟩]⟩

def samaritan : Script := ⟨["samaritan", "samr"], .spans [⟨0x800, 0x82d, 1⟩, ⟨0x830, 0x83e, 1⟩]⟩

def syriac : Script := ⟨["syriac", "syrc"], .spans
  [⟨0x700, 0x70d, 1⟩, ⟨0x70f, 0x74a, 1⟩, ⟨0x74d, 0x74f, 1⟩, ⟨0x860, 0x86a, 1⟩]⟩

def ugaritic : Script := ⟨["ugaritic", "ugar"], .spans
  [⟨0x10380, 0x1039d, 1⟩, ⟨0x1039f, 0x1039f, 1⟩]⟩

def yezidi : Script := ⟨["yezidi", "yezi"], .spans
  [⟨0x10e80, 0x10ea9, 1⟩, ⟨0x10eab, 0x10ead, 1⟩, ⟨0x10eb0, 0x10eb1, 1⟩]⟩

def nearEastern : List Script :=
  [anatolianHieroglyphs, arabic, avestan, chorasmian, cuneiform, egyptianHieroglyphs, elymaic,
   hatran, hebrew, imperialAramaic, inscriptionalPahlavi, inscriptionalParthian, mandaic,
   manichaean, meroiticCursive, meroiticHieroglyphs, nabataean, oldNorthArabian, oldPersian,
   oldSouthArabian, palmyrene, phoenician, psalterPahlavi, samaritan, syriac, ugaritic, yezidi]

end Script

end ResourceQuery.Unicode
