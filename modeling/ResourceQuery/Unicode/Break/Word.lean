import ResourceQuery.Unicode.CaseIgnorable
import ResourceQuery.Unicode.Property.Display
import ResourceQuery.Unicode.Property.Emoji
import ResourceQuery.Unicode.Property.Grapheme
import ResourceQuery.Unicode.Property.Ideograph
import ResourceQuery.Unicode.Script.EastAsia
import ResourceQuery.Unicode.Script.NearEast
import ResourceQuery.Unicode.Script.SouthAsia
import ResourceQuery.Unicode.Script.SoutheastAsia

namespace ResourceQuery.Unicode

namespace WordBreak

def extend : Class := graphemeExtend ∪ spacingMark ∪ emojiModifier

def format : Class :=
  Unicode.format \ (prependedConcatenationMark ∪ .spans [⟨0x200b, 0x200d, 1⟩] ∪ graphemeExtend)

def katakana : Class :=
  Script.katakana.chars ∪ .spans
    [⟨0x3031, 0x3035, 1⟩, ⟨0x309b, 0x309c, 1⟩, ⟨0x30a0, 0x30fc, 92⟩, ⟨0xff70, 0xff70, 1⟩]

def hebrewLetter : Class := Script.hebrew.chars \ (mark ∪ punctuation ∪ symbol)

def unspaced : Class :=
  Script.thai.chars ∪ Script.lao.chars ∪ Script.myanmar.chars ∪ Script.khmer.chars ∪
    Script.taiLe.chars ∪ Script.newTaiLue.chars ∪ Script.taiTham.chars ∪ Script.taiViet.chars ∪
    Script.ahom.chars

def letterLike : Class := .spans
  [⟨0x2c2, 0x2c5, 1⟩, ⟨0x2d2, 0x2d7, 1⟩, ⟨0x2de, 0x2df, 1⟩, ⟨0x2e5, 0x2ff, 2⟩, ⟨0x2e6, 0x2ea, 2⟩,
   ⟨0x2f0, 0x2fe, 2⟩, ⟨0x55a, 0x55c, 1⟩, ⟨0x55e, 0x55e, 1⟩, ⟨0x58a, 0x58a, 1⟩, ⟨0x5f3, 0x5f3, 1⟩,
   ⟨0x70f, 0x70f, 1⟩, ⟨0xa708, 0xa716, 1⟩, ⟨0xa720, 0xa721, 1⟩, ⟨0xa789, 0xa78a, 1⟩,
   ⟨0xab5b, 0xab5b, 1⟩]

def letter : Class :=
  (alphabetic ∪ letterLike) \
    (ideographic ∪ katakana ∪ Script.hiragana.chars ∪ hebrewLetter ∪ extend ∪ unspaced)

def numeric : Class :=
  decimalNumber ∪ (prependedConcatenationMark \ .spans [⟨0x70f, 0x70f, 1⟩]) ∪
    .spans [⟨0x66b, 0x66b, 1⟩, ⟨0x19da, 0x19da, 1⟩]

def midNum : Class := .spans
  [⟨0x2c, 0x2c, 1⟩, ⟨0x3b, 0x3b, 1⟩, ⟨0x37e, 0x37e, 1⟩, ⟨0x589, 0x589, 1⟩, ⟨0x60c, 0x60d, 1⟩,
   ⟨0x66c, 0x66c, 1⟩, ⟨0x7f8, 0x7f8, 1⟩, ⟨0x2044, 0x2044, 1⟩, ⟨0xfe50, 0xfe50, 1⟩,
   ⟨0xfe54, 0xfe54, 1⟩, ⟨0xff0c, 0xff0c, 1⟩, ⟨0xff1b, 0xff1b, 1⟩]

def joinNumLet : Class := connectorPunctuation ∪ .spans [⟨0x202f, 0x202f, 1⟩]

def segmentSpace : Class :=
  spaceSeparator \ .spans [⟨0xa0, 0xa0, 1⟩, ⟨0x2007, 0x2007, 1⟩, ⟨0x202f, 0x202f, 1⟩]

def newline : Class := .spans [⟨0xb, 0xc, 1⟩, ⟨0x85, 0x85, 1⟩, ⟨0x2028, 0x2029, 1⟩]

def kinds : List (List String × Class) :=
  [(["cr"], .spans [⟨0xd, 0xd, 1⟩]),
   (["lf"], .spans [⟨0xa, 0xa, 1⟩]),
   (["newline", "nl"], newline),
   (["extend"], extend),
   (["zwj"], .spans [⟨0x200d, 0x200d, 1⟩]),
   (["format", "fo"], format),
   (["katakana", "ka"], katakana),
   (["hebrewletter", "hl"], hebrewLetter),
   (["aletter", "le"], letter),
   (["singlequote", "sq"], singleQuote),
   (["doublequote", "dq"], .spans [⟨0x22, 0x22, 1⟩]),
   (["midnumlet", "mb"], midNumLet),
   (["midletter", "ml"], midLetter),
   (["midnum", "mn"], midNum),
   (["numeric", "nu"], numeric),
   (["extendnumlet", "ex"], joinNumLet),
   (["regionalindicator", "ri"], regionalIndicator),
   (["wsegspace"], segmentSpace)]

end WordBreak

end ResourceQuery.Unicode
