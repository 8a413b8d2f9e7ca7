import ResourceQuery.Unicode.Property.Display
import ResourceQuery.Unicode.Property.Emoji
import ResourceQuery.Unicode.Property.Grapheme

namespace ResourceQuery.Unicode

namespace GraphemeBreak

def control : Class :=
  (Unicode.control ∪ format ∪ lineSeparator ∪ paragraphSeparator ∪
      (defaultIgnorable \ assigned)) \
    (.spans [⟨0xa, 0xd, 3⟩] ∪ joinControl ∪ prependedConcatenationMark ∪ graphemeExtend)

def extend : Class := graphemeExtend ∪ emojiModifier

def otherPrepend : Class := .spans
  [⟨0xd4e, 0xd4e, 1⟩, ⟨0x111c2, 0x111c3, 1⟩, ⟨0x113d1, 0x113d1, 1⟩, ⟨0x1193f, 0x11941, 2⟩,
   ⟨0x11a3a, 0x11a3a, 1⟩, ⟨0x11a84, 0x11a89, 1⟩, ⟨0x11d46, 0x11d46, 1⟩, ⟨0x11f02, 0x11f02, 1⟩]

def prepend : Class := prependedConcatenationMark ∪ otherPrepend

def apart : Class := .spans
  [⟨0x102b, 0x102c, 1⟩, ⟨0x1038, 0x1038, 1⟩, ⟨0x1062, 0x1064, 1⟩, ⟨0x1067, 0x106d, 1⟩,
   ⟨0x1083, 0x1083, 1⟩, ⟨0x1087, 0x108c, 1⟩, ⟨0x108f, 0x108f, 1⟩, ⟨0x109a, 0x109c, 1⟩,
   ⟨0x1a61, 0x1a63, 2⟩, ⟨0x1a64, 0x1a64, 1⟩, ⟨0xaa7b, 0xaa7d, 2⟩, ⟨0x11720, 0x11721, 1⟩]

def spacingMark : Class :=
  (Unicode.spacingMark \ (extend ∪ apart)) ∪ .spans [⟨0xe33, 0xeb3, 128⟩]

def leading : Class := .spans [⟨0x1100, 0x115f, 1⟩, ⟨0xa960, 0xa97c, 1⟩]

def vowel : Class := .spans
  [⟨0x1160, 0x11a7, 1⟩, ⟨0xd7b0, 0xd7c6, 1⟩, ⟨0x16d63, 0x16d63, 1⟩, ⟨0x16d67, 0x16d6a, 1⟩]

def trailing : Class := .spans [⟨0x11a8, 0x11ff, 1⟩, ⟨0xd7cb, 0xd7fb, 1⟩]

def openSyllable : Class := .spans [⟨0xac00, 0xd788, 28⟩]

def closedSyllable : Class := .spans [⟨0xac00, 0xd7a3, 1⟩] \ openSyllable

def kinds : List (List String × Class) :=
  [(["cr"], .spans [⟨0xd, 0xd, 1⟩]),
   (["lf"], .spans [⟨0xa, 0xa, 1⟩]),
   (["control", "cn"], control),
   (["extend", "ex"], extend),
   (["zwj"], .spans [⟨0x200d, 0x200d, 1⟩]),
   (["prepend", "pp"], prepend),
   (["spacingmark", "sm"], spacingMark),
   (["regionalindicator", "ri"], regionalIndicator),
   (["l"], leading),
   (["v"], vowel),
   (["t"], trailing),
   (["lv"], openSyllable),
   (["lvt"], closedSyllable)]

end GraphemeBreak

end ResourceQuery.Unicode
