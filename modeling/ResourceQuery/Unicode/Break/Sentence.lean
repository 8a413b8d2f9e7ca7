import ResourceQuery.Unicode.Property.Display
import ResourceQuery.Unicode.Property.Grapheme
import ResourceQuery.Unicode.Property.Sign

namespace ResourceQuery.Unicode

namespace SentenceBreak

def extend : Class := graphemeExtend ∪ spacingMark ∪ .spans [⟨0x200d, 0x200d, 1⟩]

def numberSign : Class := prependedConcatenationMark \ .spans [⟨0x70f, 0x70f, 1⟩]

def format : Class := Unicode.format \ (numberSign ∪ joinControl ∪ graphemeExtend)

def separator : Class := .spans [⟨0x85, 0x85, 1⟩, ⟨0x2028, 0x2029, 1⟩]

def space : Class := whiteSpace \ (separator ∪ .spans [⟨0xa, 0xd, 3⟩])

/-- Georgian letters have two forms, but do not mark the start of a sentence by them. -/
def lower : Class :=
  lowercase \ (graphemeExtend ∪ .spans [⟨0x10d0, 0x10fa, 1⟩, ⟨0x10fd, 0x10ff, 1⟩])

def upper : Class :=
  (uppercase ∪ titlecaseLetter) \ .spans [⟨0x1c90, 0x1cba, 1⟩, ⟨0x1cbd, 0x1cbf, 1⟩]

def otherLetter : Class :=
  (alphabetic ∪ .spans [⟨0x5f3, 0x5f3, 1⟩]) \ (lower ∪ upper ∪ extend)

def numeric : Class :=
  decimalNumber ∪ numberSign ∪ .spans [⟨0x66b, 0x66c, 1⟩, ⟨0x19da, 0x19da, 1⟩]

def fullStop : Class := .spans
  [⟨0x2e, 0x2e, 1⟩, ⟨0x2024, 0x2024, 1⟩, ⟨0xfe52, 0xfe52, 1⟩, ⟨0xff0e, 0xff0e, 1⟩]

def terminal : Class := sentenceTerminal \ fullStop

def comma : Class := .spans
  [⟨0x2c, 0x2d, 1⟩, ⟨0x3a, 0x3b, 1⟩, ⟨0x37e, 0x37e, 1⟩, ⟨0x55d, 0x55d, 1⟩, ⟨0x60c, 0x60d, 1⟩,
   ⟨0x7f8, 0x7f8, 1⟩, ⟨0x1802, 0x1802, 1⟩, ⟨0x1808, 0x1808, 1⟩, ⟨0x2013, 0x2014, 1⟩,
   ⟨0x3001, 0x3001, 1⟩, ⟨0xfe10, 0xfe11, 1⟩, ⟨0xfe13, 0xfe14, 1⟩, ⟨0xfe31, 0xfe32, 1⟩,
   ⟨0xfe50, 0xfe51, 1⟩, ⟨0xfe54, 0xfe55, 1⟩, ⟨0xfe58, 0xfe58, 1⟩, ⟨0xfe63, 0xfe63, 1⟩,
   ⟨0xff0c, 0xff0d, 1⟩, ⟨0xff1a, 0xff1b, 1⟩, ⟨0xff64, 0xff64, 1⟩]

def close : Class :=
  (openPunctuation ∪ closePunctuation ∪ initialPunctuation ∪ finalPunctuation ∪ quotationMark ∪
      .spans [⟨0x275b, 0x2760, 1⟩, ⟨0x2e00, 0x2e0d, 1⟩, ⟨0x1f676, 0x1f678, 1⟩]) \
    .spans [⟨0xff02, 0xff07, 5⟩]

def kinds : List (List String × Class) :=
  [(["cr"], .spans [⟨0xd, 0xd, 1⟩]),
   (["lf"], .spans [⟨0xa, 0xa, 1⟩]),
   (["extend", "ex"], extend),
   (["sep", "se"], separator),
   (["format", "fo"], format),
   (["sp"], space),
   (["lower", "lo"], lower),
   (["upper", "up"], upper),
   (["oletter", "le"], otherLetter),
   (["numeric", "nu"], numeric),
   (["aterm", "at"], fullStop),
   (["scontinue", "sc"], comma),
   (["sterm", "st"], terminal),
   (["close", "cl"], close)]

end SentenceBreak

end ResourceQuery.Unicode
