import ResourceQuery.Unicode.Category

namespace ResourceQuery.Unicode

def midLetter : Class := .spans
  [⟨0x3a, 0x3a, 1⟩, ⟨0xb7, 0xb7, 1⟩, ⟨0x387, 0x387, 1⟩, ⟨0x55f, 0x55f, 1⟩, ⟨0x5f4, 0x5f4, 1⟩,
   ⟨0x2027, 0x2027, 1⟩, ⟨0xfe13, 0xfe13, 1⟩, ⟨0xfe55, 0xfe55, 1⟩, ⟨0xff1a, 0xff1a, 1⟩]

def midNumLet : Class := .spans
  [⟨0x2e, 0x2e, 1⟩, ⟨0x2018, 0x2019, 1⟩, ⟨0x2024, 0x2024, 1⟩, ⟨0xfe52, 0xfe52, 1⟩,
   ⟨0xff07, 0xff0e, 7⟩]

def singleQuote : Class := .spans [⟨0x27, 0x27, 1⟩]

/-- Characters that are passed over where the case of a neighbour counts. -/
def caseIgnorable : Class :=
  nonspacingMark ∪ enclosingMark ∪ format ∪ modifierLetter ∪ modifierSymbol ∪ midLetter ∪
    midNumLet ∪ singleQuote

end ResourceQuery.Unicode
