import ResourceQuery.Unicode.Cased
import ResourceQuery.Unicode.DecimalDigit
import ResourceQuery.Unicode.Mark
import ResourceQuery.Unicode.Numeric
import ResourceQuery.Unicode.Punctuation
import ResourceQuery.Unicode.Separator
import ResourceQuery.Unicode.Symbol

namespace ResourceQuery.Unicode

def decimalNumber : Class := .spans (zeroDigits.map fun z => ⟨z, z + 9, 1⟩)

def casedLetter : Class := uppercaseLetter ∪ lowercaseLetter ∪ titlecaseLetter

def letter : Class := casedLetter ∪ modifierLetter ∪ otherLetter

def mark : Class := nonspacingMark ∪ spacingMark ∪ enclosingMark

def number : Class := decimalNumber ∪ letterNumber ∪ otherNumber

def punctuation : Class :=
  connectorPunctuation ∪ dashPunctuation ∪ openPunctuation ∪ closePunctuation ∪
    initialPunctuation ∪ finalPunctuation ∪ otherPunctuation

def symbol : Class := mathSymbol ∪ currencySymbol ∪ modifierSymbol ∪ otherSymbol

def separator : Class := spaceSeparator ∪ lineSeparator ∪ paragraphSeparator

def graphic : Class := letter ∪ mark ∪ number ∪ punctuation ∪ symbol ∪ separator

def assigned : Class := graphic ∪ control ∪ format ∪ privateUse

/-- The general categories and the classes that are named like one, with their long and short names
in small letters and without separators. -/
def categories : List (List String × Class) :=
  [(["uppercaseletter", "lu"], uppercaseLetter),
   (["lowercaseletter", "ll"], lowercaseLetter),
   (["titlecaseletter", "lt"], titlecaseLetter),
   (["casedletter", "lc"], casedLetter),
   (["modifierletter", "lm"], modifierLetter),
   (["otherletter", "lo"], otherLetter),
   (["letter", "l"], letter),
   (["nonspacingmark", "mn"], nonspacingMark),
   (["spacingmark", "mc"], spacingMark),
   (["enclosingmark", "me"], enclosingMark),
   (["mark", "combiningmark", "m"], mark),
   (["decimalnumber", "digit", "nd"], decimalNumber),
   (["letternumber", "nl"], letterNumber),
   (["othernumber", "no"], otherNumber),
   (["number", "n"], number),
   (["connectorpunctuation", "pc"], connectorPunctuation),
   (["dashpunctuation", "pd"], dashPunctuation),
   (["openpunctuation", "ps"], openPunctuation),
   (["closepunctuation", "pe"], closePunctuation),
   (["initialpunctuation", "pi"], initialPunctuation),
   (["finalpunctuation", "pf"], finalPunctuation),
   (["otherpunctuation", "po"], otherPunctuation),
   (["punctuation", "punct", "p"], punctuation),
   (["mathsymbol", "sm"], mathSymbol),
   (["currencysymbol", "sc"], currencySymbol),
   (["modifiersymbol", "sk"], modifierSymbol),
   (["othersymbol", "so"], otherSymbol),
   (["symbol", "s"], symbol),
   (["spaceseparator", "zs"], spaceSeparator),
   (["lineseparator", "zl"], lineSeparator),
   (["paragraphseparator", "zp"], paragraphSeparator),
   (["separator", "z"], separator),
   (["control", "cntrl", "cc"], control),
   (["format", "cf"], format),
   (["privateuse", "co"], privateUse),
   (["unassigned", "cn"], .all \ assigned),
   (["other", "c"], .all \ graphic),
   (["any"], .all),
   (["assigned"], assigned),
   (["ascii"], .ascii)]

end ResourceQuery.Unicode
