import ResourceQuery.Unicode.CaseIgnorable
import ResourceQuery.Unicode.Property.Case
import ResourceQuery.Unicode.Property.Display
import ResourceQuery.Unicode.Property.Emoji
import ResourceQuery.Unicode.Property.Grapheme
import ResourceQuery.Unicode.Property.Identifier
import ResourceQuery.Unicode.Property.Ideograph
import ResourceQuery.Unicode.Property.Mathematics
import ResourceQuery.Unicode.Property.Sign

namespace ResourceQuery.Unicode

def properties : List (List String × Class) :=
  [(["alphabetic", "alpha"], alphabetic),
   (["lowercase", "lower"], lowercase),
   (["uppercase", "upper"], uppercase),
   (["cased"], cased),
   (["caseignorable", "ci"], caseIgnorable),
   (["changeswhenlowercased", "cwl"], changesWhenLowercased),
   (["changeswhenuppercased", "cwu"], changesWhenUppercased),
   (["changeswhentitlecased", "cwt"], changesWhenTitlecased),
   (["changeswhencasemapped", "cwcm"], changesWhenCasemapped),
   (["changeswhencasefolded", "cwcf"], changesWhenCasefolded),
   (["softdotted", "sd"], softDotted),
   (["otheralphabetic", "oalpha"], otherAlphabetic),
   (["otherlowercase", "olower"], otherLowercase),
   (["otheruppercase", "oupper"], otherUppercase),
   (["whitespace", "space", "wspace"], whiteSpace),
   (["patternsyntax", "patsyn"], patternSyntax),
   (["patternwhitespace", "patws"], patternWhiteSpace),
   (["idstart", "ids"], idStart),
   (["idcontinue", "idc"], idContinue),
   (["xidstart", "xids"], xidStart),
   (["xidcontinue", "xidc"], xidContinue),
   (["otheridstart", "oids"], otherIdStart),
   (["otheridcontinue", "oidc"], otherIdContinue),
   (["emoji"], emoji),
   (["emojipresentation", "epres"], emojiPresentation),
   (["emojimodifier", "emod"], emojiModifier),
   (["emojimodifierbase", "ebase"], emojiModifierBase),
   (["emojicomponent", "ecomp"], emojiComponent),
   (["extendedpictographic", "extpict"], extendedPictographic),
   (["regionalindicator", "ri"], regionalIndicator),
   (["ideographic", "ideo"], ideographic),
   (["unifiedideograph", "uideo"], unifiedIdeograph),
   (["radical"], radical),
   (["idsunaryoperator", "idsu"], idsUnaryOperator),
   (["idsbinaryoperator", "idsb"], idsBinaryOperator),
   (["idstrinaryoperator", "idst"], idsTrinaryOperator),
   (["math"], math),
   (["othermath", "omath"], otherMath),
   (["idcompatmathstart"], idCompatMathStart),
   (["idcompatmathcontinue"], idCompatMathContinue),
   (["dash"], dash),
   (["hyphen"], hyphen),
   (["quotationmark", "qmark"], quotationMark),
   (["terminalpunctuation", "term"], terminalPunctuation),
   (["sentenceterminal", "sterm"], sentenceTerminal),
   (["asciihexdigit", "ahex"], asciiHexDigit),
   (["hexdigit", "hex"], hexDigit),
   (["graphemebase", "grbase"], graphemeBase),
   (["graphemeextend", "grext"], graphemeExtend),
   (["graphemelink", "grlink"], graphemeLink),
   (["othergraphemeextend", "ogrext"], otherGraphemeExtend),
   (["diacritic", "dia"], diacritic),
   (["extender", "ext"], extender),
   (["modifiercombiningmark", "mcm"], modifierCombiningMark),
   (["logicalorderexception", "loe"], logicalOrderException),
   (["joincontrol", "joinc"], joinControl),
   (["bidicontrol", "bidic"], bidiControl),
   (["bidimirrored", "bidim"], bidiMirrored),
   (["variationselector", "vs"], variationSelector),
   (["prependedconcatenationmark", "pcm"], prependedConcatenationMark),
   (["defaultignorablecodepoint", "di"], defaultIgnorable),
   (["otherdefaultignorablecodepoint", "odi"], otherDefaultIgnorable),
   (["deprecated", "dep"], deprecated),
   (["noncharactercodepoint", "nchar"], noncharacter)]

end ResourceQuery.Unicode
