namespace ResourceQuery.Pattern

inductive Fault
  | unclosedGroup
  | unopenedGroup
  | unclosedClass
  | lookAround
  | groupName
  | repeatedGroupName
  | flags
  | nothingToRepeat
  | repeatCount
  | classRange
  | classEscape
  | unfinishedEscape
  | unknownEscape
  | backreference
  | characterCode
  | unknownProperty
  | notText
  | tooDeep
  | tooLarge
  deriving DecidableEq, Repr

def Fault.message : Fault → String
  | .unclosedGroup => "unclosed group"
  | .unopenedGroup => "unopened group"
  | .unclosedClass => "unclosed character class"
  | .lookAround => "look-around is not supported"
  | .groupName => "invalid name of a capture group"
  | .repeatedGroupName => "duplicate name of a capture group"
  | .flags => "invalid flags"
  | .nothingToRepeat => "repetition operator missing expression"
  | .repeatCount => "invalid repetition count"
  | .classRange => "invalid character class range"
  | .classEscape => "invalid escape sequence in character class"
  | .unfinishedEscape => "incomplete escape sequence"
  | .unknownEscape => "unrecognized escape sequence"
  | .backreference => "backreferences are not supported"
  | .characterCode => "invalid character code"
  | .unknownProperty => "unknown character property"
  | .notText => "pattern can match what is no text"
  | .tooDeep => "pattern nests too deep"
  | .tooLarge => "pattern is too large"

end ResourceQuery.Pattern
