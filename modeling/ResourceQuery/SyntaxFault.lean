namespace ResourceQuery

inductive SyntaxFault
  | emptyQuery
  | leadingQuestionMark
  | illegalOperator (sign : String)
  | unclosedGroup (text : String)
  | unknownTag (tag : String)
  | tooDeep (limit : Nat)
  deriving DecidableEq, Repr

def SyntaxFault.message : SyntaxFault → String
  | .emptyQuery => "query must not be empty"
  | .leadingQuestionMark => "query must not start with ?"
  | .illegalOperator sign => "illegal operator `" ++ sign ++ "`"
  | .unclosedGroup text => "could not find closing paren in `" ++ text ++ "`"
  | .unknownTag tag => "unknown converter `" ++ tag ++ "`"
  | .tooDeep limit => "query nests deeper than " ++ toString limit ++ " levels"

end ResourceQuery
