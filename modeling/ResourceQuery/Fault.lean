import ResourceQuery.SyntaxFault
import ResourceQuery.Json.Fault
import ResourceQuery.Pattern.Fault

namespace ResourceQuery

inductive LeafFault
  | number (text : String)
  | date (text : String)
  | pattern (source : String) (fault : Pattern.Fault)
  | json (text : String) (fault : Json.Fault)
  | encoding (text : String)
  deriving DecidableEq, Repr

def LeafFault.message : LeafFault → String
  | .number text => "invalid number `" ++ text ++ "`"
  | .date text => "invalid date `" ++ text ++ "`"
  | .pattern source fault => "invalid regular expression `" ++ source ++ "`: " ++ fault.message
  | .json text fault => "invalid JSON `" ++ text ++ "`: " ++ fault.message
  | .encoding text => "invalid percent-encoding in `" ++ text ++ "`"

inductive Fault
  | parse (f : SyntaxFault)
  | conversion (f : LeafFault)
  deriving DecidableEq, Repr

def Fault.message : Fault → String
  | .parse f => "parse error: " ++ f.message
  | .conversion f => "conversion error: " ++ f.message

end ResourceQuery
