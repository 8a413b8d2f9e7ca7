namespace ResourceQuery

inductive Comparison
  | equal
  | notEqual
  | less
  | lessEqual
  | greater
  | greaterEqual
  deriving DecidableEq, Repr

namespace Comparison

def ofSign? (sign : String) : Option Comparison :=
  match sign with
  | "=" | "==" => some .equal
  | "!=" => some .notEqual
  | "<" => some .less
  | "<=" => some .lessEqual
  | ">" => some .greater
  | ">=" => some .greaterEqual
  | _ => none

def name : Comparison → String
  | equal => "eq"
  | notEqual => "ne"
  | less => "lt"
  | lessEqual => "le"
  | greater => "gt"
  | greaterEqual => "ge"

end Comparison

end ResourceQuery
