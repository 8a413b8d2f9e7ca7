import ResourceQuery.Calendar.Instant
import ResourceQuery.Json.Basic
import ResourceQuery.Pattern

namespace ResourceQuery

inductive Value
  | null
  | undefined
  | boolean (b : Bool)
  | number (x : Binary64)
  | string (s : String)
  | date (t : Calendar.Instant)
  | pattern (p : Pattern)
  | json (j : Json)

namespace Value

/-- Equality of values, which for numbers is that of numbers and not of bits. -/
def same : Value → Value → Bool
  | null, null => true
  | undefined, undefined => true
  | boolean a, boolean b => a == b
  | number x, number y => x.numEq y
  | string s, string t => s == t
  | date s, date t => s == t
  | pattern p, pattern q => p == q
  | json i, json j => i.same j
  | _, _ => false

def typeName : Value → String
  | null => "null"
  | undefined => "undefined"
  | boolean _ => "boolean"
  | number _ => "number"
  | string _ => "string"
  | date _ => "date"
  | pattern p => if p.caseSensitive then "RE" else "re"
  | json _ => "json"

def string? : Value → Option String
  | string s => some s
  | _ => none

def number? : Value → Option Binary64
  | number x => some x
  | _ => none

def boolean? : Value → Option Bool
  | boolean b => some b
  | _ => none

def date? : Value → Option Calendar.Instant
  | date t => some t
  | _ => none

end Value

end ResourceQuery
