import ResourceQuery.Value

namespace ResourceQuery

/-- An argument of a call: a call of its own, a value or a list. -/
inductive Term
  | call (name : String) (args : List Term)
  | leaf (v : Value)
  | list (items : List Term)

structure Call where
  name : String
  args : List Term

namespace Term

mutual

def same : Term → Term → Bool
  | call m xs, call n ys => m == n && sameAll xs ys
  | leaf v, leaf w => v.same w
  | list xs, list ys => sameAll xs ys
  | _, _ => false

def sameAll : List Term → List Term → Bool
  | [], [] => true
  | x :: xs, y :: ys => same x y && sameAll xs ys
  | _, _ => false

end

end Term

namespace Call

def empty : Call := ⟨"", []⟩

def toTerm (c : Call) : Term := .call c.name c.args

def same (c d : Call) : Bool := c.toTerm.same d.toTerm

def isEmpty (c : Call) : Bool := c.name.isEmpty && c.args.isEmpty

def isAggregate (c : Call) : Bool := c.name == "and" || c.name == "or"

def push (c : Call) (arg : Term) : Call := ⟨c.name, c.args ++ [arg]⟩

end Call

end ResourceQuery
