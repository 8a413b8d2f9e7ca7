import ResourceQuery.Term

namespace ResourceQuery

inductive Joiner
  | and
  | or
  deriving DecidableEq, Repr

namespace Joiner

def ofChar? (c : Char) : Option Joiner :=
  if c = '&' ∨ c = ',' then some and
  else if c = '|' then some or
  else none

def name : Joiner → String
  | and => "and"
  | or => "or"

end Joiner

structure Aggregate where
  joiner : Joiner
  args : List Term

namespace Aggregate

def start (j : Joiner) : Aggregate := ⟨j, []⟩

/-- Adds a call unless nothing has been read of it. -/
def add (a : Aggregate) (c : Call) : Aggregate :=
  if c.isEmpty then a else ⟨a.joiner, a.args ++ [c.toTerm]⟩

def toCall (a : Aggregate) : Call := ⟨a.joiner.name, a.args⟩

end Aggregate

end ResourceQuery
