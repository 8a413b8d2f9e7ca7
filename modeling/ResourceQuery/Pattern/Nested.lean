import ResourceQuery.Pattern.Fault

namespace ResourceQuery.Pattern

/-- What a part of a pattern stands for, and how deep its own parts lie within each other. -/
structure Nested (α : Type) where
  value : α
  depth : Nat

namespace Nested

variable {α β : Type}

def leaf (a : α) : Nested α := ⟨a, 0⟩

def wrap (f : α → β) (a : Nested α) : Nested β := ⟨f a.value, a.depth + 1⟩

def pair (f : α → α → β) (a b : Nested α) : Nested β :=
  ⟨f a.value b.value, max a.depth b.depth + 1⟩

def deepest (parts : List (Nested α)) : Nat := (parts.map (·.depth)).foldl max 0

def join (f : List α → β) (parts : List (Nested α)) : Nested β :=
  ⟨f (parts.map (·.value)), if parts.length < 2 then deepest parts else deepest parts + 1⟩

def maxDepth : Nat := 250

def bounded (a : Nested α) : Except Fault α :=
  if a.depth ≤ maxDepth then .ok a.value else .error .tooDeep

end Nested

end ResourceQuery.Pattern
