namespace ResourceQuery.Pattern

inductive Direction
  | forward
  | backward
  deriving DecidableEq, Repr

/-- The room that a machine for a pattern takes up. Its states are numbered in the order in which
they are added, so the number of the next one is how many there are. -/
structure Machine where
  states : Nat
  waysBytes : Nat
  deriving DecidableEq, Repr

namespace Machine

def empty : Machine := ⟨0, 0⟩

def plus (m n : Machine) : Machine := ⟨m.states + n.states, m.waysBytes + n.waysBytes⟩

def arrowBytes : Nat := 8

def linkBytes : Nat := 4

def bytes (m : Machine) : Nat := 32 * m.states + m.waysBytes

/-- Machines are built up to ten mebibytes. -/
def maxBytes : Nat := 10 * 1024 * 1024

def add (states waysBytes : Nat) (m : Machine) : Option Machine :=
  let m := m.plus ⟨states, waysBytes⟩
  if m.bytes ≤ maxBytes then some m else none

def copies (part : Machine → Option Machine) : Nat → Machine → Option Machine
  | 0, m => some m
  | n + 1, m => (part m).bind (copies part n)

theorem bytes_le_of_add {states waysBytes : Nat} {m n : Machine}
    (h : m.add states waysBytes = some n) : n.bytes ≤ maxBytes := by
  simp only [add, Option.ite_none_right_eq_some, Option.some.injEq] at h
  exact h.2 ▸ h.1

end Machine

end ResourceQuery.Pattern
