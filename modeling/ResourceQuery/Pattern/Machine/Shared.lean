import ResourceQuery.Pattern.Machine.Basic
import Std.Data.HashMap

namespace ResourceQuery.Pattern

/-- The states that can be used once more, by the numbers that their ways out are made of. There is
a fixed number of slots for them, and a state takes the slot from one that was there before. -/
structure Slots where
  count : UInt64
  states : Std.HashMap UInt64 (List UInt64 × Nat)

namespace Slots

def empty (count : UInt64) : Slots := ⟨count, ∅⟩

/-- The slot for a key, by the hash that mixes in each number by an exclusive or and a product. -/
def slot (t : Slots) (key : List UInt64) : UInt64 :=
  key.foldl (fun h n => (h ^^^ n) * 1099511628211) 14695981039346656037 % t.count

def find? (t : Slots) (key : List UInt64) : Option Nat :=
  match t.states[t.slot key]? with
  | some (k, state) => if k = key then some state else none
  | none => none

def insert (t : Slots) (key : List UInt64) (state : Nat) : Slots :=
  ⟨t.count, t.states.insert (t.slot key) (key, state)⟩

end Slots

structure Shared where
  machine : Machine
  slots : Slots

def Shared.state (b : Shared) (key : List UInt64) (waysBytes : Nat) : Option (Nat × Shared) :=
  match b.slots.find? key with
  | some state => some (state, b)
  | none =>
      (b.machine.add 1 waysBytes).map fun m =>
        (b.machine.states, ⟨m, b.slots.insert key b.machine.states⟩)

end ResourceQuery.Pattern
