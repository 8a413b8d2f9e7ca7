import ResourceQuery.Pattern.Machine.ByteRange
import ResourceQuery.Pattern.Machine.Shared

namespace ResourceQuery.Pattern

def ByteRange.key (r : ByteRange) : List UInt64 := [r.first.toUInt64, r.last.toUInt64]

structure Arrow where
  range : ByteRange
  target : Nat

def Arrow.key (a : Arrow) : List UInt64 := a.range.key ++ [a.target.toUInt64]

def groupWords : List (List ByteRange) → List (ByteRange × List (List ByteRange))
  | [] => []
  | [] :: words => groupWords words
  | (r :: word) :: words =>
      match groupWords words with
      | (q, rests) :: groups =>
          if q = r then (r, word :: rests) :: groups else (r, [word]) :: (q, rests) :: groups
      | [] => [(r, [word])]

namespace Shared

/-- Adds what lies behind the first range of each group, where a word that ends there leads to the
state `target`. -/
def addArrows (target : Nat) (behind : List (List ByteRange) → Shared → Option (Nat × Shared)) :
    List (ByteRange × List (List ByteRange)) → Shared → Option (List Arrow × Shared)
  | [], b => some ([], b)
  | (r, rests) :: groups, b => do
      let (next, b) ← if rests = [[]] then some (target, b) else behind rests b
      let (arrows, b) ← addArrows target behind groups b
      return (⟨r, next⟩ :: arrows, b)

/-- Adds the states that take up words from the first byte on, and gives the one to start with. The
words have at most as many bytes as the number says. -/
def addWords (target : Nat) : Nat → List (List ByteRange) → Shared → Option (Nat × Shared)
  | 0, _, b => some (target, b)
  | length + 1, words, b => do
      let (arrows, b) ← addArrows target (addWords target length) (groupWords words) b
      b.state (arrows.flatMap Arrow.key) (arrows.length * Machine.arrowBytes)

def addReversed (target : Nat) (b : Shared) (word : List ByteRange) : Option Shared := do
  let (_, b) ← word.foldlM (fun (state, b) r => b.state (state.toUInt64 :: r.key) 0) (target, b)
  return b

end Shared

namespace Machine

def forwardSlots : UInt64 := 10000

def backwardSlots : UInt64 := 1000

def addChars (d : Direction) (a : CharSet) (m : Machine) : Option Machine :=
  if a.isAscii then m.add 2 (a.ranges.length * arrowBytes)
  else
    match d with
    | .forward => do
        let (_, b) ← Shared.addWords m.states 4 a.words ⟨← m.add 1 0, .empty forwardSlots⟩
        return b.machine
    | .backward => do
        let words := a.words
        let start ← m.add 2 (words.length * linkBytes)
        let b ← words.foldlM (Shared.addReversed (m.states + 1)) ⟨start, .empty backwardSlots⟩
        return b.machine

end Machine

end ResourceQuery.Pattern
