import ResourceQuery.Pattern.Escape
import ResourceQuery.Pattern.Nested

namespace ResourceQuery.Pattern

inductive SetOp
  | inter
  | diff
  | symmDiff

def SetOp.apply : SetOp → CharSet → CharSet → CharSet
  | inter => .inter
  | diff => .diff
  | symmDiff => .symmDiff

/-- What has been read of a bracketed set: the left side of an operation, and the sets of the
union under way, the last one first. -/
structure Bracketed where
  left : Option (Nested CharSet × SetOp)
  items : List (Nested CharSet)

namespace Bracketed

def push (b : Bracketed) (a : Nested CharSet) : Bracketed := ⟨b.left, a :: b.items⟩

def set (f : Flags) (b : Bracketed) : Nested CharSet :=
  let right := Nested.join (·.foldr .union .empty) b.items
  match b.left with
  | some (left, op) => .pair (fun a b => op.apply (f.fold a) (f.fold b)) left right
  | none => right

def operate (f : Flags) (b : Bracketed) (op : SetOp) : Bracketed := ⟨some (b.set f, op), []⟩

def close (f : Flags) (negated : Bool) (b : Bracketed) : Except Fault (Nested CharSet) := do
  return ⟨← f.close negated (b.set f).value, (b.set f).depth + 1⟩

end Bracketed

def named? (s : List Char) : Option (Bool × CharSet × List Char) :=
  match s with
  | ':' :: s =>
      let (negated, s) :=
        match s with
        | '^' :: s => (true, s)
        | s => (false, s)
      let name := s.takeWhile (· != ':')
      match s.drop name.length with
      | ':' :: ']' :: rest => (CharSet.named? (String.ofList name)).map fun a => (negated, a, rest)
      | _ => none
  | _ => none

inductive Member
  | char (c : Char)
  | chars (a : CharSet)

def Member.set : Member → CharSet
  | char c => .single c
  | chars a => a

/-- Without Unicode the characters of a set are single bytes. -/
def Atom.member (f : Flags) : Atom → Except Fault Member
  | char c => if f.unicode ∨ c.toNat < 0x80 then .ok (.char c) else .error .notText
  | chars a => .ok (.chars a)
  | look _ => .error .classEscape

def readMember (f : Flags) (s : List Char) : Except Fault (Member × List Char) := do
  match s with
  | [] => throw .unclosedClass
  | '\\' :: s =>
      let (a, s) ← readEscape f s
      return (← a.member f, s)
  | c :: s => return (← (Atom.char c).member f, s)

/-- Reads a range, or what is none. A dash before the end or before another dash is no range. -/
def readRange (f : Flags) (s : List Char) : Except Fault (CharSet × List Char) := do
  let (first, s) ← readMember f s
  match f.skip s with
  | '-' :: t =>
      if f.peek t = some ']' ∨ f.peek t = some '-' then return (first.set, s)
      else
        let (last, t) ← readMember f (f.skip t)
        match first, last with
        | .char a, .char b => if a ≤ b then return (.range a b, t) else throw .classRange
        | _, _ => throw .classRange
  | _ => return (first.set, s)

/-- What a set starts with after its opening bracket: a sign that negates it, and dashes or a
closing bracket that stand for themselves. -/
def opening (f : Flags) (s : List Char) : Bool × Bracketed × List Char :=
  let (negated, s) :=
    match f.skip s with
    | '^' :: s => (true, s)
    | s => (false, s)
  match f.take (· == '-') s with
  | ([], ']' :: s) => (negated, ⟨none, [.leaf (.single ']')]⟩, s)
  | (dashes, s) => (negated, ⟨none, dashes.map fun c => .leaf (.single c)⟩, s)

def readItems (f : Flags) : Nat → Bracketed → List Char → Except Fault (Bracketed × List Char)
  | 0, _, _ => .error .unclosedClass
  | fuel + 1, b, s => do
      match f.skip s with
      | [] => throw .unclosedClass
      | ']' :: s => return (b, s)
      | '[' :: s =>
          match named? s with
          | some (negated, a, s) => readItems f fuel (b.push (.leaf (← f.close negated a))) s
          | none =>
              let (negated, start, s) := opening f s
              let (inner, s) ← readItems f fuel start s
              readItems f fuel (b.push (← inner.close f negated)) s
      | '&' :: '&' :: s => readItems f fuel (b.operate f .inter) s
      | '-' :: '-' :: s => readItems f fuel (b.operate f .diff) s
      | '~' :: '~' :: s => readItems f fuel (b.operate f .symmDiff) s
      | s =>
          let (a, s) ← readRange f s
          readItems f fuel (b.push (.leaf a)) s

def readBrackets (f : Flags) (s : List Char) : Except Fault (Nested CharSet × List Char) := do
  let (negated, start, s) := opening f s
  let (b, s) ← readItems f (s.length + 1) start s
  return (← b.close f negated, s)

end ResourceQuery.Pattern
