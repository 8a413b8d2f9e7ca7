import ResourceQuery.Unicode.Class
import ResourceQuery.Unicode.Folding

namespace ResourceQuery.Pattern

open Unicode

structure CharRange where
  first : Nat
  last : Nat
  deriving DecidableEq, Repr

namespace CharRange

def contains (r : CharRange) (n : Nat) : Bool := r.first ≤ n && n ≤ r.last

def next (n : Nat) : Nat := if n = 0xd7ff then 0xe000 else n + 1

def previous (n : Nat) : Nat := if n = 0xe000 then 0xd7ff else n - 1

def meet (r s : CharRange) : Option CharRange :=
  let both : CharRange := ⟨max r.first s.first, min r.last s.last⟩
  if both.first ≤ both.last then some both else none

def without (r s : CharRange) : List CharRange :=
  if r.last < s.first ∨ s.last < r.first then [r]
  else
    (if r.first < s.first then [⟨r.first, previous s.first⟩] else []) ++
      if s.last < r.last then [⟨next s.last, r.last⟩] else []

def insertInto (r : CharRange) : List CharRange → List CharRange
  | [] => [r]
  | s :: rs =>
      if s.last + 1 < r.first then s :: insertInto r rs
      else if r.last + 1 < s.first then r :: s :: rs
      else insertInto ⟨min r.first s.first, max r.last s.last⟩ rs

/-- What lies between ranges that increase, from the end of one on. Where nothing but surrogates
does, the characters on both sides of these do. -/
def gaps (last : Nat) : List CharRange → List CharRange
  | [] => if last < 0x10ffff then [⟨next last, 0x10ffff⟩] else []
  | r :: rs =>
      ⟨min (next last) (previous r.first), max (next last) (previous r.first)⟩ :: gaps r.last rs

end CharRange

structure CharSet where
  ranges : List CharRange
  deriving DecidableEq, Repr

namespace CharSet

def hasCode (a : CharSet) (n : Nat) : Bool := a.ranges.any (·.contains n)

def mem (a : CharSet) (c : Char) : Bool := a.hasCode c.toNat

def empty : CharSet := ⟨[]⟩

def full : CharSet := ⟨[⟨0, 0x10ffff⟩]⟩

def range (first last : Char) : CharSet := ⟨[⟨first.toNat, last.toNat⟩]⟩

def single (c : Char) : CharSet := range c c

def isEmpty (a : CharSet) : Bool := a.ranges.isEmpty

def isAscii (a : CharSet) : Bool := a.ranges.all (·.last < 0x80)

def single? (a : CharSet) : Option Char :=
  match a.ranges with
  | [r] => if r.first = r.last then some (Char.ofNat r.first) else none
  | _ => none

def ofRanges (rs : List CharRange) : CharSet := ⟨rs.foldr CharRange.insertInto []⟩

def union (a b : CharSet) : CharSet := ⟨a.ranges.foldr CharRange.insertInto b.ranges⟩

def inter (a b : CharSet) : CharSet := ⟨a.ranges.flatMap fun r => b.ranges.filterMap r.meet⟩

def diff (a b : CharSet) : CharSet :=
  ⟨b.ranges.foldl (fun rs s => rs.flatMap (·.without s)) a.ranges⟩

def symmDiff (a b : CharSet) : CharSet := (a.union b).diff (a.inter b)

def compl (a : CharSet) : CharSet :=
  match a.ranges with
  | [] => full
  | r :: rs =>
      ⟨(if 0 < r.first then [⟨0, CharRange.previous r.first⟩] else []) ++ CharRange.gaps r.last rs⟩

def ofSpan (s : Span) : List CharRange :=
  if s.step = 1 then [⟨s.first, s.last⟩] else s.toList.map fun n => ⟨n, n⟩

def ofClass : Unicode.Class → CharSet
  | .spans s => ofRanges (s.flatMap ofSpan)
  | .union a b => (ofClass a).union (ofClass b)
  | .diff a b => (ofClass a).diff (ofClass b)

/-- The set with all groups of characters that it has one of. -/
def closeUnder (groups : List (List Nat)) (a : CharSet) : CharSet :=
  union (ofRanges ((groups.filter (·.any a.hasCode)).flatten.map fun n => ⟨n, n⟩)) a

end CharSet

end ResourceQuery.Pattern
