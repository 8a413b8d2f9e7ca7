import ResourceQuery.Pattern.CharSet
import ResourceQuery.Pattern.Look

namespace ResourceQuery.Pattern

inductive Expr
  | empty
  | text (cs : List Char)
  | chars (s : CharSet)
  | look (l : Look)
  | seq (es : List Expr)
  | alt (es : List Expr)
  /-- A part that occurs `least` times at least. Whether more or fewer times are tried first matters
  only to where a match ends. -/
  | many (e : Expr) (least : Nat) (most : Option Nat) (greedy : Bool)
  | group (index : Nat) (e : Expr)

namespace Expr

mutual

/-- How many characters a match has at least. Nothing if the pattern cannot match. -/
def fewest : Expr → Option Nat
  | empty | look _ => some 0
  | text cs => some cs.length
  | chars s => if s.isEmpty then none else some 1
  | seq es => fewestSeq es
  | alt es => fewestAlt es
  | many e least _ _ => (fewest e).map (· * least)
  | group _ e => fewest e

def fewestSeq : List Expr → Option Nat
  | [] => some 0
  | e :: es => do return (← fewest e) + (← fewestSeq es)

def fewestAlt : List Expr → Option Nat
  | [] => none
  | [e] => fewest e
  | e :: es => do return min (← fewest e) (← fewestAlt es)

end

mutual

def longest : Expr → Option Nat
  | empty | look _ => some 0
  | text cs => some cs.length
  | chars s => if s.isEmpty then none else some 1
  | seq es => longestSeq es
  | alt es => longestAlt es
  | many e _ most _ => do return (← longest e) * (← most)
  | group _ e => longest e

def longestSeq : List Expr → Option Nat
  | [] => some 0
  | e :: es => do return (← longest e) + (← longestSeq es)

def longestAlt : List Expr → Option Nat
  | [] => none
  | [e] => longest e
  | e :: es => do return max (← longest e) (← longestAlt es)

end

mutual

def startsWith (l : Look) : Expr → Bool
  | empty | text _ | chars _ => false
  | look k => k == l
  | seq es => startsWithSeq l es
  | alt es => !es.isEmpty && startsWithAlt l es
  | many e least _ _ => 0 < least && startsWith l e
  | group _ e => startsWith l e

/-- The first parts count up to one that takes up text. -/
def startsWithSeq (l : Look) : List Expr → Bool
  | [] => false
  | e :: es => startsWith l e || (longest e == some 0 && startsWithSeq l es)

def startsWithAlt (l : Look) : List Expr → Bool
  | [] => true
  | e :: es => startsWith l e && startsWithAlt l es

end

mutual

def endsWith (l : Look) : Expr → Bool
  | empty | text _ | chars _ => false
  | look k => k == l
  | seq es => endsWithSeq l es
  | alt es => !es.isEmpty && endsWithAlt l es
  | many e least _ _ => 0 < least && endsWith l e
  | group _ e => endsWith l e

/-- The last parts count from one that takes up text. -/
def endsWithSeq (l : Look) : List Expr → Bool
  | [] => false
  | e :: es => endsWithSeq l es || (es.all (longest · == some 0) && endsWith l e)

def endsWithAlt (l : Look) : List Expr → Bool
  | [] => true
  | e :: es => endsWith l e && endsWithAlt l es

end

mutual

def same : Expr → Expr → Bool
  | empty, empty => true
  | text a, text b => a == b
  | chars a, chars b => a == b
  | look a, look b => a == b
  | seq as, seq bs => sameAll as bs
  | alt as, alt bs => sameAll as bs
  | many a l m g, many b l' m' g' => l == l' && m == m' && g == g' && same a b
  | group i a, group j b => i == j && same a b
  | _, _ => false

def sameAll : List Expr → List Expr → Bool
  | [], [] => true
  | a :: as, b :: bs => same a b && sameAll as bs
  | _, _ => false

end

mutual

def size : Expr → Nat
  | empty | text _ | chars _ | look _ => 1
  | seq es | alt es => sizes es + 1
  | many e _ _ _ | group _ e => size e + 1

def sizes : List Expr → Nat
  | [] => 0
  | e :: es => size e + sizes es

end

def ofSet (a : CharSet) : Expr :=
  match a.single? with
  | some c => text [c]
  | none => chars a

/-- A part that matches no text at all is repeated once at most. -/
def repeated (e : Expr) (least : Nat) (most : Option Nat) (greedy : Bool) : Expr :=
  let (least, most) :=
    if longest e = some 0 then (min least 1, some (min (most.getD 1) 1)) else (least, most)
  if most = some 0 then empty
  else if least = 1 ∧ most = some 1 then e
  else many e least most greedy

def parts : Expr → List Expr
  | empty => []
  | seq es => es
  | e => [e]

def joinText : Expr → List Expr → List Expr
  | text a, text b :: es => text (a ++ b) :: es
  | e, es => e :: es

def ofParts : List Expr → Expr
  | [] => empty
  | [e] => e
  | es => seq es

def concat (es : List Expr) : Expr := ofParts ((es.flatMap parts).foldr joinText [])

def branches : Expr → List Expr
  | alt es => es
  | e => [e]

def choice? : List Expr → Option CharSet
  | [] => some .empty
  | text [c] :: es => (choice? es).map (CharSet.union (.single c))
  | _ => none

def setChoice? : List Expr → Option CharSet
  | [] => some .empty
  | chars s :: es => (setChoice? es).map (CharSet.union s)
  | _ => none

def seqs? : List Expr → Option (List (List Expr))
  | [] => some []
  | seq es :: rest => (seqs? rest).map (es :: ·)
  | _ => none

def commonLength : List Expr → List Expr → Nat
  | a :: as, b :: bs => if same a b then commonLength as bs + 1 else 0
  | _, _ => 0

/-- Branches, where the start that sequences have in common is put in front of them. Each time there
are fewer parts to the branches. -/
def choose : Nat → List Expr → Expr
  | _, [e] => e
  | 0, es => alt es
  | fuel + 1, es =>
      match choice? es, setChoice? es, seqs? es with
      | some s, _, _ | _, some s, _ => ofSet s
      | none, none, some (first :: others) =>
          let n := (others.map (commonLength first)).foldl min first.length
          if n = 0 then alt es
          else
            let rest := (first :: others).map fun parts => concat (parts.drop n)
            concat (first.take n ++ [choose fuel (rest.flatMap branches)])
      | _, _, _ => alt es

def alternation (es : List Expr) : Expr :=
  let es := es.flatMap branches
  choose (sizes es) es

end Expr

end ResourceQuery.Pattern
