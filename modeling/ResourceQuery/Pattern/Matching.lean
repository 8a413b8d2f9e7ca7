import ResourceQuery.Pattern.Expr
import ResourceQuery.Pattern.Named

namespace ResourceQuery.Pattern

def merge : List Nat → List Nat → List Nat
  | [], ys => ys
  | xs, [] => xs
  | x :: xs, y :: ys =>
      if x < y then x :: merge xs (y :: ys)
      else if y < x then y :: merge (x :: xs) ys
      else x :: merge xs ys

def charBefore (input : Array Char) (i : Nat) : Option Char :=
  match i with
  | 0 => none
  | i + 1 => input[i]?

def isWord (unicode : Bool) : Char → Bool :=
  (if unicode then CharSet.word else CharSet.asciiWord).mem

def standsAt (input : Array Char) : List Char → Nat → Bool
  | [], _ => true
  | c :: cs, i => input[i]? == some c && standsAt input cs (i + 1)

/-- Takes exactly `n` steps. Where a step changes nothing, neither do more. -/
def stepsExactly (step : List Nat → List Nat) : Nat → List Nat → List Nat
  | 0, places => places
  | n + 1, places =>
      let next := step places
      if next = places then places else stepsExactly step n next

def stepsUpTo (step : List Nat → List Nat) : Nat → List Nat → List Nat
  | 0, places => places
  | n + 1, places =>
      let next := merge places (step places)
      if next = places then places else stepsUpTo step n next

namespace Expr

mutual

/-- The places that a match can end at when it starts at one of the given ones. Steps past the
size of the input lead nowhere new. -/
def reach (input : Array Char) : Expr → List Nat → List Nat
  | empty, places => places
  | text cs, places => (places.filter (standsAt input cs)).map (· + cs.length)
  | chars s, places => (places.filter fun i => input[i]?.any s.mem).map (· + 1)
  | look l, places => places.filter fun i => l.holds isWord (charBefore input i) input[i]?
  | seq es, places => reachSeq input es places
  | alt es, places => reachAlt input es places
  | many e least most _, places =>
      let further :=
        match most with
        | some n => n - least
        | none => input.size + 1
      stepsUpTo (reach input e) further (stepsExactly (reach input e) least places)
  | group _ e, places => reach input e places

def reachSeq (input : Array Char) : List Expr → List Nat → List Nat
  | [], places => places
  | e :: es, places => reachSeq input es (reach input e places)

def reachAlt (input : Array Char) : List Expr → List Nat → List Nat
  | [], _ => []
  | e :: es, places => merge (reach input e places) (reachAlt input es places)

end

def matchesIn (e : Expr) (input : String) : Bool :=
  let chars := input.toList.toArray
  !(e.reach chars (List.range (chars.size + 1))).isEmpty

end Expr

end ResourceQuery.Pattern
