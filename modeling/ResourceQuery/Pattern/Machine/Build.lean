import ResourceQuery.Pattern.Expr
import ResourceQuery.Pattern.Machine.Chars
import ResourceQuery.Pattern.Machine.Choice

namespace ResourceQuery.Pattern

namespace Expr

def utf8 (cs : List Char) : List UInt8 := cs.flatMap String.utf8EncodeChar

def texts? : List Expr → Option (List (List UInt8))
  | [] => some []
  | text cs :: es => (texts? es).map (utf8 cs :: ·)
  | _ => none

def addTexts (d : Direction) (texts : List (List UInt8)) (m : Machine) : Option Machine :=
  let texts :=
    match d with
    | .forward => texts
    | .backward => texts.map List.reverse
  let room := Choice.room ((texts.map List.length).foldl max 0) texts
  m.add (room.states + 1) room.waysBytes

mutual

def addTo (d : Direction) : Expr → Machine → Option Machine
  | empty, m | look _, m => m.add 1 0
  | text cs, m => m.add (utf8 cs).length 0
  | chars a, m => m.addChars d a
  | seq es, m => addSeq d es m
  | alt es, m =>
      match texts? es with
      | some texts => addTexts d texts m
      | none => addAlt d 0 es m
  | many e least most _, m =>
      match least, most with
      | 0, some 1 => do (← addTo d e (← m.add 1 0)).add 1 (2 * Machine.linkBytes)
      | 0, none =>
          if 0 < e.fewest.getD 0 then (m.add 1 (2 * Machine.linkBytes)).bind (addTo d e)
          else do (← addTo d e m).add 3 (4 * Machine.linkBytes)
      | least, none => do (← m.copies (addTo d e) least).add 1 (2 * Machine.linkBytes)
      | least, some most => do
          let m ← if least = 0 then m.add 1 0 else m.copies (addTo d e) least
          if least = most then return m
          else
            let option (m : Machine) := (m.add 1 (2 * Machine.linkBytes)).bind (addTo d e)
            (← m.add 1 0).copies option (most - least)
  | group _ e, m =>
      match d with
      | .forward => do (← addTo d e (← m.add 1 0)).add 1 0
      | .backward => addTo d e m

def addSeq (d : Direction) : List Expr → Machine → Option Machine
  | [], m => some m
  | e :: es, m =>
      match d with
      | .forward => do addSeq d es (← addTo d e m)
      | .backward => do addTo d e (← addSeq d es m)

/-- Adds the states for branches, where there are `done` others before. The states where branches
part and meet come after the second one. -/
def addAlt (d : Direction) (done : Nat) : List Expr → Machine → Option Machine
  | [], m => some m
  | e :: es, m => do
      let m ← addTo d e m
      addAlt d (done + 1) es (← m.add (if done = 1 then 2 else 0) Machine.linkBytes)

end

def anchored (d : Direction) (e : Expr) : Bool :=
  match d with
  | .forward => e.startsWith .start
  | .backward => e.endsWith .stop

/-- The machine for a whole pattern. In front of it stands what passes over the text before a match,
and around it the capture of the match. -/
def machine? (d : Direction) (e : Expr) : Option Machine := do
  let m ←
    if e.anchored d then Machine.empty.add 1 0
    else Machine.empty.add 3 (Machine.arrowBytes + 2 * Machine.linkBytes)
  match d with
  | .forward => do (← e.addTo d (← m.add 1 0)).add 2 0
  | .backward => do (← e.addTo d m).add 1 0

/-- Whether machines for both directions can be built. A pattern that stands for a few exact texts
could be searched for without a machine. It is held to the same bound here. -/
def fits (e : Expr) : Bool := (e.machine? .backward).isSome && (e.machine? .forward).isSome

end Expr

end ResourceQuery.Pattern
