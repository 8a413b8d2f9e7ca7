import ResourceQuery.Chunk
import ResourceQuery.Piece
import ResourceQuery.Shorthand
import ResourceQuery.TagTable

namespace ResourceQuery

structure Options where
  escape : Char
  /-- How deep calls, lists and joined calls may go. -/
  maxDepth : Nat
  deriving DecidableEq, Repr

def Options.default : Options := ⟨'\\', Chunk.defaultLimit⟩

namespace Query

def startsCall (s : List Char) : Bool :=
  let name := s.takeWhile Text.isWord
  !name.isEmpty && (s.drop name.length).head? == some '('

mutual

def argument (leaf : String → Except Fault Value) (call : Nat → List Char → Except Fault Call)
    (limit : Nat) : Nat → Chunk → Except Fault Term
  | room, .list items => do return .list (← arguments leaf call limit (room - 1) items)
  | room, .text s =>
      if startsCall s.toList then
        match room with
        | room + 2 => do return (← call room s.toList).toTerm
        | _ => throw (.parse (.tooDeep limit))
      else do return .leaf (← leaf s)

def arguments (leaf : String → Except Fault Value) (call : Nat → List Char → Except Fault Call)
    (limit : Nat) : Nat → List Chunk → Except Fault (List Term)
  | _, [] => return []
  | room, c :: cs => do
      let t ← argument leaf call limit room c
      let ts ← arguments leaf call limit room cs
      return t :: ts

end

/-- Gathers the pieces of a level into one call. `current` is the call under way and `gathered`
the calls joined before it. The joiner that comes first owns the level: where the other one comes
up, the call under way and all that follows belong to an aggregate of its own, one level
deeper. -/
def gather (body : Nat → List Char → Except Fault (List Term)) (limit : Nat) :
    Nat → Option Aggregate → Call → List Piece → Except Fault Call
  | _, gathered, current, [] =>
      match gathered with
      | some a => return (a.add current).toCall
      | none => return current
  | room, gathered, current, .char c :: ps =>
      gather body limit room gathered ⟨current.name.push c, current.args⟩ ps
  | room, gathered, current, .group b :: ps => do
      let args ← body room b
      gather body limit room gathered ⟨current.name, args⟩ ps
  | _, _, _, .unclosed s :: _ => throw (.parse (.unclosedGroup (String.ofList s)))
  | room, none, current, .joiner j :: ps =>
      gather body limit room (some ((Aggregate.start j).add current)) .empty ps
  | room, some a, current, .joiner j :: ps =>
      if a.joiner = j then gather body limit room (some (a.add current)) .empty ps
      else
        match room with
        | 0 => throw (.parse (.tooDeep limit))
        | room + 1 => do
            let inner ← gather body limit room (some ((Aggregate.start j).add current)) .empty ps
            return ⟨a.joiner.name, a.args ++ [inner.toTerm]⟩

/-- Reads a text as a call, with `room` levels left below it. Each call within the arguments of
another takes two levels, so with more `fuel` than levels the fuel never runs out. -/
def readCall (tags : TagTable) (o : Options) : Nat → Nat → List Char → Except Fault Call
  | 0, _, _ => throw (.parse (.tooDeep o.maxDepth))
  | fuel + 1, room, s =>
      let body (room : Nat) (b : List Char) : Except Fault (List Term) := do
        let chunks ← (Chunk.ofBody o.escape o.maxDepth b).mapError .parse
        arguments tags.read (readCall tags o fuel) o.maxDepth room chunks
      gather body o.maxDepth room none .empty (Piece.ofText o.escape s)

def readExpanded (tags : TagTable) (o : Options) (text : String) : Except Fault Call :=
  readCall tags o (o.maxDepth + 1) o.maxDepth text.toList

def read (tags : TagTable) (o : Options) (text : String) : Except Fault Call :=
  match text.toList with
  | [] => throw (.parse .emptyQuery)
  | '?' :: _ => throw (.parse .leadingQuestionMark)
  | _ => do
      let expanded ← (Shorthand.expand text).mapError .parse
      readExpanded tags o expanded

def parse (text : String) : Except Fault Call := read .standard .default text

end Query

end ResourceQuery
