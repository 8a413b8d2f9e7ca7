import ResourceQuery.Group
import ResourceQuery.Joiner

namespace ResourceQuery

/-- The pieces that the text of a query falls into: characters of names, joiners, the raw bodies
of groups, and the text from a parenthesis on that is never closed. -/
inductive Piece
  | char (c : Char)
  | joiner (j : Joiner)
  | group (body : List Char)
  | unclosed (text : List Char)
  deriving DecidableEq, Repr

namespace Piece

def ofText (escape : Char) (s : List Char) : List Piece :=
  match s with
  | [] => []
  | c :: s =>
      match Joiner.ofChar? c with
      | some j => joiner j :: ofText escape s
      | none =>
          if c = '(' then
            match _h : Group.scan escape .plain 0 s with
            | some g => group g.raw :: ofText escape g.rest
            | none => [unclosed (c :: s)]
          else char c :: ofText escape s
termination_by s.length
decreasing_by
  · simp
  · have := Group.scan_rest_length ‹_›
    simp only [List.length_cons]
    omega
  · simp

end Piece

end ResourceQuery
