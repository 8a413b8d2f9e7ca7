import ResourceQuery.Group

namespace ResourceQuery

open Text

/-- An argument of a call as it is written: a text, which may be the text of a call, or a list in
parentheses. -/
inductive Chunk
  | text (s : String)
  | list (items : List Chunk)
  deriving Repr

namespace Chunk

def skipSeparator (s : List Char) : List Char :=
  let s := s.dropWhile isBlank
  match s with
  | ',' :: s => s.dropWhile isBlank
  | s => s

theorem skipSeparator_length (s : List Char) : (skipSeparator s).length ≤ s.length := by
  have hs := (List.dropWhile_sublist (p := isBlank) (l := s)).length_le
  unfold skipSeparator
  simp only
  split
  · rename_i r h
    have hr := (List.dropWhile_sublist (p := isBlank) (l := r)).length_le
    simp only [h, List.length_cons] at hs
    omega
  · exact hs

/-- Reads the chunks of `s`, where `read` holds what the chunk under way has so far, last
character first, and `room` says how deep lists may still go. A parenthesis opens a list where
nothing has been read and else belongs to a call, which is kept as it stands. -/
def splitFrom (escape : Char) (limit room : Nat) (q : Quoting) (read s : List Char) :
    Except SyntaxFault (List Chunk) :=
  match s with
  | [] => return if read.isEmpty then [] else [.text (String.ofList (bare read.reverse))]
  | c :: s =>
      match q.step escape c with
      | (q, .literal) => splitFrom escape limit room q (c :: read) s
      | (q, .mark) => splitFrom escape limit room q read s
      | (q, .structural) =>
          if c = '(' then
            match _h : Group.scan escape .plain 0 s with
            | none =>
                if read.isEmpty && room == 0 then throw (.tooDeep limit)
                else throw (.unclosedGroup (String.ofList (c :: s)))
            | some g =>
                if read.isEmpty then
                  match room with
                  | 0 => throw (.tooDeep limit)
                  | room + 1 => do
                      let items ← splitFrom escape limit room .plain [] g.raw
                      let rest ← splitFrom escape limit (room + 1) .plain [] (skipSeparator g.rest)
                      return .list items :: rest
                else
                  splitFrom escape limit room q (')' :: g.raw.reverse ++ c :: read) g.rest
          else if c = ',' then do
            let rest ← splitFrom escape limit room q [] s
            return .text (String.ofList (bare read.reverse)) :: rest
          else if read.isEmpty && isBlank c then splitFrom escape limit room q read s
          else splitFrom escape limit room q (c :: read) s
termination_by s.length
decreasing_by
  all_goals simp only [List.length_cons]
  · omega
  · omega
  · have := Group.scan_raw_length ‹_›
    omega
  · have := Group.scan_rest_length ‹_›
    have := skipSeparator_length g.rest
    omega
  · have := Group.scan_rest_length ‹_›
    omega
  · omega
  · omega
  · omega

def defaultLimit : Nat := 128

def ofBody (escape : Char) (limit : Nat) (body : List Char) : Except SyntaxFault (List Chunk) :=
  splitFrom escape limit limit .plain [] body

end Chunk

end ResourceQuery
