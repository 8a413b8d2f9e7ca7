import Mathlib
import ResourceQuery.Proofs.Limits

namespace ResourceQuery

open Outcome

/-- What stands between two joiners of a query: a name, and perhaps a group that ends where the
segment does. The parenthesis that opens the group is not part of `group`. -/
structure Segment (e : Char) where
  name : List Char
  group : Option (List Char)
  name_ne : name ≠ []
  name_chars : ∀ c ∈ name, IsNameChar c
  closed : ∀ t ∈ group, ∃ g, Group.ofText e ('(' :: t) = .ok g ∧ g.rest = []

structure Joint where
  char : Char
  joiner : Joiner
  reads : Joiner.ofChar? char = some joiner

namespace Segment

variable {e : Char}

def text (s : Segment e) : List Char :=
  s.name ++ match s.group with
    | none => []
    | some t => '(' :: t

def pieces (s : Segment e) : List Piece :=
  s.name.map .char ++ match s.group with
    | none => []
    | some t => [.group t.dropLast]

def joinedText (first : Segment e) : List (Joint × Segment e) → List Char
  | [] => first.text
  | (j, s) :: rest => first.text ++ j.char :: joinedText s rest

def joinedPieces (first : Segment e) : List (Joint × Segment e) → List Piece
  | [] => first.pieces
  | (j, s) :: rest => first.pieces ++ .joiner j.joiner :: joinedPieces s rest

theorem scan_of_group {s : Segment e} {t : List Char} (h : s.group = some t) :
    ∃ g, Group.scan e .plain 0 t = some g ∧ t = g.raw ++ [')'] ∧ g.rest = [] := by
  obtain ⟨g, hg, hr⟩ := s.closed t h
  have hs : Group.scan e .plain 0 t = some g := by
    unfold Group.ofText at hg
    split at hg
    · rename_i g' hg'
      rw [Except.ok.injEq] at hg
      exact hg ▸ hg'
    · simp at hg
  have ht := Group.scan_eq_some_append hs
  rw [hr] at ht
  exact ⟨g, hs, ht, hr⟩

theorem ofText_append (s : Segment e) (x : List Char) :
    Piece.ofText e (s.text ++ x) = s.pieces ++ Piece.ofText e x := by
  rw [text, pieces, List.append_assoc, List.append_assoc, Piece.ofText_chars s.name_chars]
  congr 1
  cases h : s.group with
  | none => rfl
  | some t =>
      obtain ⟨g, hs, ht, hr⟩ := scan_of_group h
      simp only [List.cons_append, List.nil_append]
      rw [Piece.ofText_group_of_scan (Group.scan_append hs x), hr, List.nil_append]
      simp [ht]

theorem ofText_joinedText (first : Segment e) (rest : List (Joint × Segment e)) :
    Piece.ofText e (joinedText first rest) = joinedPieces first rest := by
  induction rest generalizing first with
  | nil =>
      have h := ofText_append first []
      rwa [List.append_nil, Piece.ofText, List.append_nil] at h
  | cons p rest ih =>
      obtain ⟨j, s⟩ := p
      rw [joinedText, joinedPieces, ofText_append, Piece.ofText, j.reads]
      simp only [ih]

def node (body : Nat → List Char → Except Fault (List Term)) (room : Nat) (s : Segment e) :
    Except Fault Call :=
  match s.group with
  | none => .ok ⟨String.ofList s.name, []⟩
  | some t => (body room t.dropLast).map fun args => ⟨String.ofList s.name, args⟩

variable {body : Nat → List Char → Except Fault (List Term)} {limit room : Nat} {s : Segment e}

theorem isEmpty_of_node {c : Call} (h : s.node body room = .ok c) : c.isEmpty = false := by
  have hn : c.name = String.ofList s.name := by
    unfold node at h
    split at h
    · rw [Except.ok.injEq] at h
      rw [← h]
    · obtain ⟨args, -, rfl⟩ := map_eq_ok.1 h
      rfl
  have hne : c.name.isEmpty = false := by
    rw [hn, Bool.eq_false_iff, ne_eq, String.isEmpty_iff]
    intro h
    exact s.name_ne (by simpa using congrArg String.toList h)
  rw [Call.isEmpty, hne, Bool.false_and]

theorem gather_pieces (gathered : Option Aggregate) (ps : List Piece) :
    Query.gather body limit room gathered .empty (s.pieces ++ ps) =
      s.node body room >>= fun c => Query.gather body limit room gathered c ps := by
  rw [pieces, List.append_assoc, Query.gather_chars, node]
  simp only [Call.empty, String.toList_empty, List.nil_append]
  split
  · rfl
  · rw [List.singleton_append, Query.gather]
    rename_i t _
    cases body room t.dropLast <;> rfl

end Segment

namespace Call

/-- The call that joined calls make up. The joiner that comes first owns the level, and where the
other one comes up, the last call before it opens an aggregate that holds all the rest. -/
def joined (first : Call) : List (Joiner × Call) → Call
  | [] => first
  | (j, c) :: rest =>
      let run := c :: (rest.takeWhile (·.1 = j)).map (·.2)
      match _h : rest.dropWhile (·.1 = j) with
      | [] => ⟨j.name, (first :: run).map toTerm⟩
      | p :: others =>
          ⟨j.name, (first :: run.dropLast).map toTerm ++
            [(joined (run.getLast (by simp [run])) (p :: others)).toTerm]⟩
termination_by rest => rest.length
decreasing_by
  have h := congrArg List.length _h
  have := (List.dropWhile_sublist (p := (·.1 = j)) (l := rest)).length_le
  simp only [List.length_cons] at h ⊢
  omega

def joinedTo (a : Aggregate) (c : Call) (rest : List (Joiner × Call)) : Call :=
  let run := c :: (rest.takeWhile (·.1 = a.joiner)).map (·.2)
  match rest.dropWhile (·.1 = a.joiner) with
  | [] => ⟨a.joiner.name, a.args ++ run.map toTerm⟩
  | p :: others =>
      ⟨a.joiner.name, a.args ++ run.dropLast.map toTerm ++
        [(joined (run.getLast (by simp [run])) (p :: others)).toTerm]⟩

variable {a : Aggregate} {c d first : Call} {j : Joiner} {rest : List (Joiner × Call)}

theorem joined_cons :
    joined first ((j, c) :: rest) = joinedTo ⟨j, [first.toTerm]⟩ c rest := by
  rw [joined, joinedTo]
  split <;> rename_i h <;> simp [h]

theorem joinedTo_nil : joinedTo a c [] = ⟨a.joiner.name, a.args ++ [c.toTerm]⟩ := rfl

theorem joinedTo_same (h : a.joiner = j) :
    joinedTo a c ((j, d) :: rest) = joinedTo ⟨a.joiner, a.args ++ [c.toTerm]⟩ d rest := by
  subst h
  simp only [joinedTo, List.takeWhile_cons, List.dropWhile_cons, decide_true, if_true]
  split <;> rename_i h <;> simp [h]

theorem joinedTo_other (h : a.joiner ≠ j) :
    joinedTo a c ((j, d) :: rest) =
      ⟨a.joiner.name, a.args ++ [(joined c ((j, d) :: rest)).toTerm]⟩ := by
  have hj : decide (j = a.joiner) = false := decide_eq_false (Ne.symm h)
  simp [joinedTo, hj]

end Call

theorem Aggregate.add_of_isEmpty_eq_false {a : Aggregate} {c : Call} (h : c.isEmpty = false) :
    a.add c = ⟨a.joiner, a.args ++ [c.toTerm]⟩ := by
  rw [add, h]
  rfl

namespace Query

section

variable {e : Char} {body : Nat → List Char → Except Fault (List Term)} {limit top : Nat}
  {P : Segment e → Call → Prop}

/-- What is left of a level holds the calls of its segments. The invariant of `gather` is that the
calls gathered so far are those of the segments read so far. -/
theorem gather_joinedTo
    (hP : ∀ room ≤ top, ∀ s : Segment e, ∀ c, s.node body room = .ok c → P s c)
    {rest : List (Joint × Segment e)} {first : Segment e} {room : Nat} {a : Aggregate} {c : Call}
    (hr : room ≤ top)
    (h : gather body limit room (some a) .empty (first.joinedPieces rest) = .ok c) :
    ∃ head tail, P first head ∧
      List.Forall₂ (fun p q => q.1 = p.1.joiner ∧ P p.2 q.2) rest tail ∧
      c = Call.joinedTo a head tail := by
  induction rest generalizing first room a c with
  | nil =>
      rw [Segment.joinedPieces, ← List.append_nil first.pieces, Segment.gather_pieces] at h
      obtain ⟨head, hn, h⟩ := bind_eq_ok.1 h
      rw [gather, Aggregate.add_of_isEmpty_eq_false (Segment.isEmpty_of_node hn), pure_eq,
        Except.ok.injEq] at h
      refine ⟨head, [], hP room hr first head hn, .nil, ?_⟩
      rw [Call.joinedTo_nil, ← h, Aggregate.toCall]
  | cons p rest ih =>
      obtain ⟨j, s⟩ := p
      rw [Segment.joinedPieces, Segment.gather_pieces] at h
      obtain ⟨head, hn, h⟩ := bind_eq_ok.1 h
      have he := Segment.isEmpty_of_node hn
      -- A change of joiner starts an aggregate with the call just read.
      by_cases hj : a.joiner = j.joiner
      · rw [gather_same hj, Aggregate.add_of_isEmpty_eq_false he] at h
        obtain ⟨next, tail, hs, ht, hc⟩ := ih hr h
        exact ⟨head, (j.joiner, next) :: tail, hP room hr first head hn, .cons ⟨rfl, hs⟩ ht,
          hc.trans (Call.joinedTo_same hj).symm⟩
      · cases room with
        | zero => simp [gather_other_zero hj] at h
        | succ room =>
            rw [gather_other hj, Aggregate.add_of_isEmpty_eq_false he] at h
            obtain ⟨inner, hi, rfl⟩ := map_eq_ok.1 h
            obtain ⟨next, tail, hs, ht, rfl⟩ := ih (by omega) hi
            refine ⟨head, (j.joiner, next) :: tail, hP _ hr first head hn, .cons ⟨rfl, hs⟩ ht, ?_⟩
            rw [Call.joinedTo_other hj, Call.joined_cons]
            rfl

theorem gather_joined
    (hP : ∀ room ≤ top, ∀ s : Segment e, ∀ c, s.node body room = .ok c → P s c)
    {first : Segment e} {rest : List (Joint × Segment e)} {c : Call}
    (h : gather body limit top none .empty (first.joinedPieces rest) = .ok c) :
    ∃ head tail, P first head ∧
      List.Forall₂ (fun p q => q.1 = p.1.joiner ∧ P p.2 q.2) rest tail ∧
      c = Call.joined head tail := by
  cases rest with
  | nil =>
      rw [Segment.joinedPieces, ← List.append_nil first.pieces, Segment.gather_pieces] at h
      obtain ⟨head, hn, h⟩ := bind_eq_ok.1 h
      rw [gather, pure_eq, Except.ok.injEq] at h
      exact ⟨head, [], hP top (Nat.le_refl top) first head hn, .nil, by rw [Call.joined, h]⟩
  | cons p rest =>
      obtain ⟨j, s⟩ := p
      rw [Segment.joinedPieces, Segment.gather_pieces] at h
      obtain ⟨head, hn, h⟩ := bind_eq_ok.1 h
      rw [gather_first, Aggregate.add_of_isEmpty_eq_false (Segment.isEmpty_of_node hn)] at h
      obtain ⟨next, tail, hs, ht, hc⟩ := gather_joinedTo hP (Nat.le_refl top) h
      refine ⟨head, (j.joiner, next) :: tail, hP top (Nat.le_refl top) first head hn,
        .cons ⟨rfl, hs⟩ ht, ?_⟩
      rw [hc, Call.joined_cons]
      rfl

end

variable {tags : TagTable} {o : Options}

theorem upTo_readBody {fuel room room' : Nat} (hr : room ≤ room') (b : List Char) :
    UpTo (.parse (.tooDeep o.maxDepth)) (readBody tags o fuel room b)
      (readBody tags o fuel room' b) :=
  upTo_readBody_of_le (Nat.le_refl _) (Nat.le_refl _) hr b

theorem readCall_segment (s : Segment o.escape) (fuel room : Nat) :
    readCall tags o (fuel + 1) room s.text = s.node (readBody tags o fuel) room := by
  have ht := Segment.ofText_append s []
  rw [List.append_nil, Piece.ofText] at ht
  rw [readCall_succ, ht, Segment.gather_pieces]
  cases s.node (readBody tags o fuel) room <;> rfl

theorem readExpanded_segment (s : Segment o.escape) :
    readExpanded tags o (String.ofList s.text) =
      s.node (readBody tags o o.maxDepth) o.maxDepth := by
  rw [readExpanded, String.toList_ofList, readCall_segment]

/-- Joined segments are read as the joined calls that they are read as on their own. -/
theorem readExpanded_joinedText {first : Segment o.escape}
    {rest : List (Joint × Segment o.escape)} {c : Call}
    (h : readExpanded tags o (String.ofList (first.joinedText rest)) = .ok c) :
    ∃ head tail, readExpanded tags o (String.ofList first.text) = .ok head ∧
      List.Forall₂ (fun p q => q.1 = p.1.joiner ∧
        readExpanded tags o (String.ofList p.2.text) = .ok q.2) rest tail ∧
      c = Call.joined head tail := by
  rw [readExpanded, String.toList_ofList, readCall_succ, Segment.ofText_joinedText] at h
  let P (s : Segment o.escape) (c : Call) : Prop :=
    readExpanded tags o (String.ofList s.text) = .ok c
  refine gather_joined (P := P) (fun room hr s c hn => ?_) h
  simp only [P]
  rw [readExpanded_segment]
  unfold Segment.node at hn ⊢
  split at hn
  · exact hn
  · exact ((upTo_readBody hr _).map _).eq_ok hn

theorem readExpanded_joinedText_mixed :
    let a : Segment '\\' := ⟨['a'], some [')'], by decide, by decide, by
      rintro t ⟨⟩
      exact ⟨⟨[], [], []⟩, rfl, rfl⟩⟩
    let b : Segment '\\' := ⟨['b'], none, by decide, by decide, by simp⟩
    let c : Segment '\\' := ⟨['c'], none, by decide, by decide, by simp⟩
    let rest : List (Joint × Segment '\\') := [(⟨'&', .and, rfl⟩, b), (⟨'|', .or, rfl⟩, c)]
    let read : Call := ⟨"and", [.call "a" [], .call "or" [.call "b" [], .call "c" []]]⟩
    readExpanded .standard .default (String.ofList (a.joinedText rest)) = .ok read ∧
    ∃ head tail, readExpanded .standard .default (String.ofList a.text) = .ok head ∧
      List.Forall₂ (fun p q => q.1 = p.1.joiner ∧
        readExpanded .standard .default (String.ofList p.2.text) = .ok q.2) rest tail ∧
      read = Call.joined head tail := by
  intro a b c rest read
  have h : readExpanded .standard .default (String.ofList (a.joinedText rest)) = .ok read := by
    cbv
  exact ⟨h, readExpanded_joinedText (o := .default) h⟩

end Query

end ResourceQuery
