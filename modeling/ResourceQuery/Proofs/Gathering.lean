import ResourceQuery.Query
import ResourceQuery.Proofs.Grouping
import ResourceQuery.Proofs.Outcome

namespace ResourceQuery

open Outcome

def IsNameChar (c : Char) : Prop := Joiner.ofChar? c = none ∧ c ≠ '('

instance (c : Char) : Decidable (IsNameChar c) := by
  unfold IsNameChar
  infer_instance

namespace Piece

variable {e : Char} {s x y : List Char}

theorem ofText_char {c : Char} (h : IsNameChar c) : ofText e (c :: s) = char c :: ofText e s := by
  rw [ofText, h.1]
  simp only [if_neg h.2]

theorem ofText_chars {name : List Char} (h : ∀ c ∈ name, IsNameChar c) :
    ofText e (name ++ s) = name.map char ++ ofText e s := by
  induction name with
  | nil => rfl
  | cons c name ih =>
      simp only [List.mem_cons, forall_eq_or_imp] at h
      rw [List.cons_append, ofText_char h.1, ih h.2]
      rfl

theorem ofText_joiner {c : Char} {j : Joiner} (h : Joiner.ofChar? c = some j) (s : List Char) :
    ofText e (c :: s) = joiner j :: ofText e s := by
  rw [ofText, h]

theorem ofText_group_of_scan {g : Group} (h : Group.scan e .plain 0 s = some g) :
    ofText e ('(' :: s) = group g.raw :: ofText e g.rest := by
  rw [ofText]
  simp only [show Joiner.ofChar? '(' = none by decide, if_true]
  split
  · rename_i g' h'
    obtain rfl := Option.some.inj (h.symm.trans h')
    rfl
  · rename_i h'
    simp [h] at h'

theorem ofText_group (hx : Group.Passes e x y) (hc : ')' ≠ e) :
    ofText e ('(' :: x ++ ')' :: s) = group x :: ofText e s := by
  rw [List.cons_append, ofText_group_of_scan (hx.scan hc s)]

end Piece

namespace Query

def readBody (tags : TagTable) (o : Options) (fuel room : Nat) (b : List Char) :
    Except Fault (List Term) := do
  let chunks ← (Chunk.ofBody o.escape o.maxDepth b).mapError .parse
  arguments tags.read (readCall tags o fuel) o.maxDepth room chunks

theorem readBody_of_ofBody {e : Char} {limit : Nat} {b : List Char} {cs : List Chunk}
    (h : Chunk.ofBody e limit b = .ok cs) (tags : TagTable) (fuel room : Nat) :
    readBody tags ⟨e, limit⟩ fuel room b =
      arguments tags.read (readCall tags ⟨e, limit⟩ fuel) limit room cs := by
  rw [readBody, h]
  rfl

theorem readCall_succ (tags : TagTable) (o : Options) (fuel room : Nat) (s : List Char) :
    readCall tags o (fuel + 1) room s = gather (readBody tags o fuel) o.maxDepth room none .empty
      (Piece.ofText o.escape s) := rfl

section

variable {body : Nat → List Char → Except Fault (List Term)} {limit room : Nat}

theorem gather_chars {gathered : Option Aggregate} {current : Call} {name : List Char}
    {ps : List Piece} : gather body limit room gathered current (name.map .char ++ ps) =
      gather body limit room gathered
        ⟨String.ofList (current.name.toList ++ name), current.args⟩ ps := by
  induction name generalizing current with
  | nil => simp
  | cons c name ih =>
      rw [List.map_cons, List.cons_append, gather, ih]
      simp

variable {a : Aggregate} {current : Call} {j : Joiner} {ps : List Piece}

theorem gather_first : gather body limit room none current (.joiner j :: ps) =
    gather body limit room (some ((Aggregate.start j).add current)) .empty ps := by
  rw [gather]

theorem gather_same (h : a.joiner = j) :
    gather body limit room (some a) current (.joiner j :: ps) =
      gather body limit room (some (a.add current)) .empty ps := by
  rw [gather.eq_def]
  simp only [if_pos h]

theorem gather_other (h : a.joiner ≠ j) :
    gather body limit (room + 1) (some a) current (.joiner j :: ps) =
      (gather body limit room (some ((Aggregate.start j).add current)) .empty ps).map
        fun inner => ⟨a.joiner.name, a.args ++ [inner.toTerm]⟩ := by
  rw [gather.eq_def]
  simp only [if_neg h]
  cases gather body limit room (some ((Aggregate.start j).add current)) .empty ps <;> rfl

theorem gather_other_zero (h : a.joiner ≠ j) :
    gather body limit 0 (some a) current (.joiner j :: ps) =
      .error (.parse (.tooDeep limit)) := by
  rw [gather.eq_def]
  simp only [if_neg h]
  rfl

theorem gather_call {name x : List Char} :
    gather body limit room none .empty (name.map .char ++ [.group x]) =
      (body room x).map fun args => ⟨String.ofList name, args⟩ := by
  rw [gather_chars, gather]
  simp only [gather, Call.empty, String.toList_empty, List.nil_append]
  cases body room x <;> rfl

end

/-- A name and a group are read as a call with the arguments in the group. -/
theorem readCall_call {tags : TagTable} {o : Options} {fuel room : Nat} {name x y : List Char}
    (hn : ∀ c ∈ name, IsNameChar c) (hx : Group.Passes o.escape x y) (hc : ')' ≠ o.escape) :
    readCall tags o (fuel + 1) room (name ++ ('(' :: x ++ [')'])) =
      (readBody tags o fuel room x).map fun args => ⟨String.ofList name, args⟩ := by
  rw [readCall_succ, Piece.ofText_chars hn, Piece.ofText_group hx hc, Piece.ofText, gather_call]

theorem startsCall_of_isWord {name s : List Char} (hne : name ≠ [])
    (h : ∀ c ∈ name, Text.isWord c) : startsCall (name ++ '(' :: s) := by
  have htake : (name ++ '(' :: s).takeWhile Text.isWord = name := by
    rw [List.takeWhile_append_of_pos h]
    simp [show Text.isWord '(' = false by decide]
  have hne' : name.isEmpty = false := by simpa using hne
  simp [startsCall, htake, hne']

/-- A text shows to be that of a call by what stands before its first parenthesis. -/
theorem isWord_of_startsCall {name s : List Char} (ho : '(' ∉ name)
    (h : startsCall (name ++ '(' :: s)) : name ≠ [] ∧ ∀ c ∈ name, Text.isWord c := by
  induction name with
  | nil => simp [startsCall, show Text.isWord '(' = false by decide] at h
  | cons c name ih =>
      simp only [List.mem_cons, not_or] at ho
      refine ⟨by simp, ?_⟩
      by_cases hw : Text.isWord c
      · cases name with
        | nil => simpa using hw
        | cons d name =>
            simp only [List.mem_cons, forall_eq_or_imp] at ih ⊢
            refine ⟨hw, (ih (by simpa using ho.2) ?_).2⟩
            by_cases hd : Text.isWord d
            · simpa [startsCall, hw, hd] using h
            · simp only [List.mem_cons, not_or] at ho
              simp [startsCall, hw, hd, Ne.symm ho.2.1] at h
      · simp [startsCall, hw] at h

theorem startsCall_eq_false {s : List Char} (h : '(' ∉ s) : startsCall s = false := by
  have hd : (s.drop (s.takeWhile Text.isWord).length).head? ≠ some '(' := fun hh =>
    h (List.mem_of_mem_drop (List.mem_of_head? hh))
  simp only [startsCall, Bool.and_eq_false_iff]
  exact .inr (beq_eq_false_iff_ne.2 hd)

section

variable {leaf : String → Except Fault Value} {call : Nat → List Char → Except Fault Call}
  {limit room : Nat} {s : String}

theorem argument_leaf (h : startsCall s.toList = false) :
    argument leaf call limit room (.text s) = (leaf s).map .leaf := by
  simp only [argument.eq_def, h]
  cases leaf s <;> rfl

theorem argument_call (h : startsCall s.toList) :
    argument leaf call limit (room + 2) (.text s) = (call room s.toList).map Call.toTerm := by
  rw [argument, if_pos h]
  cases call room s.toList <;> rfl

theorem argument_tooDeep (h : startsCall s.toList) (hr : room < 2) :
    argument leaf call limit room (.text s) = .error (.parse (.tooDeep limit)) := by
  match room with
  | 0 | 1 => simp [argument.eq_def, h]

theorem arguments_nil : arguments leaf call limit room [] = .ok [] := by
  rw [arguments]
  rfl

theorem arguments_singleton (c : Chunk) :
    arguments leaf call limit room [c] = (argument leaf call limit room c).map ([·]) := by
  rw [arguments, arguments]
  cases argument leaf call limit room c <;> rfl

/-- Only a text that shows to be that of a call is read as one. -/
theorem exists_of_argument_call {tags : TagTable} {o : Options} {fuel : Nat} {name : String}
    {args : List Term}
    (h : argument leaf (readCall tags o fuel) limit room (.text s) = .ok (.call name args)) :
    startsCall s.toList ∧ ∃ r k, room = r + 2 ∧ fuel = k + 1 ∧
      readCall tags o (k + 1) r s.toList = .ok ⟨name, args⟩ := by
  by_cases hs : startsCall s.toList
  · by_cases hr : room < 2
    · simp [argument_tooDeep hs hr] at h
    · obtain ⟨r, rfl⟩ : ∃ r, room = r + 2 := ⟨room - 2, by omega⟩
      rw [argument_call hs, map_eq_ok] at h
      obtain ⟨c, hread, hc⟩ := h
      obtain ⟨rfl, rfl⟩ := Term.call.inj hc
      cases fuel with
      | zero => simp [readCall] at hread
      | succ k => exact ⟨hs, r, k, rfl, rfl, hread⟩
  · rw [argument_leaf (Bool.eq_false_iff.2 hs), map_eq_ok] at h
    obtain ⟨v, -, hv⟩ := h
    simp at hv

end

end Query

end ResourceQuery
