import Mathlib
import ResourceQuery.Proofs.Gathering
import ResourceQuery.Proofs.Splitting

namespace ResourceQuery

open Outcome Text

/-- The same results, unless the first one is the fault `e`. -/
def UpTo {ε α : Type} (e : ε) (x y : Except ε α) : Prop := x = .error e ∨ x = y

namespace UpTo

variable {ε ε' α β : Type} {e : ε} {x y : Except ε α}

theorem refl (e : ε) (x : Except ε α) : UpTo e x x := .inr rfl

theorem fault (e : ε) (y : Except ε α) : UpTo e (.error e) y := .inl rfl

theorem bind {f g : α → Except ε β} (h : UpTo e x y) (hf : ∀ a, x = .ok a → UpTo e (f a) (g a)) :
    UpTo e (x >>= f) (y >>= g) := by
  rcases h with rfl | rfl
  · exact fault e _
  · cases x with
    | ok a => exact hf a rfl
    | error i => exact refl e _

theorem map (h : UpTo e x y) (f : α → β) : UpTo e (x.map f) (y.map f) := by
  rcases h with rfl | rfl
  · exact fault e _
  · exact refl e _

theorem mapError {f : ε → ε'} (h : UpTo e x y) : UpTo (f e) (x.mapError f) (y.mapError f) := by
  rcases h with rfl | rfl
  · exact fault (f e) _
  · exact refl _ _

theorem antisymm (h : UpTo e x y) (h' : UpTo e y x) : x = y := by
  rcases h with rfl | rfl
  · rcases h' with rfl | rfl <;> rfl
  · rfl

theorem eq_ok {a : α} (h : UpTo e x y) (hx : x = .ok a) : y = .ok a := by
  rcases h with rfl | rfl
  · simp at hx
  · exact hx

end UpTo

namespace Chunk

theorem upTo_splitFrom {e : Char} {limit limit' room room' : Nat} {q : Quoting}
    {read s : List Char} (hr : room ≤ room') :
    UpTo (.tooDeep limit) (splitFrom e limit room q read s)
      (splitFrom e limit' room' q read s) := by
  fun_induction splitFrom e limit room q read s generalizing room' with
  | case1 room q read =>
      rw [splitFrom]
      exact .refl _ _
  | case2 room q read c s q' hq ih | case3 room q read c s q' hq ih =>
      rw [splitFrom, hq]
      exact ih hr
  | case4 => exact .fault _ _
  -- The check of the depth comes before that of the parenthesis.
  | case5 room q read s q' hs hne hq =>
      obtain ⟨rfl, -, ho⟩ := Quoting.step_structural hq
      rw [splitFrom_unclosed hs ho, if_neg]
      · exact .refl _ _
      · simp only [Bool.and_eq_true, beq_iff_eq, not_and] at hne ⊢
        intro he
        have := hne he
        omega
  | case6 => exact .fault _ _
  | case7 q read s q' g hs hne room hq ihi ihr =>
      obtain ⟨rfl, -, ho⟩ := Quoting.step_structural hq
      obtain rfl := List.isEmpty_iff.1 hne
      obtain ⟨room', rfl⟩ : ∃ r, room' = r + 1 := ⟨room' - 1, by omega⟩
      rw [splitFrom_list_of_scan hs ho]
      exact (ihi (by omega)).bind fun items _ => (ihr hr).bind fun rest _ => .refl _ _
  | case8 room q read s q' g hs hne hq ih =>
      obtain ⟨rfl, rfl, ho⟩ := Quoting.step_structural hq
      rw [splitFrom_call_of_scan hs ho fun hr => hne (List.isEmpty_iff.2 hr)]
      exact ih hr
  | case9 room q read s q' hq hne ih =>
      rw [splitFrom, hq]
      simp only [if_neg hne, if_true]
      exact (ih hr).bind fun rest _ => .refl _ _
  | case10 room q read c s q' hq ho hc hb ih =>
      rw [splitFrom, hq]
      simp only [if_neg ho, if_neg hc, if_pos hb]
      exact ih hr
  | case11 room q read c s q' hq ho hc hb ih =>
      rw [splitFrom, hq]
      simp only [if_neg ho, if_neg hc, if_neg hb]
      exact ih hr

end Chunk

namespace Query

variable {leaf : String → Except Fault Value} {call call' : Nat → List Char → Except Fault Call}
  {limit limit' : Nat}

mutual

theorem upTo_argument {room room' : Nat} (hr : room ≤ room')
    (hc : ∀ r r' s, r ≤ r' → r + 2 ≤ room →
      UpTo (.parse (.tooDeep limit)) (call r s) (call' r' s)) (c : Chunk) :
    UpTo (.parse (.tooDeep limit)) (argument leaf call limit room c)
      (argument leaf call' limit' room' c) := by
  match c with
  | .list items =>
      rw [argument, argument]
      exact (upTo_arguments (Nat.sub_le_sub_right hr 1)
        (fun r r' s h hs => hc r r' s h (by omega)) items).bind fun _ _ => .refl _ _
  | .text s =>
      by_cases hs : startsCall s.toList
      · by_cases h : room < 2
        · rw [argument_tooDeep hs h]
          exact .fault _ _
        · obtain ⟨room, rfl⟩ : ∃ r, room = r + 2 := ⟨room - 2, by omega⟩
          obtain ⟨room', rfl⟩ : ∃ r, room' = r + 2 := ⟨room' - 2, by omega⟩
          rw [argument, argument, if_pos hs, if_pos hs]
          exact (hc room room' s.toList (by omega) (by omega)).bind fun _ _ => .refl _ _
      · have hs := Bool.eq_false_iff.2 hs
        rw [argument_leaf hs, argument_leaf hs]
        exact .refl _ _

theorem upTo_arguments {room room' : Nat} (hr : room ≤ room')
    (hc : ∀ r r' s, r ≤ r' → r + 2 ≤ room →
      UpTo (.parse (.tooDeep limit)) (call r s) (call' r' s)) (cs : List Chunk) :
    UpTo (.parse (.tooDeep limit)) (arguments leaf call limit room cs)
      (arguments leaf call' limit' room' cs) := by
  match cs with
  | [] => exact .refl _ _
  | c :: cs =>
      rw [arguments, arguments]
      exact (upTo_argument hr hc c).bind fun _ _ =>
        (upTo_arguments hr hc cs).bind fun _ _ => .refl _ _

end

theorem upTo_gather {body body' : Nat → List Char → Except Fault (List Term)}
    {room room' : Nat} (hr : room ≤ room')
    (hb : ∀ r r' b, r ≤ r' → r ≤ room → UpTo (.parse (.tooDeep limit)) (body r b) (body' r' b))
    (gathered : Option Aggregate) (current : Call) (ps : List Piece) :
    UpTo (.parse (.tooDeep limit)) (gather body limit room gathered current ps)
      (gather body' limit' room' gathered current ps) := by
  induction ps generalizing room room' gathered current with
  | nil => cases gathered <;> exact .refl _ _
  | cons p ps ih =>
      cases p with
      | char c =>
          rw [gather, gather]
          exact ih hr hb _ _
      | group b =>
          rw [gather, gather]
          exact (hb room room' b hr (Nat.le_refl _)).bind fun _ _ => ih hr hb _ _
      | unclosed s =>
          rw [gather, gather]
          exact .refl _ _
      | joiner j =>
          cases gathered with
          | none =>
              rw [gather_first, gather_first]
              exact ih hr hb _ _
          | some a =>
              by_cases hj : a.joiner = j
              · rw [gather_same hj, gather_same hj]
                exact ih hr hb _ _
              · cases room with
                | zero =>
                    rw [gather_other_zero hj]
                    exact .fault _ _
                | succ room =>
                    obtain ⟨room', rfl⟩ : ∃ r, room' = r + 1 := ⟨room' - 1, by omega⟩
                    rw [gather_other hj, gather_other hj]
                    exact (ih (by omega) (fun r r' b h hs => hb r r' b h (by omega)) _ _).map _

theorem upTo_readBody_of_call {tags : TagTable} {e : Char} (hl : limit ≤ limit') {fuel fuel' : Nat}
    {room room' : Nat} (hr : room ≤ room')
    (hc : ∀ r r' s, r ≤ r' → r + 2 ≤ room → UpTo (.parse (.tooDeep limit))
      (readCall tags ⟨e, limit⟩ fuel r s) (readCall tags ⟨e, limit'⟩ fuel' r' s)) (b : List Char) :
    UpTo (.parse (.tooDeep limit)) (readBody tags ⟨e, limit⟩ fuel room b)
      (readBody tags ⟨e, limit'⟩ fuel' room' b) := by
  have hs : UpTo _ (Chunk.ofBody e limit b) (Chunk.ofBody e limit' b) := Chunk.upTo_splitFrom hl
  exact (hs.mapError (f := Fault.parse)).bind fun chunks _ => upTo_arguments hr hc chunks

/-- Neither more room nor more fuel nor a wider limit takes anything from a reader, and with fuel
for all of the room no other fuel gives it more. -/
theorem upTo_readCall {tags : TagTable} {e : Char} (hl : limit ≤ limit') {fuel fuel' : Nat}
    {room room' : Nat} (hf : fuel ≤ fuel' ∨ room < 2 * fuel') (hr : room ≤ room') (s : List Char) :
    UpTo (.parse (.tooDeep limit)) (readCall tags ⟨e, limit⟩ fuel room s)
      (readCall tags ⟨e, limit'⟩ fuel' room' s) := by
  induction fuel generalizing fuel' room room' s with
  | zero => exact .fault _ _
  | succ fuel ih =>
      obtain ⟨fuel', rfl⟩ : ∃ k, fuel' = k + 1 := ⟨fuel' - 1, by omega⟩
      rw [readCall_succ, readCall_succ]
      refine upTo_gather hr (fun r r' b h hs => ?_) _ _ _
      exact upTo_readBody_of_call hl h (fun _ _ s h _ => ih (by omega) h s) b

theorem upTo_readBody_of_le {tags : TagTable} {e : Char} (hl : limit ≤ limit') {fuel fuel' : Nat}
    (hf : fuel ≤ fuel') {room room' : Nat} (hr : room ≤ room') (b : List Char) :
    UpTo (.parse (.tooDeep limit)) (readBody tags ⟨e, limit⟩ fuel room b)
      (readBody tags ⟨e, limit'⟩ fuel' room' b) :=
  upTo_readBody_of_call hl hr (fun _ _ s h _ => upTo_readCall hl (.inl hf) h s) b

/-- The fuel does not run out before the room does. -/
theorem readCall_eq_of_fuel {tags : TagTable} {o : Options} {fuel fuel' room : Nat}
    (hf : room < 2 * fuel) (hf' : room < 2 * fuel') (s : List Char) :
    readCall tags o fuel room s = readCall tags o fuel' room s :=
  have h := Nat.le_refl o.maxDepth
  have hr := Nat.le_refl room
  (upTo_readCall h (.inr hf') hr s).antisymm (upTo_readCall h (.inr hf) hr s)

theorem upTo_readExpanded {tags : TagTable} {e : Char} (hl : limit ≤ limit') (text : String) :
    UpTo (.parse (.tooDeep limit)) (readExpanded tags ⟨e, limit⟩ text)
      (readExpanded tags ⟨e, limit'⟩ text) :=
  upTo_readCall hl (.inl (Nat.succ_le_succ hl)) hl text.toList

theorem upTo_read {tags : TagTable} {e : Char} (hl : limit ≤ limit') (text : String) :
    UpTo (.parse (.tooDeep limit)) (read tags ⟨e, limit⟩ text) (read tags ⟨e, limit'⟩ text) := by
  unfold read
  split
  · exact .refl _ _
  · exact .refl _ _
  · exact (UpTo.refl _ _).bind fun expanded _ => upTo_readExpanded hl expanded

/-- A limit only ever rejects: what is read under it is read the same under a wider one. -/
theorem read_eq_of_limit_le {tags : TagTable} {e : Char} {m m' : Nat} (h : m ≤ m')
    (text : String) :
    (read tags ⟨e, m⟩ text ≠ .error (.parse (.tooDeep m)) →
      read tags ⟨e, m'⟩ text = read tags ⟨e, m⟩ text) ∧
    (readExpanded tags ⟨e, m⟩ text ≠ .error (.parse (.tooDeep m)) →
      readExpanded tags ⟨e, m'⟩ text = readExpanded tags ⟨e, m⟩ text) :=
  ⟨fun hr => ((upTo_read h text).resolve_left hr).symm,
    fun hr => ((upTo_readExpanded h text).resolve_left hr).symm⟩

theorem read_eq_of_limit_le_nested :
    read .standard ⟨'\\', 1⟩ "a(b())" = .error (.parse (.tooDeep 1)) ∧
    read .standard ⟨'\\', 2⟩ "a(b())" = .ok ⟨"a", [.call "b" []]⟩ ∧
    read .standard ⟨'\\', 128⟩ "a(b())" = .ok ⟨"a", [.call "b" []]⟩ ∧
    readExpanded .standard ⟨'\\', 0⟩ "a(b" = .error (.parse (.unclosedGroup "(b")) ∧
    readExpanded .standard ⟨'\\', 128⟩ "a(b" = .error (.parse (.unclosedGroup "(b")) := by
  have hnone : read .standard ⟨'\\', 1⟩ "a(b())" = .error (.parse (.tooDeep 1)) := by cbv
  have hr : read .standard ⟨'\\', 2⟩ "a(b())" = .ok ⟨"a", [.call "b" []]⟩ := by cbv
  have hx : readExpanded .standard ⟨'\\', 0⟩ "a(b" = .error (.parse (.unclosedGroup "(b")) := by
    cbv
  refine ⟨hnone, hr, ?_, hx, ?_⟩
  · rw [(read_eq_of_limit_le (by decide : 2 ≤ 128) "a(b())").1 (by simp [hr]), hr]
  · rw [(read_eq_of_limit_le (by decide : 0 ≤ 128) "a(b").2 (by simp [hx]), hx]

end Query

end ResourceQuery
