import Mathlib
import ResourceQuery.Proofs.Windows

namespace ResourceQuery.Shorthand

open Outcome Text

variable {b c : Char} {p o v s sign : List Char}

/-- The signs that a chain is read as, from the left: an equality sign takes up a second one, and a
bracket up to two. -/
def signs : List Char → List (List Char)
  | [] => []
  | '=' :: '=' :: s => ['=', '='] :: signs s
  | '=' :: s => ['='] :: signs s
  | b :: '=' :: '=' :: s => [b, '=', '='] :: signs s
  | b :: '=' :: s => [b, '='] :: signs s
  | b :: s => [b] :: signs s

def calls (property value : List Char) : List (List Char) → Except SyntaxFault (List Char)
  | [] => return []
  | sign :: signs => do
      let call ← Window.call ⟨property, sign, if signs = [] then value else [], []⟩
      let rest ← calls [] value signs
      return call ++ rest

theorem signs_eq_nil : signs s = [] ↔ s = [] := by
  fun_cases signs s <;> simp_all

theorem not_isIdent_of_isSign (h : isSign c) : ¬isIdent c := fun hi => not_isSign_of_isIdent hi h

theorem isSign_iff : isSign c ↔ c = '=' ∨ isBracket c := by
  simp [isSign, isBracket_iff, or_assoc]

theorem operand_chain (hp : ∀ c ∈ p, isIdent c) (hb : isSign b) (s : List Char) :
    operand (p ++ b :: s) = (p, b :: s) :=
  operand_run hp (not_isIdent_of_isSign hb) (ne_of_pos_of_neg hb (by decide))

theorem operand_signs (hs : ∀ c ∈ s, isSign c) (hv : ∀ c ∈ v, isIdent c) :
    operand (s ++ v) = if s = [] then (v, []) else ([], s ++ v) := by
  cases s with
  | nil =>
      have hg : group? v = none := by
        cases v with
        | nil => rfl
        | cons c v => exact group?_eq_none (not_opening_of_isIdent (hv c List.mem_cons_self))
      rw [if_pos rfl, List.nil_append, operand, hg, Option.getD_none, ident,
        List.takeWhile_eq_self_iff.2 hv, List.dropWhile_eq_nil_iff.2 hv]
  | cons b s =>
      rw [if_neg (by simp)]
      exact operand_chain (p := []) (by simp) (hs b List.mem_cons_self) (s ++ v)

theorem expandFrom_sign (hp : ∀ c ∈ p, isIdent c) (hv : ∀ c ∈ v, isIdent c)
    (ho : ∀ c ∈ b :: o, isSign c) (hs : ∀ c ∈ s, isSign c)
    (h : sign? (b :: o ++ v) = some (sign, s ++ v))
    (ih : s ≠ [] → expandFrom (s ++ v) = calls [] v (signs s)) :
    expandFrom (p ++ (b :: o ++ v)) = calls p v (sign :: signs s) := by
  have hw : window? (p ++ (b :: o ++ v)) =
      some ⟨p, sign, (operand (s ++ v)).1, (operand (s ++ v)).2⟩ := by
    rw [window?_eq, List.cons_append, operand_chain hp (ho b List.mem_cons_self)]
    rw [List.cons_append] at h
    rw [h]
    rfl
  rw [expandFrom_window hw, operand_signs hs hv, calls]
  by_cases hn : s = []
  · rw [hn]
    simp only [if_pos, signs, calls, expandFrom_nil, pure_eq]
  · rw [if_neg hn, if_neg (signs_eq_nil.not.2 hn), ih hn]
    rfl

theorem head?_ne_equal (h : ∀ t, s ≠ '=' :: t) : s.head? ≠ some '=' := fun hs =>
  (List.head?_eq_some_iff.1 hs).elim h

theorem head?_chain (hs : s.head? ≠ some '=') (hv : ∀ c ∈ v, isIdent c) :
    (s ++ v).head? ≠ some '=' := by
  intro h
  cases s with
  | nil => exact absurd (hv _ (List.mem_of_head? h)) (by decide)
  | cons c s => exact hs h

theorem withWord_chain (ho : ∀ c ∈ s, isSign c) (hs : s.head? ≠ some '=')
    (hv : ∀ c ∈ v, isIdent c) : withWord sign (s ++ v) = (sign, s ++ v) := by
  refine withWord_of_head? ?_
  cases s with
  | nil =>
      exact head?_chain (s := []) (by simp) fun c hc =>
        hv c ((List.dropWhile_sublist isWord).subset hc)
  | cons c s =>
      have hw : ¬isWord c := fun hw => not_isSign_of_isWord hw (ho c List.mem_cons_self)
      rw [List.cons_append, List.dropWhile_cons_of_neg hw]
      exact hs

/-- A chain between two runs of identifier characters expands to the calls for its signs. -/
theorem expandFrom_chain (hp : ∀ c ∈ p, isIdent c) (hv : ∀ c ∈ v, isIdent c)
    (ho : ∀ c ∈ o, isSign c) (hne : o ≠ []) :
    expandFrom (p ++ (o ++ v)) = calls p v (signs o) := by
  have hnil : ∀ c ∈ ([] : List Char), isIdent c := by simp
  fun_induction signs o generalizing p with
  | case1 => exact absurd rfl hne
  | case2 s ih =>
      have hs : ∀ c ∈ s, isSign c := fun c hc => ho c (by simp [hc])
      refine expandFrom_sign hp hv ho hs ?_ (ih hnil hs)
      exact congrArg some (withWord_word (w := []) ['='] (s ++ v) (by simp))
  | case3 s hn ih =>
      have hs : ∀ c ∈ s, isSign c := fun c hc => ho c (by simp [hc])
      refine expandFrom_sign hp hv ho hs ?_ (ih hnil hs)
      exact congrArg some (withWord_chain hs (head?_ne_equal hn) hv)
  | case4 b s hn ih =>
      have hs : ∀ c ∈ s, isSign c := fun c hc => ho c (by simp [hc])
      have hb : isBracket b := (isSign_iff.1 (ho b List.mem_cons_self)).resolve_left hn
      refine expandFrom_sign hp hv ho hs ?_ (ih hnil hs)
      exact (sign?_bracket_equal hb _).trans
        (congrArg some (withWord_word (w := []) [b, '='] (s ++ v) (by simp)))
  | case5 b s hn he ih =>
      have hs : ∀ c ∈ s, isSign c := fun c hc => ho c (by simp [hc])
      have hb : isBracket b := (isSign_iff.1 (ho b List.mem_cons_self)).resolve_left hn
      refine expandFrom_sign hp hv ho hs ?_ (ih hnil hs)
      exact (sign?_bracket_equal hb _).trans
        (congrArg some (withWord_chain hs (head?_ne_equal he) hv))
  | case6 b s _ hn _ he ih =>
      have hs : ∀ c ∈ s, isSign c := fun c hc => ho c (by simp [hc])
      have hb : isBracket b := (isSign_iff.1 (ho b List.mem_cons_self)).resolve_left hn
      refine expandFrom_sign hp hv ho hs ?_ (ih hnil hs)
      exact sign?_bracket hb (head?_chain (head?_ne_equal he) hv)

/-- Somewhere in the chain a bracket stands before two equality signs. -/
def Overlong (s : List Char) : Prop := ∃ b, isBracket b ∧ [b, '=', '='] <:+: s

theorem not_overlong_nil : ¬Overlong [] := by
  rintro ⟨b, -, h⟩
  simp at h

theorem overlong_cons : Overlong (c :: s) ↔ isBracket c ∧ ['=', '='] <+: s ∨ Overlong s := by
  simp only [Overlong, List.infix_cons_iff, List.cons_prefix_cons]
  constructor
  · rintro ⟨b, hb, ⟨rfl, hp⟩ | hi⟩
    · exact .inl ⟨hb, hp⟩
    · exact .inr ⟨b, hb, hi⟩
  · rintro (⟨hb, hp⟩ | ⟨b, hb, hi⟩)
    · exact ⟨c, hb, .inl ⟨rfl, hp⟩⟩
    · exact ⟨b, hb, .inr hi⟩

theorem overlong_equal : Overlong ('=' :: s) ↔ Overlong s := by
  simp [overlong_cons, show ¬isBracket '=' by decide]

theorem overlong_cons_of_absent (h : ¬['=', '='] <+: s) : Overlong (c :: s) ↔ Overlong s := by
  simp [overlong_cons, h]

/-- A chain is accepted unless it is overlong. In an overlong one the first bracket before two
equality signs is illegal together with them. -/
structure DecidedBy {α : Type} (s : List Char) (r : Except SyntaxFault α) : Prop where
  ok : ¬Overlong s → ∃ a, r = .ok a
  error : Overlong s → ∃ x b y, s = x ++ b :: '=' :: '=' :: y ∧ isBracket b ∧ ¬Overlong x ∧
    r = .error (.illegalOperator (String.ofList [b, '=', '=']))

theorem DecidedBy.map {α β : Type} {r : Except SyntaxFault α} (h : DecidedBy s r) (f : α → β) :
    DecidedBy s (r.map f) := by
  refine ⟨fun hs => ?_, fun hs => ?_⟩
  · obtain ⟨a, ha⟩ := h.ok hs
    exact ⟨f a, map_eq_ok.2 ⟨a, ha, rfl⟩⟩
  · obtain ⟨x, b, y, hxy, hb, hx, hr⟩ := h.error hs
    exact ⟨x, b, y, hxy, hb, hx, map_eq_error.2 hr⟩

theorem calls_cons {name : List Char} (h : callName sign = .ok name) (signs : List (List Char)) :
    ∃ call, calls p v (sign :: signs) = (calls [] v signs).map (call ++ ·) := by
  refine ⟨name ++ '(' :: p ++ ',' :: (if signs = [] then v else []) ++ [')'], ?_⟩
  rw [calls, Window.call, h]
  cases calls [] v signs <;> rfl

/-- A sign with a name that makes nothing after it overlong leaves the decision to what follows. -/
theorem decidedBy_cons (sign : List Char) {name : List Char} (hname : callName sign = .ok name)
    (h : DecidedBy s (calls [] v (signs s)))
    (hs : ∀ x, x <+: s → (Overlong (sign ++ x) ↔ Overlong x)) :
    DecidedBy (sign ++ s) (calls p v (sign :: signs s)) := by
  obtain ⟨call, hc⟩ := calls_cons (p := p) (v := v) hname (signs s)
  have hm := h.map (call ++ ·)
  rw [hc]
  refine ⟨fun hn => hm.ok ((hs s List.prefix_rfl).not.1 hn), fun ho => ?_⟩
  obtain ⟨x, b, y, rfl, hb, hx, hr⟩ := hm.error ((hs s List.prefix_rfl).1 ho)
  exact ⟨sign ++ x, b, y, by simp, hb, (hs x (List.prefix_append _ _)).not.2 hx, hr⟩

theorem exists_callName_bracket (hb : isBracket b) : ∃ name, callName [b] = .ok name := by
  rcases isBracket_iff.1 hb with rfl | rfl <;> exact ⟨_, rfl⟩

theorem exists_callName_bracket_equal (hb : isBracket b) :
    ∃ name, callName [b, '='] = .ok name := by
  rcases isBracket_iff.1 hb with rfl | rfl <;> exact ⟨_, rfl⟩

theorem decidedBy_calls (ho : ∀ c ∈ o, isSign c) : DecidedBy o (calls p v (signs o)) := by
  fun_induction signs o generalizing p with
  | case1 => exact ⟨fun _ => ⟨[], rfl⟩, fun h => absurd h not_overlong_nil⟩
  | case2 s ih =>
      have hs : ∀ c ∈ s, isSign c := fun c hc => ho c (by simp [hc])
      exact decidedBy_cons ['=', '='] rfl (ih hs) fun x _ =>
        overlong_equal.trans overlong_equal
  | case3 s hn ih =>
      have hs : ∀ c ∈ s, isSign c := fun c hc => ho c (by simp [hc])
      exact decidedBy_cons ['='] rfl (ih hs) fun x _ => overlong_equal
  | case4 b s hn ih =>
      have hb : isBracket b := (isSign_iff.1 (ho b List.mem_cons_self)).resolve_left hn
      have hl : Overlong (b :: '=' :: '=' :: s) := overlong_cons.2 (.inl ⟨hb, ⟨s, rfl⟩⟩)
      refine ⟨fun h => absurd hl h, fun _ => ⟨[], b, s, rfl, hb, not_overlong_nil, ?_⟩⟩
      rw [calls, Window.call, callName_illegal (by simpa using hn) (by simp)]
      rfl
  | case5 b s hn he ih =>
      have hs : ∀ c ∈ s, isSign c := fun c hc => ho c (by simp [hc])
      have hb : isBracket b := (isSign_iff.1 (ho b List.mem_cons_self)).resolve_left hn
      obtain ⟨name, hname⟩ := exists_callName_bracket_equal hb
      refine decidedBy_cons [b, '='] hname (ih hs) fun x hx => ?_
      have hp : ¬['=', '='] <+: '=' :: x := fun hp =>
        not_equal_prefix (head?_ne_equal he) ((List.cons_prefix_cons.1 hp).2.trans hx)
      exact (overlong_cons_of_absent hp).trans overlong_equal
  | case6 b s _ hn _ he ih =>
      have hs : ∀ c ∈ s, isSign c := fun c hc => ho c (by simp [hc])
      have hb : isBracket b := (isSign_iff.1 (ho b List.mem_cons_self)).resolve_left hn
      obtain ⟨name, hname⟩ := exists_callName_bracket hb
      refine decidedBy_cons [b] hname (ih hs) fun x hx => ?_
      have hp : ¬['=', '='] <+: x := fun hp =>
        not_equal_prefix (head?_ne_equal he) ((List.IsPrefix.trans ⟨['='], rfl⟩ hp).trans hx)
      exact overlong_cons_of_absent hp

theorem noBracket_chain (hp : NoBracket p) (ho : ∀ c ∈ o, isSign c) (hne : o ≠ [])
    (hv : NoBracket v) : NoBracket (p ++ (o ++ v)) := by
  have other {c : Char} (h : isSign c) : c ≠ '%' ∧ c ≠ '3' ∧ c ≠ 'C' ∧ c ≠ 'E' :=
    ⟨ne_of_pos_of_neg h (by decide), ne_of_pos_of_neg h (by decide),
      ne_of_pos_of_neg h (by decide), ne_of_pos_of_neg h (by decide)⟩
  induction o generalizing p with
  | nil => exact absurd rfl hne
  | cons c o ih =>
      rw [List.forall_mem_cons] at ho
      refine hp.append_cons (other ho.1) ?_
      cases o with
      | nil => exact hv
      | cons d o => exact ih (p := []) (noBracket_of_notMem (by simp)) ho.2 (by simp)

/-- Between two runs of identifier characters a chain expands to the calls for the signs in it, and
it is accepted unless a bracket in it stands before two equality signs. -/
theorem expand_chain (hp : ∀ c ∈ p, isIdent c) (hv : ∀ c ∈ v, isIdent c) (hpb : NoBracket p)
    (hvb : NoBracket v) (ho : ∀ c ∈ o, isSign c) (hne : o ≠ []) :
    expand (String.ofList (p ++ (o ++ v))) = (calls p v (signs o)).map String.ofList ∧
      DecidedBy o (expand (String.ofList (p ++ (o ++ v)))) := by
  have h : expand (String.ofList (p ++ (o ++ v))) = (calls p v (signs o)).map String.ofList := by
    rw [expand, String.toList_ofList, decodeBrackets_eq (noBracket_chain hpb ho hne hvb),
      expandFrom_chain hp hv ho hne]
  refine ⟨h, ?_⟩
  rw [h]
  exact (decidedBy_calls ho).map _

theorem expand_chain_overlong :
    Overlong "=>==".toList ∧ expand "a=>==b" = .error (.illegalOperator ">==") := by
  refine ⟨⟨'>', by decide, by decide⟩, ?_⟩
  exact (expand_chain (p := ['a']) (v := ['b']) (o := "=>==".toList) (by decide) (by decide)
    (noBracket_of_notMem (by decide)) (noBracket_of_notMem (by decide)) (by decide) (by decide)).1

/-- Chains that are no comparison become calls without a property or without a value. -/
theorem expand_chain_silent :
    expand "a===b" = .ok "eq(a,)eq(,b)" ∧ expand "a<<b" = .ok "lt(a,)lt(,b)" ∧
      expand "a=<b" = .ok "eq(a,)lt(,b)" ∧ expand "a<>b" = .ok "lt(a,)gt(,b)" := by
  refine ⟨?_, ?_, ?_, ?_⟩ <;> cbv

end ResourceQuery.Shorthand
