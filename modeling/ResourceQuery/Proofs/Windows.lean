import ResourceQuery.Proofs.Comparing

namespace ResourceQuery.Shorthand

open Outcome Text

variable {s t : List Char} {b c : Char} {w : Window}

/-- The operand that a text opens with, which may be empty, and what follows it. -/
def operand (s : List Char) : List Char × List Char := (group? s).getD (ident s)

def IsOperandChar (c : Char) : Prop := isIdent c ∨ c = '(' ∨ c = ',' ∨ c = ')'

theorem operand_append (s : List Char) : (operand s).1 ++ (operand s).2 = s := by
  rw [operand]
  cases hg : group? s with
  | none => exact ident_append s
  | some g =>
      obtain ⟨-, -, hs, -⟩ := exists_of_group? hg
      exact hs.symm

theorem isOperandChar_operand (s : List Char) : ∀ c ∈ (operand s).1, IsOperandChar c := by
  rw [operand]
  cases hg : group? s with
  | none => exact fun c hc => .inl (List.mem_takeWhile_imp hc)
  | some g =>
      obtain ⟨body, hb, -, hm⟩ := exists_of_group? hg
      rw [Option.getD_some, hb]
      intro c hc
      simp only [List.mem_append, List.mem_cons, List.not_mem_nil, or_false] at hc
      rcases hc with (rfl | hc) | rfl
      · exact .inr (.inl rfl)
      · exact (hm c hc).imp_right fun h => .inr (.inl h)
      · exact .inr (.inr (.inr rfl))

theorem operand_run {v x : List Char} (hv : ∀ c ∈ v, isIdent c) (hb : ¬isIdent b) (ho : b ≠ '(') :
    operand (v ++ b :: x) = (v, b :: x) := by
  have hg : group? (v ++ b :: x) = none := by
    cases v with
    | nil => exact group?_eq_none ho
    | cons c v => exact group?_eq_none (not_opening_of_isIdent (hv c List.mem_cons_self))
  rw [operand, hg, Option.getD_none, ident_append_stop hb, ident, List.takeWhile_eq_self_iff.2 hv,
    List.dropWhile_eq_nil_iff.2 hv]
  rfl

theorem window?_eq (s : List Char) :
    window? s = (sign? (operand s).2).map fun v =>
      ⟨(operand s).1, v.1, (operand v.2).1, (operand v.2).2⟩ := by
  have after (p t : List Char) : Window.after? p t = (sign? t).map fun v =>
      ⟨p, v.1, (operand v.2).1, (operand v.2).2⟩ := by
    rw [Window.after?]
    cases sign? t <;> rfl
  rw [← after, window?, operand]
  cases hg : group? s with
  | none => rfl
  | some g =>
      obtain ⟨p, t⟩ := g
      have hi : Window.after? (ident s).1 (ident s).2 = none := by
        cases s with
        | nil => rfl
        | cons c s =>
            obtain rfl : c = '(' := by
              by_contra hc
              simp [group?_eq_none hc] at hg
            rfl
      rw [Option.bind_some, Option.getD_some, hi]
      simp only
      cases Window.after? p t <;> rfl

theorem window?_eq_some : window? s = some w ↔
    ∃ t r, operand s = (w.property, t) ∧ sign? t = some (w.sign, r) ∧
      operand r = (w.value, w.rest) := by
  rw [window?_eq, Option.map_eq_some_iff]
  constructor
  · rintro ⟨⟨sign, r⟩, hs, rfl⟩
    exact ⟨_, r, rfl, hs, rfl⟩
  · rintro ⟨t, r, ho, hs, hv⟩
    exact ⟨_, by rw [ho]; exact hs, by rw [ho, hv]⟩

def isBracket (c : Char) : Bool := c == '<' || c == '>'

theorem isBracket_iff : isBracket c ↔ c = '<' ∨ c = '>' := by
  simp [isBracket]

theorem not_equal_prefix (h : s.head? ≠ some '=') : ¬['='] <+: s := by
  rintro ⟨t, rfl⟩
  exact h rfl

theorem withWord_of_head? {sign : List Char} (h : (s.dropWhile isWord).head? ≠ some '=') :
    withWord sign s = (sign, s) := by
  simp only [withWord, drop_takeWhile]
  split
  · rename_i hs
    exact absurd (by rw [hs]; rfl) h
  · rfl

theorem sign?_bracket_equal (hb : isBracket c) (s : List Char) :
    sign? (c :: '=' :: s) = some (withWord [c, '='] s) := by
  rcases isBracket_iff.1 hb with rfl | rfl <;> rfl

theorem sign?_bracket (hb : isBracket c) (hs : s.head? ≠ some '=') :
    sign? (c :: s) = some ([c], s) := by
  have hne : c ≠ '=' := ne_of_pos_of_neg hb (by decide)
  rw [sign?_alone hne hs, if_pos (isBracket_iff.1 hb)]

theorem callName_illegal {sign : List Char} (hs : sign.head? ≠ some '=') (hl : 3 ≤ sign.length) :
    callName sign = .error (.illegalOperator (String.ofList sign)) := by
  unfold callName
  simp only
  rw [if_neg (by omega)]
  split
  · simp at hs
  · rfl

theorem withWord_parts (sign s : List Char) :
    ∃ u, (withWord sign s).1 = sign ++ u ∧ s = u ++ (withWord sign s).2 ∧
      ∀ c ∈ u, isWord c ∨ c = '=' := by
  simp only [withWord, drop_takeWhile]
  split
  · rename_i r hr
    refine ⟨s.takeWhile isWord ++ ['='], by simp, ?_, ?_⟩
    · have hs := @List.takeWhile_append_dropWhile _ isWord s
      rw [hr] at hs
      simpa using hs.symm
    · intro c hc
      rw [List.mem_append, List.mem_singleton] at hc
      exact hc.imp_left List.mem_takeWhile_imp
  · exact ⟨[], by simp, rfl, by simp⟩

theorem sign?_parts {sign r : List Char} (h : sign? s = some (sign, r)) :
    s = sign ++ r ∧ ∃ d u, sign = d :: u ∧ (∀ c ∈ u, isWord c ∨ c = '=') ∧
      (d = '!' → u.head? = some '=') := by
  generalize hv : (sign, r) = v at h
  obtain ⟨rfl, rfl⟩ := Prod.mk.inj hv.symm
  have equal (d : Char) (r : List Char) :
      d :: '=' :: r = (withWord [d, '='] r).1 ++ (withWord [d, '='] r).2 ∧
      ∃ c u, (withWord [d, '='] r).1 = c :: u ∧ (∀ c ∈ u, isWord c ∨ c = '=') ∧
        (c = '!' → u.head? = some '=') := by
    obtain ⟨u, hu, hr, hm⟩ := withWord_parts [d, '='] r
    refine ⟨by rw [hu, List.append_assoc, ← hr]; rfl, d, '=' :: u, hu, ?_, fun _ => rfl⟩
    exact List.forall_mem_cons.2 ⟨.inr rfl, hm⟩
  unfold sign? at h
  split at h <;> simp only [Option.some.injEq, reduceCtorEq] at h
  case h_4 r =>
    obtain ⟨u, hu, hr, hm⟩ := withWord_parts ['='] r
    rw [← h]
    exact ⟨by rw [hu, List.append_assoc, ← hr]; rfl, '=', u, hu, hm,
      fun hd => absurd hd (by decide)⟩
  case h_5 | h_6 =>
    rw [← h]
    exact ⟨rfl, _, [], rfl, by simp, fun hd => absurd hd (by decide)⟩
  all_goals
    rw [← h]
    exact equal _ _

/-- A comparison is its property, its sign, its value and what stands after it. -/
theorem window_parts (h : window? s = some w) :
    s = w.property ++ (w.sign ++ (w.value ++ w.rest)) := by
  obtain ⟨t, r, ho, hs, hv⟩ := window?_eq_some.1 h
  obtain ⟨rfl, -⟩ := sign?_parts hs
  have ht := operand_append s
  have hr := operand_append r
  rw [ho] at ht
  rw [hv] at hr
  rw [hr, ht]

theorem rest_suffix (h : window? s = some w) : w.rest <:+ s := by
  rw [window_parts h, ← List.append_assoc, ← List.append_assoc]
  exact List.suffix_append _ _

theorem expandFrom_window_eq_ok (h : window? s = some w) {r : List Char} :
    expandFrom s = .ok r ↔
      ∃ call rest, w.call = .ok call ∧ expandFrom w.rest = .ok rest ∧ r = call ++ rest := by
  rw [expandFrom_window h, bind_eq_ok]
  simp only [bind_eq_ok, pure_eq, Except.ok.injEq]
  constructor
  · rintro ⟨call, hc, rest, hr, rfl⟩
    exact ⟨call, rest, hc, hr, rfl⟩
  · rintro ⟨call, rest, hc, hr, rfl⟩
    exact ⟨call, hc, rest, hr, rfl⟩

theorem expandFrom_cons_eq_ok (h : window? (c :: s) = none) {r : List Char} :
    expandFrom (c :: s) = .ok r ↔ ∃ rest, expandFrom s = .ok rest ∧ r = c :: rest := by
  rw [expandFrom_cons h, bind_eq_ok]
  simp only [pure_eq, Except.ok.injEq, eq_comm]

/-- What is left of a text wherever a window is looked for, from its start to its end. -/
def stops (s : List Char) : List (List Char) :=
  s ::
    match _h : window? s with
    | some w => stops w.rest
    | none =>
        match s with
        | [] => []
        | _ :: s => stops s
termination_by s.length
decreasing_by
  · exact window?_length ‹_›
  · simp

theorem stops_window (h : window? s = some w) : stops s = s :: stops w.rest := by
  rw [stops]
  split
  · rename_i v hv
    rw [Option.some.inj (h.symm.trans hv)]
  · rename_i hn
    simp [h] at hn

theorem stops_nil : stops [] = [[]] := by
  rw [stops]
  rfl

theorem stops_cons (h : window? (c :: s) = none) : stops (c :: s) = (c :: s) :: stops s := by
  rw [stops]
  split
  · rename_i w hw
    simp [h] at hw
  · rfl

theorem mem_stops_self (s : List Char) : s ∈ stops s := by
  rw [stops]
  exact List.mem_cons_self

end ResourceQuery.Shorthand
