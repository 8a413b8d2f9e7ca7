import Mathlib
import ResourceQuery.Proofs.Windows

namespace ResourceQuery.Shorthand

open Outcome Text

variable {b c : Char} {p s : List Char}

def coded (s : List Char) : List Char :=
  s.flatMap fun c => if c = '<' then ['%', '3', 'C'] else if c = '>' then ['%', '3', 'E'] else [c]

def letter (c : Char) : Char := if c = '<' then 'l' else 'g'

/-- The text with each angle bracket as the name of its comparison between equality signs. -/
def marked : List Char → List Char
  | [] => []
  | c :: s =>
      if isBracket c then
        '=' :: letter c :: if s.head? = some '=' then 'e' :: marked s else 't' :: '=' :: marked s
      else c :: marked s

theorem marked_cons (h : ¬isBracket c) (s : List Char) : marked (c :: s) = c :: marked s := by
  rw [marked, if_neg h]

theorem marked_equal (h : isBracket c) (s : List Char) :
    marked (c :: '=' :: s) = '=' :: letter c :: 'e' :: '=' :: marked s := by
  rw [marked, if_pos h, if_pos (by rfl), marked_cons (by decide)]

theorem marked_alone (h : isBracket c) (hs : s.head? ≠ some '=') :
    marked (c :: s) = '=' :: letter c :: 't' :: '=' :: marked s := by
  rw [marked, if_pos h, if_neg hs]

theorem marked_append (h : ∀ c ∈ p, ¬isBracket c) (s : List Char) :
    marked (p ++ s) = p ++ marked s := by
  induction p with
  | nil => rfl
  | cons c p ih =>
      rw [List.forall_mem_cons] at h
      rw [List.cons_append, marked_cons h.1, ih h.2, List.cons_append]

theorem marked_eq_self (h : ∀ c ∈ s, ¬isBracket c) : marked s = s := by
  have hs := marked_append h []
  rwa [List.append_nil, marked, List.append_nil] at hs

theorem exists_marked_cons (c : Char) (s : List Char) :
    ∃ x, marked (c :: s) = (if isBracket c then '=' else c) :: x := by
  rw [marked]
  split <;> exact ⟨_, rfl⟩

theorem decodeBrackets_cons (h : c ≠ '%') (s : List Char) :
    decodeBrackets (c :: s) = c :: decodeBrackets s := by
  have absent (old t : List Char) : ¬('%' :: old <+: c :: t) := by
    simp [List.cons_prefix_cons, h.symm]
  unfold decodeBrackets
  rw [replace_cons_of_absent (by exact absent _ _), replace_cons_of_absent (by exact absent _ _),
    replace_cons_of_absent (by exact absent _ _), replace_cons_of_absent (by exact absent _ _)]

theorem decodeBrackets_less_equal (s : List Char) : decodeBrackets ('%' :: '3' :: 'C' :: '=' :: s) =
    '=' :: 'l' :: 'e' :: '=' :: decodeBrackets s := by
  simp [decodeBrackets, replace, replaceFrom]

theorem decodeBrackets_greater_equal (s : List Char) :
    decodeBrackets ('%' :: '3' :: 'E' :: '=' :: s) =
      '=' :: 'g' :: 'e' :: '=' :: decodeBrackets s := by
  simp [decodeBrackets, replace, replaceFrom]

theorem decodeBrackets_less (h : s.head? ≠ some '=') :
    decodeBrackets ('%' :: '3' :: 'C' :: s) = '=' :: 'l' :: 't' :: '=' :: decodeBrackets s := by
  simp [decodeBrackets, replace, replaceFrom, not_equal_prefix h]

theorem decodeBrackets_greater (h : s.head? ≠ some '=') (hs : ¬['%', '3', 'C', '='] <+: s) :
    decodeBrackets ('%' :: '3' :: 'E' :: s) = '=' :: 'g' :: 't' :: '=' :: decodeBrackets s := by
  have hr : (replace ['%', '3', 'C', '='] ['=', 'l', 'e', '='] s).head? ≠ some '=' := by
    cases s with
    | nil => exact h
    | cons c s =>
        rw [replace_cons_of_absent hs]
        exact h
  have hp := not_equal_prefix hr
  unfold replace at hp
  simp [decodeBrackets, replace, replaceFrom, hp]

theorem coded_less (s : List Char) : coded ('<' :: s) = '%' :: '3' :: 'C' :: coded s := rfl

theorem coded_greater (s : List Char) : coded ('>' :: s) = '%' :: '3' :: 'E' :: coded s := rfl

theorem coded_cons (h : ¬isBracket c) (s : List Char) : coded (c :: s) = c :: coded s := by
  simp only [isBracket_iff, not_or] at h
  simp [coded, h]

theorem head?_coded (h : s.head? ≠ some '=') : (coded s).head? ≠ some '=' := by
  cases s with
  | nil => exact h
  | cons c s =>
      simp only [coded, List.flatMap_cons]
      split
      · simp
      · split
        · simp
        · exact h

theorem less_equal_prefix (hp : '%' ∉ s) (h : ['%', '3', 'C', '='] <+: coded s) :
    ['<', '='] <+: s := by
  have equal {t : List Char} (ht : ['='] <+: coded t) : ['='] <+: t := by
    by_contra hn
    refine not_equal_prefix (head?_coded fun he => hn ?_) ht
    obtain ⟨u, rfl⟩ := List.head?_eq_some_iff.1 he
    exact ⟨u, rfl⟩
  cases s with
  | nil => simp [coded] at h
  | cons c s =>
      by_cases hl : c = '<'
      · rw [hl, coded_less] at h
        simp only [List.cons_prefix_cons, true_and] at h
        rw [hl, List.cons_prefix_cons]
        exact ⟨rfl, equal h⟩
      · by_cases hg : c = '>'
        · rw [hg, coded_greater] at h
          simp [List.cons_prefix_cons] at h
        · rw [coded_cons (by simp [isBracket_iff, hl, hg]), List.cons_prefix_cons] at h
          exact absurd (h.1 ▸ List.mem_cons_self) hp

theorem decodeBrackets_coded (hp : '%' ∉ s) (hs : ¬['>', '<', '='] <:+: s) :
    decodeBrackets (coded s) = marked s := by
  induction s with
  | nil => rfl
  | cons c s ih =>
      rw [List.mem_cons, not_or] at hp
      rw [List.infix_cons_iff, not_or] at hs
      have ih := ih hp.2 hs.2
      by_cases hb : isBracket c
      · by_cases he : s.head? = some '='
        · obtain ⟨t, rfl⟩ := List.head?_eq_some_iff.1 he
          rw [coded_cons (by decide), decodeBrackets_cons (by decide), marked_cons (by decide),
            List.cons.injEq] at ih
          rw [marked_equal hb, ← ih.2]
          rcases isBracket_iff.1 hb with rfl | rfl
          · exact decodeBrackets_less_equal _
          · exact decodeBrackets_greater_equal _
        · rw [marked_alone hb he, ← ih]
          rcases isBracket_iff.1 hb with rfl | rfl
          · exact decodeBrackets_less (head?_coded he)
          · refine decodeBrackets_greater (head?_coded he) fun h => hs.1 ?_
            rw [List.cons_prefix_cons]
            exact ⟨rfl, less_equal_prefix hp.2 h⟩
      · rw [coded_cons hb, marked_cons hb, decodeBrackets_cons (Ne.symm hp.1), ih]

theorem not_isBracket_of_isIdent (h : isIdent c) : ¬isBracket c := by
  intro hb
  rcases isBracket_iff.1 hb with rfl | rfl <;> exact absurd h (by decide)

theorem span_marked {f : Char → Bool} (h : ∀ c, isBracket c ∨ c = '=' → ¬f c) (s : List Char) :
    (marked s).takeWhile f = s.takeWhile f ∧ (marked s).dropWhile f = marked (s.dropWhile f) := by
  induction s with
  | nil => exact ⟨rfl, rfl⟩
  | cons c s ih =>
      by_cases hc : f c
      · have hb : ¬isBracket c := fun hb => h c (.inl hb) hc
        rw [marked_cons hb, List.takeWhile_cons_of_pos hc, List.takeWhile_cons_of_pos hc,
          List.dropWhile_cons_of_pos hc, List.dropWhile_cons_of_pos hc, ih.1, ih.2]
        exact ⟨rfl, rfl⟩
      · obtain ⟨x, hx⟩ := exists_marked_cons c s
        have hd : ¬f (if isBracket c then '=' else c) := by
          split
          · exact h '=' (.inr rfl)
          · exact hc
        rw [List.takeWhile_cons_of_neg hc, List.dropWhile_cons_of_neg hc, hx,
          List.takeWhile_cons_of_neg hd, List.dropWhile_cons_of_neg hd]
        exact ⟨rfl, rfl⟩

theorem not_isIdent_of_bracket (h : isBracket c ∨ c = '=') : ¬isIdent c := by
  rcases h with h | rfl
  · exact fun hi => not_isBracket_of_isIdent hi h
  · decide

theorem ident_marked (s : List Char) : ident (marked s) = Prod.map id marked (ident s) := by
  obtain ⟨ht, hd⟩ := span_marked (fun c => not_isIdent_of_bracket) s
  rw [ident, ht, hd]
  rfl

theorem group?_marked (s : List Char) :
    group? (marked s) = (group? s).map (Prod.map id marked) := by
  cases s with
  | nil => rfl
  | cons c s =>
      by_cases hc : c = '('
      · have hs : ∀ d, isBracket d ∨ d = '=' → ¬(isIdent d || d == ',') := by
          rintro d hd hm
          rw [Bool.or_eq_true, beq_iff_eq] at hm
          rcases hm with hm | rfl
          · exact not_isIdent_of_bracket hd hm
          · exact absurd hd (by decide)
        obtain ⟨ht, hd⟩ := span_marked hs s
        rw [hc, marked_cons (by decide)]
        simp only [group?, drop_takeWhile]
        rw [ht, hd]
        cases s.takeWhile fun d => isIdent d || d == ',' with
        | nil => rfl
        | cons a body =>
            cases s.dropWhile fun d => isIdent d || d == ',' with
            | nil => rfl
            | cons d rest =>
                by_cases hd : d = ')'
                · rw [hd, marked_cons (by decide)]
                  rfl
                · obtain ⟨x, hx⟩ := exists_marked_cons d rest
                  have hne : (if isBracket d then '=' else d) ≠ ')' := by
                    split
                    · decide
                    · exact hd
                  simp [hx, hd, hne]
      · obtain ⟨x, hx⟩ := exists_marked_cons c s
        have hne : (if isBracket c then '=' else c) ≠ '(' := by
          split
          · decide
          · exact hc
        rw [hx, group?_eq_none hne, group?_eq_none hc]
        rfl

theorem withWord_marked {sign : List Char} (h : ∀ c ∈ (s.dropWhile isWord).head?, ¬isBracket c) :
    withWord sign (marked s) = Prod.map id marked (withWord sign s) := by
  have hw : ∀ d, isBracket d ∨ d = '=' → ¬isWord d := fun d hd hw =>
    not_isIdent_of_bracket hd (isIdent_of_isWord hw)
  obtain ⟨ht, hd⟩ := span_marked hw s
  simp only [withWord, drop_takeWhile]
  rw [ht, hd]
  cases hs : s.dropWhile isWord with
  | nil => rfl
  | cons d rest =>
      rw [hs] at h
      rw [marked_cons (h d rfl)]
      by_cases he : d = '='
      · rw [he]
        rfl
      · simp [he]

/-- What stands after a sign leaves it as it is when the brackets are coded: neither does a coded
bracket close an equality sign, nor is there a word for a sign with a bracket. -/
structure Apart (sign rest : List Char) : Prop where
  before : sign = ['='] ∨ sign = ['!', '='] → ∀ c ∈ (rest.dropWhile isWord).head?, ¬isBracket c
  after : ∀ c ∈ sign.head?, isBracket c → sign.length ≤ 2

theorem not_isBracket_withWord {sign : List Char} (h : ∀ c ∈ sign, ¬isBracket c) :
    ∀ c ∈ (withWord sign s).1, ¬isBracket c := by
  obtain ⟨u, hu, -, hm⟩ := withWord_parts sign s
  rw [hu]
  intro c hc
  rcases List.mem_append.1 hc with hc | hc
  · exact h c hc
  · rcases hm c hc with hw | rfl
    · exact not_isBracket_of_isIdent (isIdent_of_isWord hw)
    · decide

theorem withWord_equal_marked {sign : List Char} (hs : sign = ['='] ∨ sign = ['!', '='])
    (h : Apart (withWord sign s).1 (withWord sign s).2) :
    withWord sign (marked s) = Prod.map marked marked (withWord sign s) ∧
      callName (marked (withWord sign s).1) = callName (withWord sign s).1 := by
  have hmarked : marked (withWord sign s).1 = (withWord sign s).1 :=
    marked_eq_self (not_isBracket_withWord (by rcases hs with rfl | rfl <;> decide))
  refine ⟨?_, by rw [hmarked]⟩
  rw [withWord_marked, Prod.map, Prod.map, hmarked]
  · rfl
  · intro c hc hb
    have hne : (s.dropWhile isWord).head? ≠ some '=' := by
      rw [hc]
      rintro he
      obtain rfl := Option.some.inj he
      exact absurd hb (by decide)
    rw [withWord_of_head? hne] at h
    exact h.before hs c hc hb

theorem withWord_bracket (hb : isBracket c)
    (h : Apart (withWord [c, '='] s).1 (withWord [c, '='] s).2) :
    withWord [c, '='] s = ([c, '='], s) := by
  refine withWord_of_head? fun he => ?_
  obtain ⟨t, ht⟩ := List.head?_eq_some_iff.1 he
  have hw : withWord [c, '='] s = ([c, '='] ++ s.takeWhile isWord ++ ['='], t) := by
    simp only [withWord, drop_takeWhile, ht]
  have hl := h.after c (by rw [hw]; rfl) hb
  rw [hw] at hl
  simp at hl

theorem sign?_name {x : Char} (hc : isBracket c) (hx : isWord x) (s : List Char) :
    sign? ('=' :: letter c :: x :: '=' :: s) = some (['=', letter c, x, '='], s) := by
  have hw : ∀ d ∈ [letter c, x], isWord d := by
    rcases isBracket_iff.1 hc with rfl | rfl <;> simp [letter, hx] <;> decide
  exact congrArg some (withWord_word ['='] s hw)

theorem sign?_marked_bracket (hc : isBracket c) (h : ∀ v, sign? (c :: s) = some v → Apart v.1 v.2) :
    ∃ v, sign? (c :: s) = some v ∧ sign? (marked (c :: s)) = some (Prod.map marked marked v) ∧
      callName (marked v.1) = callName v.1 := by
  by_cases he : s.head? = some '='
  · obtain ⟨t, rfl⟩ := List.head?_eq_some_iff.1 he
    have hs := sign?_bracket_equal hc t
    rw [withWord_bracket hc (h _ hs)] at hs
    refine ⟨_, hs, ?_, ?_⟩
    · rw [marked_equal hc, sign?_name hc (by decide)]
      rcases isBracket_iff.1 hc with rfl | rfl <;> rfl
    · rcases isBracket_iff.1 hc with rfl | rfl <;> rfl
  · refine ⟨_, sign?_bracket hc he, ?_, ?_⟩
    · rw [marked_alone hc he, sign?_name hc (by decide)]
      rcases isBracket_iff.1 hc with rfl | rfl <;> rfl
    · rcases isBracket_iff.1 hc with rfl | rfl <;> rfl

/-- Equality and inequality are read as they stand. -/
theorem sign?_marked_equal {sign : List Char} (hs : sign = ['='] ∨ sign = ['!', '='])
    (h : ∀ v, sign? (sign ++ s) = some v → Apart v.1 v.2) :
    ∃ v, sign? (sign ++ s) = some v ∧
      sign? (marked (sign ++ s)) = some (Prod.map marked marked v) ∧
      callName (marked v.1) = callName v.1 := by
  have hsign (x : List Char) : sign? (sign ++ x) = some (withWord sign x) := by
    rcases hs with rfl | rfl <;> rfl
  have hb : ∀ c ∈ sign, ¬isBracket c := by rcases hs with rfl | rfl <;> decide
  obtain ⟨hm, hn⟩ := withWord_equal_marked hs (h _ (hsign s))
  exact ⟨_, hsign s, by rw [marked_append hb, hsign, hm], hn⟩

theorem sign?_marked (hb : ∀ b t, s = '!' :: b :: t → ¬isBracket b)
    (h : ∀ v, sign? s = some v → Apart v.1 v.2) :
    sign? (marked s) = (sign? s).map (Prod.map marked marked) ∧
      ∀ v, sign? s = some v → callName (marked v.1) = callName v.1 := by
  have read (hv : ∃ v, sign? s = some v ∧ sign? (marked s) = some (Prod.map marked marked v) ∧
      callName (marked v.1) = callName v.1) :
      sign? (marked s) = (sign? s).map (Prod.map marked marked) ∧
        ∀ v, sign? s = some v → callName (marked v.1) = callName v.1 := by
    obtain ⟨v, hs, hm, hn⟩ := hv
    rw [hs, hm]
    exact ⟨rfl, fun u hu => Option.some.inj hu ▸ hn⟩
  have unread (hs : sign? s = none) (hm : sign? (marked s) = none) :
      sign? (marked s) = (sign? s).map (Prod.map marked marked) ∧
        ∀ v, sign? s = some v → callName (marked v.1) = callName v.1 := by
    rw [hs, hm]
    exact ⟨rfl, by simp⟩
  cases s with
  | nil => exact unread rfl rfl
  | cons c s =>
      by_cases hc : isBracket c
      · exact read (sign?_marked_bracket hc h)
      · by_cases he : c = '='
        · subst he
          exact read (sign?_marked_equal (.inl rfl) h)
        · by_cases hx : c = '!'
          · subst hx
            by_cases hs : s.head? = some '='
            · obtain ⟨t, rfl⟩ := List.head?_eq_some_iff.1 hs
              exact read (sign?_marked_equal (.inr rfl) h)
            · have hm : (marked s).head? ≠ some '=' := by
                cases s with
                | nil => exact hs
                | cons b t =>
                    rw [marked_cons (hb b t rfl)]
                    exact hs
              exact unread (sign?_alone he hs) ((marked_cons hc s).symm ▸ sign?_alone he hm)
          · have hn : c ∉ ['=', '<', '>', '!'] := by
              simp only [isBracket_iff, not_or] at hc
              simp [he, hx, hc]
            exact unread (sign?_cons_eq_none hn) ((marked_cons hc s).symm ▸ sign?_cons_eq_none hn)

def Window.marked (w : Window) : Window :=
  ⟨w.property, Shorthand.marked w.sign, w.value, Shorthand.marked w.rest⟩

/-- The comparison and what stands after it do not depend on whether brackets are coded: no bracket
follows an equality sign with at most a word after it, and the sign is none with a bracket that
goes beyond an equality sign. -/
structure Window.IsApart (w : Window) : Prop where
  before : w.sign = ['='] ∨ w.sign = ['!', '='] → (∀ c ∈ w.value, isWord c) →
    ∀ c ∈ w.rest.head?, ¬isBracket c
  after : ∀ c ∈ w.sign.head?, isBracket c → w.sign.length ≤ 2

theorem operand_marked (s : List Char) : operand (marked s) = Prod.map id marked (operand s) := by
  rw [operand, operand, group?_marked, ident_marked]
  cases group? s <;> rfl

theorem Window.IsApart.apart {w : Window} (hw : w.IsApart) {r : List Char}
    (hv : operand r = (w.value, w.rest)) : Apart w.sign r := by
  refine ⟨fun hs c hc hb => ?_, hw.after⟩
  obtain ⟨x, hx⟩ := List.head?_eq_some_iff.1 hc
  have ht : ∀ d ∈ r.takeWhile isWord, isWord d := fun d hd => List.mem_takeWhile_imp hd
  have hsplit : r = r.takeWhile isWord ++ c :: x := by
    rw [← hx, List.takeWhile_append_dropWhile]
  have ho : c ≠ '(' := ne_of_pos_of_neg hb (by decide)
  rw [hsplit, operand_run (fun d hd => isIdent_of_isWord (ht d hd))
    (not_isIdent_of_bracket (.inl hb)) ho, Prod.mk.injEq] at hv
  exact hw.before hs (hv.1 ▸ ht) c (by rw [← hv.2]; rfl) hb

theorem window?_marked (hb : ∀ b t, (operand s).2 = '!' :: b :: t → ¬isBracket b)
    (h : ∀ w, window? s = some w → w.IsApart) :
    window? (marked s) = (window? s).map Window.marked ∧
      ∀ w, window? s = some w → w.marked.call = w.call := by
  have hsign := sign?_marked hb fun v hv =>
    (h ⟨_, v.1, _, _⟩ (window?_eq_some.2 ⟨_, _, rfl, hv, rfl⟩)).apart rfl
  refine ⟨?_, fun w hw => ?_⟩
  · rw [window?_eq, window?_eq, operand_marked, Prod.map_snd, hsign.1]
    cases sign? (operand s).2 with
    | none => rfl
    | some v =>
        simp only [Option.map_some, Prod.map, operand_marked]
        rfl
  · obtain ⟨t, r, ho, hs, -⟩ := window?_eq_some.1 hw
    have hn := hsign.2 _ (by rw [ho]; exact hs)
    exact congrArg (· >>= _) hn

/-- A text in which angle brackets may as well be coded: none stands after `!`, and each comparison
is apart. -/
structure IsApart (s : List Char) : Prop where
  bang : ∀ b, isBracket b → ¬['!', b] <:+: s
  windows : ∀ t ∈ stops s, ∀ w ∈ window? t, w.IsApart

theorem IsApart.rest {w : Window} (h : IsApart s) (hw : window? s = some w) : IsApart w.rest := by
  refine ⟨fun b hb hi => h.bang b hb (hi.trans (rest_suffix hw).isInfix), fun t ht =>
    h.windows t ?_⟩
  rw [stops_window hw]
  exact List.mem_cons_of_mem s ht

theorem IsApart.tail (h : IsApart (c :: s)) (hw : window? (c :: s) = none) : IsApart s := by
  refine ⟨fun b hb hi => h.bang b hb (List.infix_cons hi), fun t ht => h.windows t ?_⟩
  rw [stops_cons hw]
  exact List.mem_cons_of_mem _ ht

theorem not_isBracket_of_window?_eq_none (h : window? (c :: s) = none) : ¬isBracket c := by
  intro hb
  have hs : isSign c := by rcases isBracket_iff.1 hb with rfl | rfl <;> rfl
  have := window?_of_isSign (s := s) hs
  simp [h] at this

theorem IsApart.window?_marked (h : IsApart s) :
    window? (marked s) = (window? s).map Window.marked ∧
      ∀ w, window? s = some w → w.marked.call = w.call := by
  refine Shorthand.window?_marked (fun b t ht hb => h.bang b hb ?_) (h.windows s ?_)
  · have hs := operand_append s
    rw [ht] at hs
    exact ⟨(operand s).1, t, by simpa using hs⟩
  · exact mem_stops_self s

/-- Where each bracket is apart, it does not matter whether brackets are coded. -/
theorem expandFrom_marked (h : IsApart s) : expandFrom (marked s) = expandFrom s := by
  fun_induction expandFrom s with
  | case1 s w hw ih =>
      obtain ⟨hm, hc⟩ := h.window?_marked
      rw [hw, Option.map_some] at hm
      rw [expandFrom_window hm, hc w hw, Window.marked, ih (h.rest hw)]
  | case2 hw => exact expandFrom_nil
  | case3 c s hw ih =>
      have hm := h.window?_marked.1
      rw [hw, marked_cons (not_isBracket_of_window?_eq_none hw)] at hm
      rw [marked_cons (not_isBracket_of_window?_eq_none hw), expandFrom_cons hm, ih (h.tail hw)]

theorem bang_infix_rest {w : Window} (hw : window? s = some w) (hb : isBracket b)
    (h : ['!', b] <:+: s) : ['!', b] <:+: w.rest := by
  obtain ⟨t, r, ho, hs, hv⟩ := window?_eq_some.1 hw
  obtain ⟨rfl, d, u, hsign, hu, hd⟩ := sign?_parts hs
  have operand_bang (x : List Char) : '!' ∉ (operand x).1 := fun hm =>
    absurd (isOperandChar_operand x _ hm) (by simp [IsOperandChar]; decide)
  have hbang : '!' ∉ u := fun hm => absurd (hu _ hm) (by decide)
  rw [← operand_append s, ho] at h
  have ht := infix_of_append (by simpa [ho] using operand_bang s) h
  simp only [hsign, List.cons_append] at ht
  rw [List.infix_cons_iff] at ht
  have hr : ['!', b] <:+: u ++ r := ht.resolve_left fun hp => by
    obtain ⟨rfl, hbu⟩ := List.cons_prefix_cons.1 hp
    obtain ⟨u', rfl⟩ := List.head?_eq_some_iff.1 (hd rfl)
    obtain ⟨rfl, -⟩ := List.cons_prefix_cons.1 hbu
    exact absurd hb (by decide)
  have hr := infix_of_append hbang hr
  rw [← operand_append r, hv] at hr
  exact infix_of_append (by simpa [hv] using operand_bang r) hr

theorem exists_marked_bracket (h : isBracket b) (s : List Char) :
    ∃ name y, (∀ c ∈ name, isWord c) ∧ name ≠ [] ∧ name ≠ ['e', 'q'] ∧
      marked (b :: s) = '=' :: (name ++ '=' :: y) := by
  have given {x : Char} (hx : x = 'e' ∨ x = 't') {y : List Char}
      (hm : marked (b :: s) = '=' :: letter b :: x :: '=' :: y) :
      ∃ name y, (∀ c ∈ name, isWord c) ∧ name ≠ [] ∧ name ≠ ['e', 'q'] ∧
        marked (b :: s) = '=' :: (name ++ '=' :: y) := by
    refine ⟨[letter b, x], y, ?_, by simp, ?_, hm⟩
    · rcases isBracket_iff.1 h with rfl | rfl <;> rcases hx with rfl | rfl <;> decide
    · rcases isBracket_iff.1 h with rfl | rfl <;> rcases hx with rfl | rfl <;> decide
  by_cases hs : s.head? = some '='
  · obtain ⟨t, rfl⟩ := List.head?_eq_some_iff.1 hs
    exact given (.inl rfl) (marked_equal h t)
  · exact given (.inr rfl) (marked_alone h hs)

theorem sign?_before_bracket {sign v : List Char} (hs : sign = ['='] ∨ sign = ['!', '='])
    (hv : ∀ c ∈ v, isWord c) (x : List Char) :
    sign? (sign ++ (v ++ '=' :: x)) = some (sign ++ v ++ ['='], x) := by
  rcases hs with rfl | rfl
  · exact congrArg some (withWord_word ['='] x hv)
  · exact congrArg some (withWord_word ['!', '='] x hv)

theorem error_of_window?_eq_none (h : window? s = none) {w : Window}
    (hm : window? (marked s) = some w) : ∃ e, w.call = .error e := by
  rw [window?_eq, Option.map_eq_none_iff] at h
  by_cases hb : ∀ b t, (operand s).2 = '!' :: b :: t → ¬isBracket b
  · have hn := (sign?_marked hb (by simp [h])).1
    rw [window?_eq, operand_marked, Prod.map_snd, hn, h] at hm
    simp at hm
  · push Not at hb
    obtain ⟨b, t, ht, hb⟩ := hb
    obtain ⟨name, y, hname, hne, -, hy⟩ := exists_marked_bracket hb t
    have hs := sign?_before_bracket (.inr rfl) hname y
    have ht : marked (operand s).2 = ['!', '='] ++ (name ++ '=' :: y) := by
      rw [ht, marked_cons (by decide), hy]
      rfl
    rw [window?_eq, operand_marked, Prod.map_snd, ht, hs, Option.map_some, Option.some.injEq] at hm
    have he : callName w.sign = .error (.illegalOperator (String.ofList w.sign)) :=
      callName_illegal (by rw [← hm]; simp) (by rw [← hm]; simp)
    exact ⟨_, by rw [Window.call, he]; rfl⟩

theorem callName_named {v : List Char} (hv : ∀ c ∈ v, isWord c) :
    callName ('=' :: (v ++ ['='])) = .ok (if v = [] then ['e', 'q'] else v) := by
  by_cases hn : v = []
  · rw [hn]
    rfl
  · have h := (Names.word (w := String.ofList v) (by simpa using hn) (by simpa using hv)).callName
    simpa [hn] using h

theorem append_cons_inj {x y a b : List Char} (hx : c ∉ x) (hy : c ∉ y)
    (h : x ++ c :: a = y ++ c :: b) : x = y ∧ a = b := by
  have run {u : List Char} (hu : c ∉ u) (r : List Char) : (u ++ c :: r).takeWhile (· != c) = u := by
    rw [takeWhile_append_stop (by simp), List.takeWhile_eq_self_iff]
    rintro d hd
    simpa using fun he : d = c => hu (he ▸ hd)
  have hxy : x = y := by rw [← run hx a, h, run hy b]
  rw [hxy, List.append_cancel_left_eq, List.cons.injEq] at h
  exact ⟨hxy, h.2⟩

theorem call_ne_of_bracket {p v name x y : List Char} (hv : ∀ c ∈ v, isWord c)
    (hname : ∀ c ∈ name, isWord c) (hne : name ≠ []) (hq : name ≠ ['e', 'q']) :
    ['e', 'q'] ++ '(' :: p ++ ',' :: v ++ [')'] ++ x ≠
      (if v = [] then ['e', 'q'] else v) ++ '(' :: p ++ ',' :: name ++ [')'] ++ y := by
  intro h
  have notMem {c : Char} (hc : ¬isWord c) {u : List Char} (hu : ∀ c ∈ u, isWord c) : c ∉ u :=
    fun hm => hc (hu c hm)
  have hcall : ∀ c ∈ if v = [] then ['e', 'q'] else v, isWord c := by
    split
    · decide
    · exact hv
  simp only [List.append_assoc, List.cons_append, List.nil_append] at h
  obtain ⟨hn, hrest⟩ := append_cons_inj (x := ['e', 'q']) (by decide) (notMem (by decide) hcall) h
  obtain ⟨rfl, -⟩ := append_cons_inj (notMem (by decide) hv) (notMem (by decide) hname)
    (List.cons.inj (List.append_cancel_left hrest)).2
  rw [if_neg hne] at hn
  exact hq hn.symm

/-- Where a comparison is not apart, it is illegal, or another call is made of it where brackets are
coded. -/
theorem exists_of_not_isApart {w : Window} (hw : window? s = some w) (ha : ¬w.IsApart)
    {call : List Char} (hc : w.call = .ok call) :
    ∃ u, window? (marked s) = some u ∧
      ∀ other, u.call = .ok other → ∀ x y, call ++ x ≠ other ++ y := by
  obtain ⟨t, r, ho, hs, hv⟩ := window?_eq_some.1 hw
  obtain ⟨ht, -⟩ := sign?_parts hs
  obtain ⟨name, hname, hcall⟩ := bind_eq_ok.1 hc
  have hafter : ∀ c ∈ w.sign.head?, isBracket c → w.sign.length ≤ 2 := by
    intro c hhead hb
    by_contra hl
    have hne : w.sign.head? ≠ some '=' := by
      rw [hhead]
      rintro he
      obtain rfl := Option.some.inj he
      exact absurd hb (by decide)
    rw [callName_illegal hne (by omega)] at hname
    simp at hname
  have hbefore : ¬(w.sign = ['='] ∨ w.sign = ['!', '='] → (∀ c ∈ w.value, isWord c) →
    ∀ c ∈ w.rest.head?, ¬isBracket c) := fun h => ha ⟨h, hafter⟩
  push Not at hbefore
  obtain ⟨heq, hword, b, hhead, hb⟩ := hbefore
  obtain ⟨z, hz⟩ := List.head?_eq_some_iff.1 hhead
  obtain ⟨marker, y, hmarker, hne, hq, hy⟩ := exists_marked_bracket hb z
  have hr : r = w.value ++ b :: z := by rw [← operand_append r, hv, hz]
  have hmarked : marked t = w.sign ++ (w.value ++ '=' :: (marker ++ '=' :: y)) := by
    have hsb : ∀ c ∈ w.sign, ¬isBracket c := by rcases heq with h | h <;> rw [h] <;> decide
    have hvb : ∀ c ∈ w.value, ¬isBracket c := fun c hm =>
      not_isBracket_of_isIdent (isIdent_of_isWord (hword c hm))
    rw [ht, hr, marked_append hsb, marked_append hvb, hy]
  have hu : window? (marked s) = some ⟨w.property, w.sign ++ w.value ++ ['='], marker, '=' :: y⟩ := by
    rw [window?_eq, operand_marked, ho, Prod.map_snd, hmarked, sign?_before_bracket heq hword]
    simp only [Prod.map, id_eq, Option.map_some]
    rw [operand_run (fun c hc => isIdent_of_isWord (hmarker c hc)) (by decide) (by decide)]
  refine ⟨_, hu, fun other hother x y => ?_⟩
  rcases heq with heq | heq
  · rw [Window.call, heq] at hc
    rw [Window.call, heq, List.singleton_append, List.cons_append, callName_named hword] at hother
    obtain rfl := Except.ok.inj hc
    obtain rfl := Except.ok.inj hother
    exact call_ne_of_bracket hword hmarker hne hq
  · rw [Window.call, heq, callName_illegal (by simp) (by simp)] at hother
    simp at hother

theorem bang_of_window? {w : Window} (h : window? s = some w) :
    ∀ b t, (operand s).2 = '!' :: b :: t → ¬isBracket b := by
  rintro b t ht hb
  obtain ⟨t', r, ho, hs, -⟩ := window?_eq_some.1 h
  obtain ⟨hp, d, u, hsign, -, hd⟩ := sign?_parts hs
  rw [ho] at ht
  simp only [hp, hsign, List.cons_append, List.cons.injEq] at ht
  obtain ⟨u', rfl⟩ := List.head?_eq_some_iff.1 (hd ht.1)
  obtain rfl := (List.cons.inj ht.2).1
  exact absurd hb (by decide)

/-- Where a text is accepted and its brackets may as well be coded, each of them is apart. -/
theorem isApart_of_expandFrom_marked {r : List Char} (h : expandFrom s = .ok r)
    (hm : expandFrom (marked s) = .ok r) : IsApart s := by
  induction s using expandFrom.induct generalizing r with
  | case1 s w hw ih =>
      obtain ⟨call, rest, hc, hr, rfl⟩ := (expandFrom_window_eq_ok hw).1 h
      have unique : ∀ v, window? s = some v → v = w := fun v hv => Option.some.inj (hv.symm.trans hw)
      have ha : w.IsApart := by
        by_contra ha
        obtain ⟨u, hu, hne⟩ := exists_of_not_isApart hw ha hc
        obtain ⟨other, y, ho, -, hy⟩ := (expandFrom_window_eq_ok hu).1 hm
        exact hne other ho rest y hy
      obtain ⟨hwm, hcm⟩ := window?_marked (bang_of_window? hw) fun v hv => unique v hv ▸ ha
      rw [hw, Option.map_some] at hwm
      obtain ⟨call', rest', hc', hr', heq⟩ := (expandFrom_window_eq_ok hwm).1 hm
      rw [hcm w hw, hc, Except.ok.injEq] at hc'
      rw [← hc', List.append_cancel_left_eq] at heq
      have hrest := ih hr (heq ▸ hr')
      refine ⟨fun b hb hi => hrest.bang b hb (bang_infix_rest hw hb hi), ?_⟩
      rw [stops_window hw, List.forall_mem_cons]
      exact ⟨fun v hv => unique v hv ▸ ha, hrest.windows⟩
  | case2 hw => exact ⟨by simp, by simp [stops_nil, hw]⟩
  | case3 c s hw ih =>
      obtain ⟨rest, hr, rfl⟩ := (expandFrom_cons_eq_ok hw).1 h
      have hb := not_isBracket_of_window?_eq_none hw
      have hwm : window? (marked (c :: s)) = none := by
        by_contra hn
        obtain ⟨u, hu⟩ := Option.ne_none_iff_exists'.1 hn
        obtain ⟨e, he⟩ := error_of_window?_eq_none hw hu
        rw [expandFrom_window hu, he] at hm
        simp at hm
      rw [marked_cons hb] at hwm hm
      obtain ⟨rest', hr', heq⟩ := (expandFrom_cons_eq_ok hwm).1 hm
      have hrest := ih hr ((List.cons.inj heq).2 ▸ hr')
      refine ⟨fun b hbr hi => ?_, ?_⟩
      · rcases List.infix_cons_iff.1 hi with hp | hi
        · obtain ⟨rfl, t, rfl⟩ := List.cons_prefix_cons.1 hp
          obtain ⟨x, hx⟩ := exists_marked_cons b t
          rw [if_pos hbr] at hx
          simp only [List.singleton_append, hx] at hwm
          have hs : (window? ('!' :: '=' :: x)).isSome := by
            rw [window?_eq]
            rfl
          simp [hwm] at hs
        · exact hrest.bang b hbr hi
      · rw [stops_cons hw, List.forall_mem_cons]
        exact ⟨by simp [hw], hrest.windows⟩

/-- The brackets of a text may be coded where each of them is apart. Where the text is accepted it
expands to the same text then only. -/
theorem expand_coded {text : String} (hp : '%' ∉ text.toList)
    (hs : ¬['>', '<', '='] <:+: text.toList) :
    (IsApart text.toList → expand (String.ofList (coded text.toList)) = expand text) ∧
    ∀ r, expand text = .ok r →
      (expand (String.ofList (coded text.toList)) = .ok r ↔ IsApart text.toList) := by
  have hcoded : expand (String.ofList (coded text.toList)) =
      (expandFrom (marked text.toList)).map String.ofList := by
    rw [expand, String.toList_ofList, decodeBrackets_coded hp hs]
  have hplain : expand text = (expandFrom text.toList).map String.ofList := by
    rw [expand, decodeBrackets_eq (noBracket_of_notMem hp)]
  have same (h : IsApart text.toList) : expand (String.ofList (coded text.toList)) = expand text := by
    rw [hcoded, hplain, expandFrom_marked h]
  refine ⟨same, fun r hr => ⟨fun hm => ?_, fun h => (same h).trans hr⟩⟩
  obtain ⟨x, hx, rfl⟩ := map_eq_ok.1 (hplain ▸ hr)
  obtain ⟨y, hy, heq⟩ := map_eq_ok.1 (hcoded ▸ hm)
  rw [String.ofList_inj] at heq
  exact isApart_of_expandFrom_marked hx (heq ▸ hy)

theorem expand_coded_closed :
    IsApart "a<=b&c==>d".toList ∧ expand "a<=b&c==>d" = .ok "le(a,b)&eq(c,)gt(,d)" ∧
      expand "a%3C=b&c==%3Ed" = .ok "le(a,b)&eq(c,)gt(,d)" := by
  have hstops : stops "a<=b&c==>d".toList =
      ["a<=b&c==>d".toList, "&c==>d".toList, "c==>d".toList, ">d".toList, []] := by cbv
  have closed {t : List Char} {w : Window} (ht : window? t = some w) (hl : w.sign.length ≤ 2)
      (he : w.sign ≠ ['=']) (hb : w.sign ≠ ['!', '=']) : ∀ u ∈ window? t, u.IsApart := by
    intro u hu
    obtain rfl := Option.some.inj (ht.symm.trans hu)
    exact ⟨fun hs => (hs.elim he hb).elim, fun _ _ _ => hl⟩
  have still {t : List Char} (ht : window? t = none) : ∀ u ∈ window? t, u.IsApart := by
    simp [ht]
  have h : IsApart "a<=b&c==>d".toList := by
    refine ⟨fun b hb hi => absurd (hi.subset List.mem_cons_self) (by decide), ?_⟩
    rw [hstops]
    simp only [List.forall_mem_cons]
    exact ⟨closed rfl (by decide) (by decide) (by decide), still rfl,
      closed rfl (by decide) (by decide) (by decide),
      closed rfl (by decide) (by decide) (by decide), still rfl, by simp⟩
  have hr : expand "a<=b&c==>d" = .ok "le(a,b)&eq(c,)gt(,d)" := by cbv
  have hm := (expand_coded (by decide) (by decide)).1 h
  exact ⟨h, hr, hm.trans hr⟩

/-- A coded bracket closes an equality sign, is no bracket after `!`, takes up one equality sign
only, and lends it to a bracket before it. -/
theorem expand_coded_not_apart :
    (expand "a=<b" = .ok "eq(a,)lt(,b)" ∧
      expand (String.ofList (coded "a=<b".toList)) = .ok "eq(a,lt)eq(,b)") ∧
    (expand "a!<b" = .ok "a!lt(,b)" ∧
      expand (String.ofList (coded "a!<b".toList)) = .error (.illegalOperator "!=lt=")) ∧
    (expand "a<==b" = .error (.illegalOperator "<==") ∧
      expand (String.ofList (coded "a<==b".toList)) = .ok "le(a,)eq(,b)") ∧
    expand "a><=b" = .ok "gt(a,)le(,b)" ∧
      expand (String.ofList (coded "a><=b".toList)) = .ok "ge(a,le)eq(,b)" := by
  refine ⟨⟨?_, ?_⟩, ⟨?_, ?_⟩, ⟨?_, ?_⟩, ?_, ?_⟩ <;> cbv

end ResourceQuery.Shorthand
