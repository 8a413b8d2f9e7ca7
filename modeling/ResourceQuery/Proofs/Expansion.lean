import Mathlib.Data.List.TakeWhile
import ResourceQuery.Shorthand
import ResourceQuery.Proofs.Outcome
import ResourceQuery.Proofs.Replacing

namespace ResourceQuery

namespace Shorthand

open Outcome Text

def isSign (c : Char) : Bool := c == '=' || c == '<' || c == '>'

theorem not_isSign_of_pos {p : Char → Bool} {c : Char} (hc : p c) (he : ¬p '=') (hl : ¬p '<')
    (hg : ¬p '>') : ¬isSign c := by
  intro hs
  simp only [isSign, Bool.or_eq_true, beq_iff_eq] at hs
  rcases hs with (hs | hs) | hs
  · exact ne_of_pos_of_neg hc he hs
  · exact ne_of_pos_of_neg hc hl hs
  · exact ne_of_pos_of_neg hc hg hs

/-- No code of an angle bracket is read as a sign in the text. -/
def NoBracket (s : List Char) : Prop := ¬['%', '3', 'C'] <:+: s ∧ ¬['%', '3', 'E'] <:+: s

theorem noBracket_of_notMem {s : List Char} (h : '%' ∉ s) : NoBracket s :=
  ⟨fun hi => h (hi.subset (by simp)), fun hi => h (hi.subset (by simp))⟩

theorem NoBracket.append_cons {x y : List Char} {c : Char}
    (hc : c ≠ '%' ∧ c ≠ '3' ∧ c ≠ 'C' ∧ c ≠ 'E') (hx : NoBracket x) (hy : NoBracket y) :
    NoBracket (x ++ c :: y) :=
  ⟨not_infix_append_cons (by simp [hc]) hx.1 hy.1, not_infix_append_cons (by simp [hc]) hx.2 hy.2⟩

theorem decodeBrackets_eq {s : List Char} (h : NoBracket s) : decodeBrackets s = s := by
  have hl : ¬"%3C=".toList <:+: s := fun hi => h.1 (List.IsInfix.trans ⟨[], ['='], rfl⟩ hi)
  have hg : ¬"%3E=".toList <:+: s := fun hi => h.2 (List.IsInfix.trans ⟨[], ['='], rfl⟩ hi)
  have hc : ¬"%3C".toList <:+: s := h.1
  have he : ¬"%3E".toList <:+: s := h.2
  unfold decodeBrackets
  rw [replace_eq_of_absent hl, replace_eq_of_absent hg,
    replace_eq_of_absent hc, replace_eq_of_absent he]

theorem decodeBrackets_append {c : Char} (hc : c ∉ ['%', '3', 'C', 'E', '=']) (x y : List Char) :
    decodeBrackets (x ++ c :: y) = decodeBrackets x ++ c :: decodeBrackets y := by
  have absent {old : List Char} (h : old ⊆ ['%', '3', 'C', 'E', '=']) : c ∉ old := fun hm => hc (h hm)
  unfold decodeBrackets
  rw [replace_append_cons (absent (by decide)) (by decide),
    replace_append_cons (absent (by decide)) (by decide),
    replace_append_cons (absent (by decide)) (by decide),
    replace_append_cons (absent (by decide)) (by decide)]

theorem count_decodeBrackets_lt {s : List Char} (hs : ∀ c ∈ s, ¬isSign c) (h : ¬NoBracket s) :
    (decodeBrackets s).count '%' < s.count '%' := by
  have hl : ¬"%3C=".toList <:+: s := fun hi => hs '=' (hi.subset (by decide)) rfl
  have hg : ¬"%3E=".toList <:+: s := fun hi => hs '=' (hi.subset (by decide)) rfl
  unfold decodeBrackets
  rw [replace_eq_of_absent hl, replace_eq_of_absent hg]
  by_cases hc : "%3C".toList <:+: s
  · exact Nat.lt_of_le_of_lt (count_replaceFrom_le (by decide) 0 _)
      (count_replace_lt (by decide) (by decide) hc)
  · have he : "%3E".toList <:+: s := by
      by_contra he
      exact h ⟨hc, he⟩
    rw [replace_eq_of_absent hc]
    exact count_replace_lt (by decide) (by decide) he

theorem noBracket_decodeBrackets (s : List Char) : NoBracket (decodeBrackets s) := by
  have absent (x : Char) {new t : List Char} (hn : ∀ d ∈ new, d ∉ ['%', '3', x]) (hne : new ≠ []) :
      ¬['%', '3', x] <:+: replace ['%', '3', x] new t := fun h => by
    obtain ⟨u, -, ho, hu⟩ := exists_of_infix_replace (by simp) hn hne (by simp) h
    exact ho hu
  refine ⟨fun h => ?_, absent 'E' (by decide) (by decide)⟩
  obtain ⟨u, hu, -, hp⟩ := exists_of_infix_replace (by simp) (by decide) (by decide) (by decide) h
  exact absent 'C' (by decide) (by decide) (hp.isInfix.trans hu.isInfix)

theorem group?_eq_none {c : Char} {s : List Char} (h : c ≠ '(') : group? (c :: s) = none := by
  unfold group?
  split
  · rename_i hs
    exact absurd (List.cons.inj hs).1 h
  · rfl

theorem not_opening_of_isIdent {c : Char} (h : isIdent c) : c ≠ '(' :=
  ne_of_pos_of_neg h (by decide)

theorem exists_of_group? {s g rest : List Char} (h : group? s = some (g, rest)) :
    ∃ body, g = '(' :: body ++ [')'] ∧ s = g ++ rest ∧ ∀ c ∈ body, isIdent c ∨ c = ',' := by
  unfold group? at h
  split at h
  · rename_i s
    simp only at h
    split at h
    · rename_i c t r hb hd
      simp only [Option.some.injEq, Prod.mk.injEq] at h
      refine ⟨_, h.1.symm, ?_, fun c hc => ?_⟩
      · rw [← h.1, ← h.2, List.append_assoc, List.cons_append, List.singleton_append, ← hd,
          List.prefix_iff_eq_append.1 (List.takeWhile_prefix _)]
      · simpa using List.mem_takeWhile_imp hc
    · simp at h
  · simp at h

theorem ident_append (s : List Char) : (ident s).1 ++ (ident s).2 = s :=
  List.takeWhile_append_dropWhile

theorem sign?_eq_none {s : List Char} (h : ∀ c ∈ s, ¬isSign c) : sign? s = none := by
  unfold sign?
  split <;> first
    | rfl
    | simp [isSign] at h

theorem window?_eq_none {s : List Char} (h : ∀ c ∈ s, ¬isSign c) : window? s = none := by
  have after {p r : List Char} (hs : s = p ++ r) : Window.after? p r = none := by
    have hr := sign?_eq_none fun c hc => h c (hs ▸ List.mem_append_right p hc)
    rw [Window.after?, hr]
    rfl
  unfold window?
  rw [after (ident_append s).symm]
  split
  · rename_i w hw
    obtain ⟨g, hg, hw⟩ := Option.bind_eq_some_iff.1 hw
    obtain ⟨_, -, hs, -⟩ := exists_of_group? hg
    simp [after hs] at hw
  · rfl

theorem expandFrom_window {s : List Char} {w : Window} (h : window? s = some w) :
    expandFrom s = do
      let call ← w.call
      let rest ← expandFrom w.rest
      return call ++ rest := by
  rw [expandFrom]
  split
  · rename_i v hv
    rw [Option.some.inj (h.symm.trans hv)]
  · rename_i hn
    simp [hn] at h

theorem expandFrom_nil : expandFrom [] = .ok [] := by
  rw [expandFrom]
  rfl

theorem expandFrom_cons {c : Char} {s : List Char} (h : window? (c :: s) = none) :
    expandFrom (c :: s) = do
      let rest ← expandFrom s
      return c :: rest := by
  rw [expandFrom]
  split
  · rename_i w hw
    simp [h] at hw
  · rfl

theorem expandFrom_eq_self {s : List Char} (h : ∀ c ∈ s, ¬isSign c) : expandFrom s = .ok s := by
  induction s with
  | nil => exact expandFrom_nil
  | cons c s ih =>
      rw [expandFrom_cons (window?_eq_none h), ih fun d hd => h d (List.mem_cons_of_mem c hd)]
      rfl

/-- A text in which no comparison is read. -/
structure IsStill (s : List Char) : Prop where
  sign : ∀ c ∈ s, ¬isSign c
  bracket : NoBracket s

theorem isStill_nil : IsStill [] := ⟨by simp, noBracket_of_notMem (by simp)⟩

theorem IsStill.append_cons {x y : List Char} {c : Char} (hx : IsStill x) (hy : IsStill y)
    (hs : ¬isSign c) (hc : c ≠ '%' ∧ c ≠ '3' ∧ c ≠ 'C' ∧ c ≠ 'E') : IsStill (x ++ c :: y) := by
  refine ⟨fun d hd => ?_, hx.bracket.append_cons hc hy.bracket⟩
  rcases List.mem_append.1 hd with hd | hd
  · exact hx.sign d hd
  · rcases List.mem_cons.1 hd with rfl | hd
    · exact hs
    · exact hy.sign d hd

theorem expand_eq_self {text : String} (h : IsStill text.toList) : expand text = .ok text := by
  rw [expand, decodeBrackets_eq h.bracket, expandFrom_eq_self h.sign]
  exact congrArg Except.ok (String.ofList_toList)

theorem isIdent_of_isWord {c : Char} (h : isWord c) : isIdent c := by
  simp only [isWord, Bool.or_eq_true, beq_iff_eq] at h
  rcases h with h | rfl
  · simp [isIdent, h]
  · decide

theorem not_isSign_of_isIdent {c : Char} (h : isIdent c) : ¬isSign c :=
  not_isSign_of_pos h (by decide) (by decide) (by decide)

theorem not_isSign_of_isWord {c : Char} (h : isWord c) : ¬isSign c :=
  not_isSign_of_isIdent (isIdent_of_isWord h)

theorem not_sign_ident {s : List Char} : ∀ c ∈ (ident s).1, ¬isSign c := fun _ hc =>
  not_isSign_of_isIdent (List.mem_takeWhile_imp hc)

theorem not_sign_group? {s g rest : List Char} (h : group? s = some (g, rest)) :
    ∀ c ∈ g, ¬isSign c := by
  obtain ⟨body, rfl, -, hb⟩ := exists_of_group? h
  intro c hc
  simp only [List.mem_append, List.mem_cons, List.not_mem_nil, or_false] at hc
  rcases hc with (rfl | hc) | rfl
  · decide
  · rcases hb c hc with hi | rfl
    · exact not_isSign_of_isIdent hi
    · decide
  · decide

theorem isWord_callName {sign name : List Char} (h : callName sign = .ok name) :
    ∀ c ∈ name, isWord c := by
  unfold callName at h
  simp only at h
  split at h
  · split at h
    · rename_i d hd
      rw [Except.ok.injEq] at h
      rw [← h]
      cases d <;> decide
    · simp at h
  · split at h
    · split at h
      · rename_i s hs
        rw [Except.ok.injEq] at h
        rw [← h]
        simp only [Bool.and_eq_true, List.all_eq_true] at hs
        exact hs.1.2
      · simp at h
    · simp at h

/-- Once expanded, a comparison is a call of its property and its value. -/
theorem Window.exists_of_call {w : Window} {call : List Char} (h : w.call = .ok call) :
    ∃ name, (∀ c ∈ name, isWord c) ∧
      call = name ++ '(' :: (w.property ++ ',' :: w.value ++ [')']) := by
  obtain ⟨name, hn, h⟩ := bind_eq_ok.1 h
  rw [pure_eq, Except.ok.injEq] at h
  exact ⟨name, isWord_callName hn, by simp [← h]⟩

theorem Window.exists_of_after? {p s : List Char} {w : Window} (h : after? p s = some w) :
    ∃ sign rest, sign? s = some (sign, rest) ∧ w.property = p ∧
      (w.value, w.rest) = (group? rest).getD (ident rest) := by
  simp only [after?, Option.bind_eq_bind, Option.bind_eq_some_iff] at h
  obtain ⟨⟨sign, rest⟩, hs, h⟩ := h
  simp only [Option.pure_def, Option.some.injEq] at h
  exact ⟨sign, rest, hs, by rw [← h], by rw [← h]⟩

theorem Window.not_sign_after? {p s : List Char} {w : Window} (hp : ∀ c ∈ p, ¬isSign c)
    (h : Window.after? p s = some w) :
    (∀ c ∈ w.property, ¬isSign c) ∧ ∀ c ∈ w.value, ¬isSign c := by
  obtain ⟨_, rest, -, hprop, hv⟩ := exists_of_after? h
  refine ⟨hprop ▸ hp, ?_⟩
  cases hg : group? rest with
  | none =>
      rw [hg, Option.getD_none] at hv
      rw [show w.value = (ident rest).1 from congrArg Prod.fst hv]
      exact not_sign_ident
  | some g =>
      rw [hg, Option.getD_some] at hv
      exact not_sign_group? (hg.trans (congrArg some hv.symm))

theorem not_sign_window? {s : List Char} {w : Window} (h : window? s = some w) :
    (∀ c ∈ w.property, ¬isSign c) ∧ ∀ c ∈ w.value, ¬isSign c := by
  unfold window? at h
  split at h
  · rename_i v hv
    obtain ⟨g, hg, hw⟩ := Option.bind_eq_some_iff.1 hv
    obtain rfl := Option.some.inj h
    exact Window.not_sign_after? (not_sign_group? hg) hw
  · exact Window.not_sign_after? not_sign_ident h

theorem window?_of_isSign {c : Char} {s : List Char} (h : isSign c) :
    (window? (c :: s)).isSome := by
  have hs : (sign? (c :: s)).isSome := by
    simp only [isSign, Bool.or_eq_true, beq_iff_eq] at h
    unfold sign?
    split <;> simp_all
  have hi : ident (c :: s) = ([], c :: s) := by
    have hc : isIdent c = false := Bool.eq_false_iff.2 fun hi => not_isSign_of_isIdent hi h
    simp [ident, hc]
  have ha : (Window.after? [] (c :: s)).isSome := by
    obtain ⟨r, hr⟩ := Option.isSome_iff_exists.1 hs
    simp [Window.after?, hr]
  unfold window?
  split
  · rfl
  · rwa [hi]

theorem not_sign_expandFrom {s r : List Char} (h : expandFrom s = .ok r) : ∀ c ∈ r, ¬isSign c := by
  fun_induction expandFrom s generalizing r with
  | case1 s w hw ih =>
      obtain ⟨call, hc, h⟩ := bind_eq_ok.1 h
      obtain ⟨rest, hr, h⟩ := bind_eq_ok.1 h
      obtain ⟨name, hn, rfl⟩ := Window.exists_of_call hc
      obtain ⟨hp, hv⟩ := not_sign_window? hw
      rw [pure_eq, Except.ok.injEq] at h
      rw [← h]
      intro c hm
      simp only [List.mem_append, List.mem_cons, List.not_mem_nil, or_false] at hm
      rcases hm with (hm | rfl | (hm | rfl | hm) | rfl) | hm
      · exact not_isSign_of_isWord (hn c hm)
      · decide
      · exact hp c hm
      · decide
      · exact hv c hm
      · decide
      · exact ih hr c hm
  | case2 hw =>
      rw [pure_eq, Except.ok.injEq] at h
      simp [← h]
  | case3 c s hw ih =>
      obtain ⟨rest, hr, h⟩ := bind_eq_ok.1 h
      rw [pure_eq, Except.ok.injEq] at h
      rw [← h]
      intro d hm
      rcases List.mem_cons.1 hm with rfl | hm
      · intro hs
        have := window?_of_isSign (s := s) hs
        simp [hw] at this
      · exact ih hr d hm

end Shorthand

end ResourceQuery
