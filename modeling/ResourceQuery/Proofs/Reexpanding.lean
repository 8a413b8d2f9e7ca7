import Mathlib
import ResourceQuery.Proofs.Windows

namespace ResourceQuery.Shorthand

open Outcome Text

variable {c : Char} {s t r : List Char} {w : Window}

def IsCode (code : List Char) : Prop := code = ['%', '3', 'C'] ∨ code = ['%', '3', 'E']

theorem noBracket_iff : NoBracket s ↔ ∀ code, IsCode code → ¬code <:+: s := by
  simp [NoBracket, IsCode]

theorem NoBracket.part (h : NoBracket s) (ht : t <:+: s) : NoBracket t :=
  ⟨fun hi => h.1 (hi.trans ht), fun hi => h.2 (hi.trans ht)⟩

theorem noBracket_append_cons (hc : c ≠ '%' ∧ c ≠ '3' ∧ c ≠ 'C' ∧ c ≠ 'E') (x y : List Char) :
    NoBracket (x ++ c :: y) ↔ NoBracket x ∧ NoBracket y := by
  refine ⟨fun h => ⟨h.part ?_, h.part ?_⟩, fun h => h.1.append_cons hc h.2⟩
  · exact (List.prefix_append x (c :: y)).isInfix
  · exact ((List.suffix_cons c y).trans (List.suffix_append x (c :: y))).isInfix

theorem noBracket_cons :
    NoBracket (c :: s) ↔ (∀ code, IsCode code → ¬code <+: c :: s) ∧ NoBracket s := by
  simp only [noBracket_iff, List.infix_cons_iff, not_or, forall_and]

/-- No call has more codes than the comparison it is made of. -/
theorem count_expandFrom_le (h : expandFrom s = .ok r) : r.count '%' ≤ s.count '%' := by
  induction s using expandFrom.induct generalizing r with
  | case1 s w hw ih =>
      obtain ⟨call, rest, hc, hr, rfl⟩ := (expandFrom_window_eq_ok hw).1 h
      obtain ⟨name, hn, rfl⟩ := Window.exists_of_call hc
      have hname : name.count '%' = 0 :=
        List.count_eq_zero.2 fun hm => absurd (hn _ hm) (by decide)
      have hle := ih hr
      have hs := congrArg (List.count '%') (window_parts hw)
      simp only [List.count_append] at hs
      simp [hname]
      omega
  | case2 hw =>
      rw [expandFrom_nil, Except.ok.injEq] at h
      simp [← h]
  | case3 c s hw ih =>
      obtain ⟨rest, hr, rfl⟩ := (expandFrom_cons_eq_ok hw).1 h
      have hle := ih hr
      rw [List.count_cons, List.count_cons]
      omega

theorem expand_calls_iff (hs : ∀ c ∈ r, ¬isSign c) :
    expand (String.ofList r) = .ok (String.ofList r) ↔ NoBracket r := by
  refine ⟨fun h => ?_, fun hb => expand_eq_self ⟨by simpa using hs, by simpa using hb⟩⟩
  by_contra hb
  rw [expand, String.toList_ofList] at h
  obtain ⟨again, hr, ha⟩ := map_eq_ok.1 h
  rw [String.ofList_inj] at ha
  have hle := count_expandFrom_le hr
  have hlt := count_decodeBrackets_lt hs hb
  rw [ha] at hle
  omega

/-- A text stays as it is where there is no sign and no code of a bracket in it, and no sign is left
in any other. -/
theorem expand_eq_self_iff (text : String) :
    (expand text = .ok text ↔ IsStill text.toList) ∧
      ∀ result, expand text = .ok result → ∀ c ∈ result.toList, ¬isSign c := by
  have signless : ∀ result, expand text = .ok result → ∀ c ∈ result.toList, ¬isSign c := by
    intro result h
    obtain ⟨r, hr, rfl⟩ := map_eq_ok.1 h
    rw [String.toList_ofList]
    exact not_sign_expandFrom hr
  refine ⟨⟨fun h => ?_, expand_eq_self⟩, signless⟩
  have hs := signless text h
  rw [← String.ofList_toList (s := text)] at h
  exact ⟨hs, (expand_calls_iff hs).1 h⟩

theorem expand_eq_self_iff_code :
    expand "eq(a,'%3C')" = .ok "eq(a,'lt(,)')" ∧ ¬IsStill "eq(a,'%3C')".toList ∧
      ∀ c ∈ "eq(a,'lt(,)')".toList, ¬isSign c := by
  have h : expand "eq(a,'%3C')" = .ok "eq(a,'lt(,)')" := by cbv
  refine ⟨h, fun hs => ?_, (expand_eq_self_iff _).2 _ h⟩
  have := (expand_eq_self_iff _).1.2 hs
  simp [h] at this

/-- In front of a comparison stands a `%`, or a `%` and a `3`, that is in no comparison, and with
the name of the call it makes the code of an angle bracket. -/
def Pastes (s : List Char) : Prop :=
  ∃ u v w name code, (u = ['%'] ∨ u = ['%', '3']) ∧ u ++ v ∈ stops s ∧ window? (u ++ v) = none ∧
    window? v = some w ∧ callName w.sign = .ok name ∧ IsCode code ∧ code <+: u ++ name

theorem window?_cons_eq_none {d : Char} (hc : isIdent c) (hd : isIdent d) :
    window? (c :: d :: s) = none ↔ window? (d :: s) = none := by
  have side {c : Char} (hc : isIdent c) (s : List Char) : (operand (c :: s)).2 = (ident s).2 := by
    rw [operand, group?_eq_none (not_opening_of_isIdent hc)]
    exact List.dropWhile_cons_of_pos hc
  rw [window?_eq, window?_eq, Option.map_eq_none_iff, Option.map_eq_none_iff, side hc, side hd,
    ident, List.dropWhile_cons_of_pos hd]
  rfl

theorem exists_of_expandFrom_window (hw : window? s = some w) (h : expandFrom s = .ok r) :
    ∃ name y, callName w.sign = .ok name ∧ r = name ++ '(' :: y := by
  obtain ⟨call, rest, hc, -, rfl⟩ := (expandFrom_window_eq_ok hw).1 h
  obtain ⟨name, hn, hc⟩ := bind_eq_ok.1 hc
  rw [pure_eq, Except.ok.injEq] at hc
  exact ⟨name, w.property ++ ',' :: w.value ++ [')'] ++ rest, hn, by simp [← hc]⟩

/-- A code that stands in no text before it is expanded is made with the name of a call. -/
theorem code_prefix_iff (hw : window? (c :: s) = none) (hb : NoBracket (c :: s))
    (h : expandFrom s = .ok r) {code : List Char} (hcode : IsCode code) :
    code <+: c :: r ↔ ∃ u v w name, (u = ['%'] ∨ u = ['%', '3']) ∧ u ++ v = c :: s ∧
      window? v = some w ∧ callName w.sign = .ok name ∧ code <+: u ++ name := by
  constructor
  · intro hp
    obtain ⟨x, rfl, hx⟩ : ∃ x, code = ['%', '3', x] ∧ x ≠ '(' := by
      rcases hcode with rfl | rfl <;> exact ⟨_, rfl, by decide⟩
    obtain ⟨rfl, hr⟩ := List.cons_prefix_cons.1 hp
    cases hs : window? s with
    | some w =>
        obtain ⟨name, y, hn, rfl⟩ := exists_of_expandFrom_window hs h
        have hname : ['3', x] <+: name :=
          prefix_of_prefix_append_cons (by simpa using Ne.symm hx) hr
        exact ⟨['%'], s, w, name, .inl rfl, rfl, hs, hn, by simpa using hname⟩
    | none =>
        cases s with
        | nil =>
            rw [expandFrom_nil, Except.ok.injEq] at h
            simp [← h] at hr
        | cons d s =>
            obtain ⟨rest, hrest, rfl⟩ := (expandFrom_cons_eq_ok hs).1 h
            obtain ⟨rfl, hx'⟩ := List.cons_prefix_cons.1 hr
            cases ht : window? s with
            | some w =>
                obtain ⟨name, y, hn, rfl⟩ := exists_of_expandFrom_window ht hrest
                have hname : [x] <+: name :=
                  prefix_of_prefix_append_cons (by simpa using Ne.symm hx) hx'
                exact ⟨['%', '3'], s, w, name, .inr rfl, rfl, ht, hn, by simpa using hname⟩
            | none =>
                cases s with
                | nil =>
                    rw [expandFrom_nil, Except.ok.injEq] at hrest
                    simp [← hrest] at hx'
                | cons e s =>
                    obtain ⟨_, -, rfl⟩ := (expandFrom_cons_eq_ok ht).1 hrest
                    obtain ⟨rfl, -⟩ := List.cons_prefix_cons.1 hx'
                    exact absurd ⟨s, rfl⟩ ((noBracket_cons.1 hb).1 _ hcode)
  · rintro ⟨u, v, w, name, hu, hv, hs, hn, hp⟩
    have pasted {r : List Char} (hr : expandFrom v = .ok r) : code <+: u ++ r := by
      obtain ⟨name', y, hn', rfl⟩ := exists_of_expandFrom_window hs hr
      obtain rfl : name = name' := Except.ok.inj (hn.symm.trans hn')
      rw [← List.append_assoc]
      exact hp.trans (List.prefix_append _ _)
    rcases hu with rfl | rfl
    · obtain ⟨rfl, rfl⟩ := List.cons.inj hv
      exact pasted h
    · obtain ⟨rfl, rfl⟩ := List.cons.inj hv
      have hs := (window?_cons_eq_none (by decide) (by decide)).1 hw
      obtain ⟨rest, hr, rfl⟩ := (expandFrom_cons_eq_ok hs).1 h
      exact pasted hr

/-- Expansion brings in codes of brackets where it pastes them together only. -/
theorem noBracket_expandFrom_iff (hb : NoBracket s) (h : expandFrom s = .ok r) :
    NoBracket r ↔ ¬Pastes s := by
  induction s using expandFrom.induct generalizing r with
  | case1 s w hw ih =>
      obtain ⟨call, rest, hc, hr, rfl⟩ := (expandFrom_window_eq_ok hw).1 h
      obtain ⟨name, hn, rfl⟩ := Window.exists_of_call hc
      have hs := window_parts hw
      have hname : NoBracket name := noBracket_of_notMem fun hm => absurd (hn _ hm) (by decide)
      have hproperty : NoBracket w.property :=
        hb.part ⟨[], w.sign ++ (w.value ++ w.rest), hs.symm⟩
      have hvalue : NoBracket w.value :=
        hb.part ⟨w.property ++ w.sign, w.rest, by rw [hs]; simp⟩
      have hcall : NoBracket (name ++ '(' :: (w.property ++ ',' :: w.value ++ [')']) ++ rest) ↔
          NoBracket rest := by
        rw [show name ++ '(' :: (w.property ++ ',' :: w.value ++ [')']) ++ rest =
            name ++ '(' :: (w.property ++ ',' :: (w.value ++ ')' :: rest)) by simp,
          noBracket_append_cons (by decide), noBracket_append_cons (by decide),
          noBracket_append_cons (by decide)]
        simp [hname, hproperty, hvalue]
      have hpastes : Pastes s ↔ Pastes w.rest := by
        unfold Pastes
        rw [stops_window hw]
        refine exists_congr fun u => exists_congr fun v => exists_congr fun w' =>
          exists_congr fun name => exists_congr fun code => and_congr_right fun _ => ?_
        rw [List.mem_cons]
        refine ⟨?_, fun ⟨hm, h⟩ => ⟨.inr hm, h⟩⟩
        rintro ⟨rfl | hm, hn, h⟩
        · simp [hn] at hw
        · exact ⟨hm, hn, h⟩
      rw [hcall, hpastes]
      exact ih (hb.part (rest_suffix hw).isInfix) hr
  | case2 hw =>
      rw [expandFrom_nil, Except.ok.injEq] at h
      rw [← h]
      refine ⟨fun _ => ?_, fun _ => hb⟩
      rintro ⟨u, v, w, name, code, hu, hm, -⟩
      rw [stops_nil, List.mem_singleton] at hm
      rcases hu with rfl | rfl <;> simp at hm
  | case3 c s hw ih =>
      obtain ⟨rest, hr, rfl⟩ := (expandFrom_cons_eq_ok hw).1 h
      rw [noBracket_cons, ih (noBracket_cons.1 hb).2 hr]
      have hpastes : Pastes (c :: s) ↔
          (∃ code, IsCode code ∧ code <+: c :: rest) ∨ Pastes s := by
        unfold Pastes
        rw [stops_cons hw]
        constructor
        · rintro ⟨u, v, w, name, code, hu, hm, hn, hv, hname, hcode, hp⟩
          rcases List.mem_cons.1 hm with he | hm
          · exact .inl ⟨code, hcode, (code_prefix_iff hw hb hr hcode).2
              ⟨u, v, w, name, hu, he, hv, hname, hp⟩⟩
          · exact .inr ⟨u, v, w, name, code, hu, hm, hn, hv, hname, hcode, hp⟩
        · rintro (⟨code, hcode, hp⟩ | ⟨u, v, w, name, code, hu, hm, h⟩)
          · obtain ⟨u, v, w, name, hu, he, hv, hname, hp⟩ := (code_prefix_iff hw hb hr hcode).1 hp
            exact ⟨u, v, w, name, code, hu, by simp [he], he ▸ hw, hv, hname, hcode, hp⟩
          · exact ⟨u, v, w, name, code, hu, List.mem_cons_of_mem _ hm, h⟩
      rw [hpastes, not_or]
      refine and_congr_left fun _ => ?_
      push Not
      rfl

/-- An expanded text expands to itself, unless a call in it makes the code of a bracket with a `%`
in front of it. -/
theorem expand_expand {text result : String} (h : expand text = .ok result) :
    expand result = .ok result ↔ ¬Pastes (decodeBrackets text.toList) := by
  obtain ⟨r, hr, rfl⟩ := map_eq_ok.1 h
  rw [expand_calls_iff (not_sign_expandFrom hr)]
  exact noBracket_expandFrom_iff (noBracket_decodeBrackets text.toList) hr

theorem expand_expand_percent :
    expand "100%&c=3C=d" = .ok "100%&3C(c,d)" ∧ ¬Pastes (decodeBrackets "100%&c=3C=d".toList) := by
  have h : expand "100%&c=3C=d" = .ok "100%&3C(c,d)" := by cbv
  have again : expand "100%&3C(c,d)" = .ok "100%&3C(c,d)" := by cbv
  exact ⟨h, (expand_expand h).1 again⟩

/-- The name that a comparison with a group gives makes a code with the `%` before it. -/
theorem expand_expand_pasted :
    expand "%(a)=3C=b" = .ok "%3C((a),b)" ∧ expand "%3C((a),b)" = .ok "lt(,)((a),b)" := by
  constructor <;> cbv

end ResourceQuery.Shorthand
