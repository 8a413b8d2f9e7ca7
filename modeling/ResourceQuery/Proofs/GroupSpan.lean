import ResourceQuery.Proofs.Escaping
import ResourceQuery.Proofs.GroupBody

namespace ResourceQuery

open Text

namespace Group

variable {e c : Char} {n : Nat} {s t x y : List Char} {g : Group}

/-- The body of a group and its content, which is the body without its escape characters: outside
quotes an escape character comes before any character, quotes enclose anything but themselves, and
parentheses enclose a body. -/
inductive Body (e : Char) : List Char → List Char → Prop
  | nil : Body e [] []
  | escaped {s t : List Char} (c : Char) (h : Body e s t) : Body e (e :: c :: s) (c :: t)
  | quoted {q : Char} {x s t : List Char} (he : q ≠ e) (hq : isQuote q) (hx : q ∉ x)
      (h : Body e s t) : Body e (q :: x ++ q :: s) (q :: x ++ q :: t)
  | group {x y s t : List Char} (ho : '(' ≠ e) (hc : ')' ≠ e) (hx : Body e x y) (h : Body e s t) :
      Body e ('(' :: x ++ ')' :: s) ('(' :: y ++ ')' :: t)
  | plain {c : Char} {s t : List Char} (he : c ≠ e) (hq : ¬isQuote c) (ho : c ≠ '(') (hc : c ≠ ')')
      (h : Body e s t) : Body e (c :: s) (c :: t)

theorem Body.passes (h : Body e s t) : Passes e s t := by
  induction h with
  | nil => exact passes_nil
  | escaped c h ih => exact (passes_escaped c).append ih
  | quoted he hq hx h ih =>
      have hp := (balanced_quoted he hq hx).passes.append ih
      simpa using hp
  | group ho hc hx h ihx ih =>
      have hp := (ihx.group ho hc).append ih
      simpa using hp
  | plain he hq ho hc h ih =>
      have hp : Balanced e [_] := balanced_of_plain fun d hd => by
        obtain rfl := List.mem_singleton.1 hd
        exact ⟨he, hq, ho, hc⟩
      exact hp.passes.append ih

theorem exists_of_scan_quoted {q : Char} (h : scan e (.quoted q) n s = some g) :
    ∃ x s' g', q ∉ x ∧ s = x ++ q :: s' ∧ scan e .plain n s' = some g' ∧
      g = push (x ++ [q]) g' := by
  induction s generalizing g with
  | nil => simp [scan] at h
  | cons c s ih =>
      by_cases hc : c = q
      · subst hc
        rw [scan_literal Quoting.step_close] at h
        obtain ⟨g', hg, rfl⟩ := Option.map_eq_some_iff.1 h
        exact ⟨[], s, g', List.not_mem_nil, rfl, hg, rfl⟩
      · rw [scan_literal (Quoting.step_quoted hc)] at h
        obtain ⟨g', hg, rfl⟩ := Option.map_eq_some_iff.1 h
        obtain ⟨x, s', g'', hx, rfl, hs, rfl⟩ := ih hg
        refine ⟨c :: x, s', g'', ?_, rfl, hs, rfl⟩
        simp [hx, Ne.symm hc]

theorem scan_cons_cases (h : scan e .plain 0 (c :: s) = some g) :
    (c = e ∧ ∃ d t g', s = d :: t ∧ scan e .plain 0 t = some g' ∧ g = pass [c, d] [d] g') ∨
    (c ≠ e ∧ isQuote c ∧ ∃ x t g', c ∉ x ∧ s = x ++ c :: t ∧ scan e .plain 0 t = some g' ∧
      g = push (c :: x ++ [c]) g') ∨
    (c ≠ e ∧ c = '(' ∧ ∃ g₁ g₂, scan e .plain 0 s = some g₁ ∧ scan e .plain 0 g₁.rest = some g₂ ∧
      g = pass (c :: g₁.raw ++ [')']) (c :: g₁.content ++ [')']) g₂) ∨
    (c ≠ e ∧ c = ')' ∧ g = ⟨[], [], s⟩) ∨
    (c ≠ e ∧ ¬isQuote c ∧ c ≠ '(' ∧ c ≠ ')' ∧ ∃ g', scan e .plain 0 s = some g' ∧
      g = keep c g') := by
  by_cases he : c = e
  · subst he
    have hmark : Quoting.plain.step c c = (.escaped, .mark) := if_pos rfl
    rw [scan_mark hmark] at h
    obtain ⟨g, hg, rfl⟩ := Option.map_eq_some_iff.1 h
    cases s with
    | nil => simp [scan] at hg
    | cons d t =>
        have hnext : Quoting.escaped.step c d = (.plain, .literal) := rfl
        rw [scan_literal hnext] at hg
        obtain ⟨g, ht, rfl⟩ := Option.map_eq_some_iff.1 hg
        exact .inl ⟨rfl, d, t, g, rfl, ht, rfl⟩
  refine .inr ?_
  by_cases hq : isQuote c
  · rw [scan_literal (Quoting.step_open he hq)] at h
    obtain ⟨g, hg, rfl⟩ := Option.map_eq_some_iff.1 h
    obtain ⟨x, t, g, hx, rfl, ht, rfl⟩ := exists_of_scan_quoted hg
    exact .inl ⟨he, hq, x, t, g, hx, rfl, ht, rfl⟩
  refine .inr ?_
  by_cases ho : c = '('
  · subst ho
    rw [scan_open he] at h
    obtain ⟨g, hg, rfl⟩ := Option.map_eq_some_iff.1 h
    obtain ⟨g₁, g₂, h₁, h₂, rfl⟩ := @scan_add_succ e .plain _ _ 0 0 hg
    exact .inl ⟨he, rfl, g₁, g₂, h₁, h₂, rfl⟩
  refine .inr ?_
  by_cases hc : c = ')'
  · subst hc
    rw [scan_close he] at h
    exact .inl ⟨he, rfl, (Option.some.inj h).symm⟩
  · rw [scan_plain he hq ho hc] at h
    obtain ⟨g, hg, rfl⟩ := Option.map_eq_some_iff.1 h
    exact .inr ⟨he, hq, ho, hc, g, hg, rfl⟩

theorem body_of_scan (h : scan e .plain 0 s = some g) : Body e g.raw g.content := by
  -- by the length: what a quotation or a group leaves is read from a later place
  induction hl : s.length using Nat.strong_induction_on generalizing s g with
  | _ l ih =>
      subst hl
      cases s with
      | nil => simp [scan] at h
      | cons c s =>
          obtain ⟨rfl, d, t, g, rfl, ht, rfl⟩ | ⟨he, hq, x, t, g, hx, rfl, ht, rfl⟩ |
            ⟨he, rfl, g₁, g₂, h₁, h₂, rfl⟩ | ⟨-, -, rfl⟩ | ⟨he, hq, ho, hc, g, hg, rfl⟩ :=
            scan_cons_cases h
          · exact .escaped d (ih _ (by simp) ht rfl)
          · have hb := Body.quoted he hq hx (ih _ (by simp; omega) ht rfl)
            simpa [push] using hb
          · have hrest := scan_rest_length h₁
            have hb := Body.group he (closing_ne_of_scan h₁) (ih _ (by simp) h₁ rfl)
              (ih _ (by simp; omega) h₂ rfl)
            simpa [pass] using hb
          · exact .nil
          · exact .plain he hq ho hc (ih _ (by simp) hg rfl)

/-- A scan finds the end of a body, and its content. -/
theorem scan_eq_some_iff : scan e .plain 0 s = some g ↔
    ')' ≠ e ∧ Body e g.raw g.content ∧ s = g.raw ++ ')' :: g.rest := by
  constructor
  · intro h
    exact ⟨closing_ne_of_scan h, body_of_scan h, scan_eq_some_append h⟩
  · rintro ⟨hc, hb, rfl⟩
    exact hb.passes.scan hc g.rest

theorem ofText_eq_ok_iff : ofText e s = .ok g ↔ scan e .plain 0 (s.drop 1) = some g := by
  unfold ofText
  split
  · rename_i g' hg
    rw [hg, Except.ok.injEq, Option.some.injEq]
  · rename_i hn
    rw [hn]
    simp

theorem ofText_eq_error {f : SyntaxFault} (h : ofText e s = .error f) :
    f = .unclosedGroup (String.ofList s) := by
  unfold ofText at h
  split at h
  · simp at h
  · exact (Except.error.inj h).symm

def isBound (c : Char) : Bool := isQuote c || c == '(' || c == ')'

/-- A text with its marks escaped is the content of a group, whatever stands after it, unless the
parenthesis that closes the group is the escape character. -/
theorem contentOf_escape_iff (e : Char) :
    (∀ s rest : String,
      contentOf e ("(" ++ String.ofList (escape e isBound s.toList) ++ ")" ++ rest) = .ok s) ↔
        e ≠ ')' := by
  constructor
  · rintro h rfl
    have hnone := h "" ""
    exact absurd hnone (by decide)
  · intro he s rest
    have hp : Passes e (escape e isBound s.toList) s.toList := by
      refine passes_escape (fun c hc => ?_) s.toList
      rcases hc with hq | rfl | rfl
      · simp [isBound, hq]
      · rfl
      · rfl
    have hg : ofText e ("(" ++ String.ofList (escape e isBound s.toList) ++ ")" ++ rest).toList =
        .ok ⟨escape e isBound s.toList, s.toList, rest.toList⟩ := by
      rw [ofText_eq_ok_iff, ← hp.scan he.symm rest.toList]
      simp
    rw [contentOf, hg]
    exact congrArg Except.ok String.ofList_toList

/-- The content of the group that opens at a place of a text, and the place after it. -/
def spanAt (e : Char) (input : List Char) (start : Nat) : Except SyntaxFault (List Char × Nat) :=
  (ofText e (input.drop start)).map fun g => (g.content, input.length - g.rest.length)

section

variable {input out : List Char} {start stop : Nat}

/-- A group opens at the place `start` of a text and ends before the place `stop`. -/
structure Encloses (e : Char) (input : List Char) (start stop : Nat) (out : List Char) : Prop where
  start_le : start + 2 ≤ stop
  le_length : stop ≤ input.length
  closing : input[stop - 1]? = some ')'
  closing_ne : ')' ≠ e
  body : Body e ((input.take (stop - 1)).drop (start + 1)) out

namespace Encloses

theorem take_eq (h : Encloses e input start stop out) : input.take stop =
    input.take (start + 1) ++ (input.take (stop - 1)).drop (start + 1) ++ [')'] := by
  obtain ⟨hlt, hclose⟩ := List.getElem?_eq_some_iff.1 h.closing
  have hstart := h.start_le
  have hstop : stop = stop - 1 + 1 := by omega
  have htake : (input.take (stop - 1)).take (start + 1) = input.take (start + 1) := by
    rw [List.take_take, Nat.min_eq_left (by omega)]
  rw [← htake, List.take_append_drop, ← hclose, List.take_append_getElem, ← hstop]

theorem span (h : Encloses e input start stop out) (y : List Char) :
    ofText e ((input.take stop ++ y).drop start) =
        .ok ⟨(input.take (stop - 1)).drop (start + 1), out, y⟩ ∧
      spanAt e (input.take stop ++ y) start = .ok (out, stop) := by
  have hstart := h.start_le
  have hlength := h.le_length
  have hbefore : (input.take (start + 1)).length = start + 1 := by
    rw [List.length_take]
    omega
  have hg : ofText e ((input.take stop ++ y).drop start) =
      .ok ⟨(input.take (stop - 1)).drop (start + 1), out, y⟩ := by
    rw [ofText_eq_ok_iff, List.drop_drop, h.take_eq, List.append_assoc, List.append_assoc,
      List.drop_left' hbefore]
    exact h.body.passes.scan h.closing_ne y
  refine ⟨hg, ?_⟩
  rw [spanAt, hg]
  simp only [Except.map, List.length_append, List.length_take]
  congr 2
  omega

end Encloses

theorem encloses_of_spanAt (h : spanAt e input start = .ok (out, stop)) :
    Encloses e input start stop out := by
  obtain ⟨⟨raw, content, rest⟩, hg, hout⟩ := Outcome.map_eq_ok.1 h
  obtain ⟨rfl, rfl⟩ := Prod.mk.inj hout
  rw [ofText_eq_ok_iff, List.drop_drop] at hg
  obtain ⟨hc, hb, hs⟩ := scan_eq_some_iff.1 hg
  simp only at hs hb ⊢
  have hl := congrArg List.length hs
  rw [List.length_drop, List.length_append, List.length_cons] at hl
  have hstop : input.length - rest.length - 1 = start + 1 + raw.length := by omega
  refine ⟨by omega, Nat.sub_le _ _, ?_, hc, ?_⟩
  · rw [hstop, ← List.getElem?_drop, hs, List.getElem?_append_right (Nat.le_refl _)]
    simp
  · rw [hstop, List.drop_take, hs, Nat.add_sub_cancel_left, List.take_left]
    exact hb

theorem spanAt_eq_error {f : SyntaxFault} (h : spanAt e input start = .error f) :
    f = .unclosedGroup (String.ofList (input.drop start)) :=
  ofText_eq_error (Outcome.map_eq_error.1 h)

end

/-- The content of a group and the place after it go together: they are found just where the text
between the parentheses is a body with that content. They are the same whatever stands after the
group, so where no group is found there is none in any text that this one begins with. -/
theorem spanAt_local (e : Char) (input : List Char) (start : Nat) :
    (∀ out stop, spanAt e input start = .ok (out, stop) ↔ Encloses e input start stop out) ∧
    (∀ out stop, spanAt e input start = .ok (out, stop) → ∀ y,
      ofText e ((input.take stop ++ y).drop start) =
          .ok ⟨(input.take (stop - 1)).drop (start + 1), out, y⟩ ∧
        spanAt e (input.take stop ++ y) start = .ok (out, stop)) ∧
    ∀ f, spanAt e input start = .error f → ∀ p, p <+: input →
      spanAt e p start = .error (.unclosedGroup (String.ofList (p.drop start))) := by
  refine ⟨fun out stop => ⟨encloses_of_spanAt, fun h => ?_⟩,
    fun out stop h => (encloses_of_spanAt h).span, fun f hf p hp => ?_⟩
  · have hspan := (h.span (input.drop stop)).2
    rwa [List.take_append_drop] at hspan
  · cases hspan : spanAt e p start with
    | error f' => rw [spanAt_eq_error hspan]
    | ok v =>
        -- a group found in the beginning is found in the whole
        obtain ⟨out, stop⟩ := v
        obtain ⟨t, rfl⟩ := hp
        have hmore := ((encloses_of_spanAt hspan).span (p.drop stop ++ t)).2
        rw [← List.append_assoc, List.take_append_drop, hf] at hmore
        simp at hmore

theorem spanAt_local_quoted :
    spanAt '\\' "eq(a\\,'b\\)')&x".toList 2 = .ok ("a,'b\\)'".toList, 12) ∧
      Encloses '\\' "eq(a\\,'b\\)')&x".toList 2 12 "a,'b\\)'".toList ∧
      spanAt '\\' "eq(a\\,'b\\)'))".toList 2 = .ok ("a,'b\\)'".toList, 12) ∧
      spanAt '\\' "eq(a\\,'b\\)'".toList 2 = .error (.unclosedGroup "(a\\,'b\\)'") := by
  obtain ⟨hiff, hmore, -⟩ := spanAt_local '\\' "eq(a\\,'b\\)')&x".toList 2
  obtain ⟨-, -, hfail⟩ := spanAt_local '\\' "eq(a\\,'b\\)'|c".toList 2
  have h : spanAt '\\' "eq(a\\,'b\\)')&x".toList 2 = .ok ("a,'b\\)'".toList, 12) := by rfl
  have hopen : spanAt '\\' "eq(a\\,'b\\)'|c".toList 2 =
      .error (.unclosedGroup "(a\\,'b\\)'|c") := by rfl
  exact ⟨h, (hiff _ _).1 h, (hmore _ _ h [')']).2, hfail _ hopen _ ⟨"|c".toList, rfl⟩⟩

end Group

end ResourceQuery
