import Mathlib.Data.List.TakeWhile
import ResourceQuery.Proofs.Splitting

namespace ResourceQuery

open Outcome Text

theorem Text.trimEnd_opening (x r : List Char) :
    trimEnd (x ++ '(' :: r) = x ++ '(' :: trimEnd r := by
  have ho : ¬isBlank '(' := by decide
  rw [trimEnd, List.reverse_append, List.reverse_cons, List.append_assoc, List.singleton_append,
    List.dropWhile_append, List.dropWhile_cons_of_neg ho, trimEnd]
  split
  · rename_i h
    simp [List.isEmpty_iff.1 h]
  · simp

theorem Text.dropWhile_isBlank_ne_nil {s : List Char} (h : ∃ c ∈ s, ¬isBlank c) :
    s.dropWhile isBlank ≠ [] := by
  intro hn
  obtain ⟨c, hc, hb⟩ := h
  exact hb (List.dropWhile_eq_nil_iff.1 hn c hc)

namespace Quoting

variable {e c : Char} {q q' : Quoting} {x y : List Char}

def run (e : Char) (q : Quoting) (s : List Char) : Quoting :=
  s.foldl (fun q c => (q.step e c).1) q

theorem run_append (q : Quoting) (x y : List Char) : run e q (x ++ y) = run e (run e q x) y :=
  List.foldl_append

theorem run_snoc {role : Role} (h : (run e q x).step e c = (q', role)) :
    run e q (x ++ [c]) = q' := by
  rw [run_append, run, List.foldl_cons, h, List.foldl_nil]

/-- What stands before the first parenthesis of a text that is neither escaped nor quoted, where
there is such a parenthesis. -/
def beforeOpening? (e : Char) : Quoting → List Char → Option (List Char)
  | _, [] => none
  | q, c :: s =>
      match q.step e c with
      | (q, .structural) =>
          if c = '(' then some [] else (beforeOpening? e q s).map (c :: ·)
      | (q, _) => (beforeOpening? e q s).map (c :: ·)

theorem beforeOpening?_append (q : Quoting) (x y : List Char) :
    beforeOpening? e q (x ++ y) =
      (beforeOpening? e q x).or ((beforeOpening? e (run e q x) y).map (x ++ ·)) := by
  induction x generalizing q with
  | nil =>
      rw [List.nil_append, beforeOpening?, Option.none_or]
      exact (congrFun Option.map_id _).symm
  | cons c x ih =>
      have hrun : run e q (c :: x) = run e (q.step e c).1 x := rfl
      rw [List.cons_append, hrun, beforeOpening?, beforeOpening?]
      rcases q.step e c with ⟨q', role⟩
      by_cases hc : c = '('
      · cases role <;> simp [hc, ih, Option.map_or, Function.comp_def]
      · cases role <;> simp [hc, ih, Option.map_or, Function.comp_def]

theorem beforeOpening?_singleton (h : ∀ q', q.step e c = (q', .structural) → c ≠ '(') :
    beforeOpening? e q [c] = none := by
  unfold beforeOpening?
  split
  · rename_i q' hq
    rw [if_neg (h q' hq), beforeOpening?, Option.map_none]
  · rw [beforeOpening?, Option.map_none]

theorem beforeOpening?_eq_none (h : '(' ∉ x) : beforeOpening? e q x = none := by
  induction x generalizing q with
  | nil => rfl
  | cons c x ih =>
      rw [List.mem_cons, not_or] at h
      rw [← List.singleton_append, beforeOpening?_append, ih h.2, Option.map_none, Option.or_none]
      exact beforeOpening?_singleton fun _ _ => Ne.symm h.1

theorem beforeOpening?_self {u : List Char} (h : beforeOpening? e q x = some u) :
    beforeOpening? e q u = none ∧ ∃ v, x = u ++ '(' :: v := by
  induction x generalizing q u with
  | nil => simp [beforeOpening?] at h
  | cons c x ih =>
      rw [beforeOpening?] at h
      rcases hq : q.step e c with ⟨q', role⟩
      have step (hc : role = .structural → c ≠ '(')
          (h : (beforeOpening? e q' x).map (c :: ·) = some u) :
          beforeOpening? e q u = none ∧ ∃ v, c :: x = u ++ '(' :: v := by
        obtain ⟨u, hu, rfl⟩ := Option.map_eq_some_iff.1 h
        obtain ⟨hn, v, rfl⟩ := ih hu
        refine ⟨?_, v, rfl⟩
        rw [beforeOpening?, hq]
        cases role <;> simp_all
      rw [hq] at h
      cases role with
      | literal | mark => exact step (by simp) h
      | structural =>
          by_cases hc : c = '('
          · simp only [if_pos hc, Option.some.injEq] at h
            exact h ▸ ⟨rfl, x, by rw [hc, List.nil_append]⟩
          · simp only [if_neg hc] at h
            exact step (fun _ => hc) h

def IsUnquoted (e : Char) (x : List Char) : Prop := ∀ c ∈ x, c ≠ e ∧ ¬isQuote c

theorem IsUnquoted.run_plain (h : IsUnquoted e x) : run e .plain x = .plain := by
  induction x with
  | nil => rfl
  | cons c x ih =>
      obtain ⟨⟨he, hq⟩, hx⟩ := List.forall_mem_cons.1 h
      rw [run, List.foldl_cons, step_plain he hq]
      exact ih hx

theorem IsUnquoted.opening_notMem (h : IsUnquoted e x) (hx : beforeOpening? e .plain x = none) :
    '(' ∉ x := by
  induction x with
  | nil => simp
  | cons c x ih =>
      obtain ⟨⟨he, hq⟩, hs⟩ := List.forall_mem_cons.1 h
      rw [beforeOpening?, step_plain he hq] at hx
      by_cases hc : c = '('
      · simp [hc] at hx
      · simp only [if_neg hc, Option.map_eq_none_iff] at hx
        rw [List.mem_cons, not_or]
        exact ⟨Ne.symm hc, ih hs hx⟩

theorem run_group {n : Nat} {s : List Char} {g : Group} (h : Group.scan e q n s = some g) :
    run e q (g.raw ++ [')']) = .plain := by
  induction s generalizing q n g with
  | nil => simp [Group.scan] at h
  | cons c s ih =>
      have step {k : Char → Group → Group} (hk : ∀ g, (k c g).raw = c :: g.raw) {m : Nat}
          (h : (Group.scan e (q.step e c).1 m s).map (k c) = some g) :
          run e q (g.raw ++ [')']) = .plain := by
        obtain ⟨g, hg, rfl⟩ := Option.map_eq_some_iff.1 h
        rw [hk, List.cons_append]
        exact ih hg
      rcases hq : q.step e c with ⟨q', role⟩
      rw [hq] at step
      cases role with
      | literal => exact step (k := Group.keep) (fun _ => rfl) (Group.scan_literal hq ▸ h)
      | mark => exact step (k := Group.hide) (fun _ => rfl) (Group.scan_mark hq ▸ h)
      | structural =>
          by_cases hc : c = ')'
          · obtain ⟨rfl, rfl, he⟩ := step_structural hq
            subst hc
            cases n with
            | zero =>
                rw [Group.scan_close he, Option.some.injEq] at h
                rw [← h]
                exact congrArg Prod.fst hq
            | succ n =>
                exact step (k := Group.keep) (fun _ => rfl) (Group.scan_close_succ he n s ▸ h)
          · exact step (k := Group.keep) (fun _ => rfl) (Group.scan_structural hq hc ▸ h)

end Quoting

/-- An argument of a call, and the characters of the call that it comes from. -/
inductive Sourced
  | text (source : List Char) (s : String)
  | list (source : List Char) (items : List Sourced)

namespace Sourced

variable {e : Char}

def source : Sourced → List Char
  | text x _ => x
  | list x _ => x

mutual

def chunk : Sourced → Chunk
  | text _ s => .text s
  | list _ items => .list (chunks items)

def chunks : List Sourced → List Chunk
  | [] => []
  | a :: as => chunk a :: chunks as

end

theorem chunk_mem_chunks {a : Sourced} {as : List Sourced} (h : a ∈ as) : a.chunk ∈ chunks as := by
  induction as with
  | nil => simp at h
  | cons b as ih =>
      rw [chunks]
      rcases List.mem_cons.1 h with rfl | h
      · exact List.mem_cons_self
      · exact List.mem_cons_of_mem _ (ih h)

/-- Reads chunks and keeps what they come from. `source` holds what the chunk under way comes from
so far, last character first. -/
def splitFrom (escape : Char) (limit room : Nat) (q : Quoting) (source read s : List Char) :
    Except SyntaxFault (List Sourced) :=
  match s with
  | [] => return if read.isEmpty then [] else
      [.text source.reverse (String.ofList (bare read.reverse))]
  | c :: s =>
      match q.step escape c with
      | (q, .literal) => splitFrom escape limit room q (c :: source) (c :: read) s
      | (q, .mark) => splitFrom escape limit room q (c :: source) read s
      | (q, .structural) =>
          if c = '(' then
            match _h : Group.scan escape .plain 0 s with
            | none =>
                if read.isEmpty && room == 0 then throw (.tooDeep limit)
                else throw (.unclosedGroup (String.ofList (c :: s)))
            | some g =>
                if read.isEmpty then
                  match room with
                  | 0 => throw (.tooDeep limit)
                  | room + 1 => do
                      let items ← splitFrom escape limit room .plain [] [] g.raw
                      let rest ← splitFrom escape limit (room + 1) .plain [] []
                        (Chunk.skipSeparator g.rest)
                      return .list (source.reverse ++ '(' :: g.raw ++ [')']) items :: rest
                else
                  splitFrom escape limit room q (')' :: g.raw.reverse ++ c :: source)
                    (')' :: g.raw.reverse ++ c :: read) g.rest
          else if c = ',' then do
            let rest ← splitFrom escape limit room q [] [] s
            return .text source.reverse (String.ofList (bare read.reverse)) :: rest
          else if read.isEmpty && isBlank c then
            splitFrom escape limit room q (c :: source) read s
          else splitFrom escape limit room q (c :: source) (c :: read) s
termination_by s.length
decreasing_by
  all_goals simp only [List.length_cons]
  · omega
  · omega
  · have := Group.scan_raw_length ‹_›
    omega
  · have := Group.scan_rest_length ‹_›
    have := Chunk.skipSeparator_length g.rest
    omega
  · have := Group.scan_rest_length ‹_›
    omega
  · omega
  · omega
  · omega

def ofBody (escape : Char) (limit : Nat) (body : List Char) : Except SyntaxFault (List Sourced) :=
  splitFrom escape limit limit .plain [] [] body

theorem map_chunks_splitFrom (limit room : Nat) (q : Quoting) (source read s : List Char) :
    (splitFrom e limit room q source read s).map chunks =
      Chunk.splitFrom e limit room q read s := by
  fun_induction splitFrom e limit room q source read s with
  | case1 room q source read =>
      rw [Chunk.splitFrom]
      cases read <;> rfl
  | case2 room q source read c s q' hq ih | case3 room q source read c s q' hq ih =>
      rw [Chunk.splitFrom, hq]
      exact ih
  | case4 room q source read s q' hs hd hq =>
      obtain ⟨rfl, -, ho⟩ := Quoting.step_structural hq
      rw [Chunk.splitFrom_unclosed hs ho, if_pos hd]
      rfl
  | case5 room q source read s q' hs hd hq =>
      obtain ⟨rfl, -, ho⟩ := Quoting.step_structural hq
      rw [Chunk.splitFrom_unclosed hs ho, if_neg hd]
      rfl
  | case6 q source read s q' g hs hr hq =>
      obtain ⟨rfl, -, ho⟩ := Quoting.step_structural hq
      rw [List.isEmpty_iff.1 hr, Chunk.splitFrom_list_zero ho]
      rfl
  | case7 q source read s q' g hs hr room hq ihi ihr =>
      obtain ⟨rfl, -, ho⟩ := Quoting.step_structural hq
      rw [List.isEmpty_iff.1 hr, Chunk.splitFrom_list_of_scan hs ho, ← ihi, ← ihr]
      cases splitFrom e limit room .plain [] [] g.raw with
      | error f => rfl
      | ok items =>
          cases splitFrom e limit (room + 1) .plain [] [] (Chunk.skipSeparator g.rest) <;> rfl
  | case8 room q source read s q' g hs hr hq ih =>
      obtain ⟨rfl, rfl, ho⟩ := Quoting.step_structural hq
      rw [Chunk.splitFrom_call_of_scan hs ho fun h => hr (List.isEmpty_iff.2 h)]
      exact ih
  | case9 room q source read s q' hq hne ih =>
      obtain ⟨rfl, rfl, hc⟩ := Quoting.step_structural hq
      rw [Chunk.splitFrom_comma hc, ← ih]
      cases splitFrom e limit room .plain [] [] s <;> rfl
  | case10 room q source read c s q' hq ho hc hb ih =>
      rw [Chunk.splitFrom, hq]
      simp only [if_neg ho, if_neg hc, if_pos hb]
      exact ih
  | case11 room q source read c s q' hq ho hc hb ih =>
      rw [Chunk.splitFrom, hq]
      simp only [if_neg ho, if_neg hc]
      rw [if_neg hb]
      exact ih

theorem chunks_of_ofBody {limit : Nat} {body : List Char} {cs : List Chunk}
    (h : Chunk.ofBody e limit body = .ok cs) :
    ∃ as, ofBody e limit body = .ok as ∧ chunks as = cs :=
  map_eq_ok.1 ((map_chunks_splitFrom limit limit .plain [] [] body).trans h)

inductive Within (a : Sourced) : List Sourced → Prop
  | here {as : List Sourced} (h : a ∈ as) : Within a as
  | inside {x : List Char} {items as : List Sourced} (h : .list x items ∈ as)
      (hi : Within a items) : Within a as

theorem within_nil {a : Sourced} : ¬Within a [] := by
  intro h
  cases h with
  | here h | inside h => simp at h

theorem within_cons {a b : Sourced} {bs : List Sourced} (h : Within a (b :: bs)) :
    a = b ∨ (∃ x items, b = .list x items ∧ Within a items) ∨ Within a bs := by
  cases h with
  | here h => exact (List.mem_cons.1 h).imp_right fun h => .inr (.here h)
  | inside h hi =>
      rcases List.mem_cons.1 h with h | h
      · exact .inr (.inl ⟨_, _, h.symm, hi⟩)
      · exact .inr (.inr (.inside h hi))

theorem within_text_cons {a : Sourced} {x : List Char} {s : String} {as : List Sourced}
    (h : Within a (.text x s :: as)) : a = .text x s ∨ Within a as := by
  rcases within_cons h with h | ⟨y, items, hy, -⟩ | h
  · exact .inl h
  · simp at hy
  · exact .inr h

/-- A list opens where nothing stands before its parenthesis. A text with a parenthesis keeps what
stands before it. -/
def AsWritten (e : Char) : Sourced → Prop
  | .text x s => ∀ u, Quoting.beforeOpening? e .plain x = some u → (∃ c ∈ u, ¬isBlank c) ∧
      (Quoting.IsUnquoted e u → ∃ t, s.toList = u.dropWhile isBlank ++ '(' :: t)
  | .list x _ => ∃ u, Quoting.beforeOpening? e .plain x = some u ∧ ∀ c ∈ u, isBlank c

/-- What holds of a chunk under way that has come from `x`, with the text `t` so far. -/
structure Pending (e : Char) (q : Quoting) (x t : List Char) : Prop where
  state : Quoting.run e .plain x = q
  blank : t = [] → q ≠ .escaped → ∀ c ∈ x, isBlank c
  whole : Quoting.beforeOpening? e .plain x = none → Quoting.IsUnquoted e x →
    t = x.dropWhile isBlank
  opening : ∀ u, Quoting.beforeOpening? e .plain x = some u → (∃ c ∈ u, ¬isBlank c) ∧
    (Quoting.IsUnquoted e u → ∃ r, t = u.dropWhile isBlank ++ '(' :: r)

namespace Pending

variable {q q' : Quoting} {x t : List Char} {c : Char}

theorem empty : Pending e .plain [] [] := by
  constructor
  · rfl
  · simp
  · simp
  · simp [Quoting.beforeOpening?]

theorem beforeOpening?_snoc (h : Pending e q x t)
    (hc : ∀ q', q.step e c = (q', .structural) → c ≠ '(') :
    Quoting.beforeOpening? e .plain (x ++ [c]) = Quoting.beforeOpening? e .plain x := by
  rw [Quoting.beforeOpening?_append, h.state, Quoting.beforeOpening?_singleton hc, Option.map_none,
    Option.or_none]

/-- Where a group opens, what has come before it stands before the first parenthesis, unless there
was one before. -/
theorem beforeOpening?_group (h : Pending e .plain x t) (ho : '(' ≠ e) (y : List Char) :
    Quoting.beforeOpening? e .plain (x ++ '(' :: y) =
      some ((Quoting.beforeOpening? e .plain x).getD x) := by
  rw [Quoting.beforeOpening?_append, h.state, Quoting.beforeOpening?,
    Quoting.step_plain ho (by decide)]
  cases Quoting.beforeOpening? e .plain x <;> simp

theorem isUnquoted_of_snoc (h : Quoting.IsUnquoted e (x ++ [c])) :
    Quoting.IsUnquoted e x ∧ c ≠ e ∧ ¬isQuote c :=
  ⟨fun d hd => h d (List.mem_append_left _ hd), h c (by simp)⟩

theorem mark (h : Pending e q x t) (hq : q.step e c = (q', .mark)) : Pending e q' (x ++ [c]) t := by
  obtain ⟨-, rfl, rfl⟩ := Quoting.step_mark hq
  have hb : Quoting.beforeOpening? c .plain (x ++ [c]) = Quoting.beforeOpening? c .plain x :=
    h.beforeOpening?_snoc fun r hr => by simp [hq] at hr
  constructor
  · exact Quoting.run_snoc (h.state ▸ hq)
  · intro _ hne
    exact absurd rfl hne
  · intro _ hu
    exact absurd rfl (isUnquoted_of_snoc hu).2.1
  · rw [hb]
    exact h.opening

theorem push {role : Role} (h : Pending e q x t) (hq : q.step e c = (q', role))
    (ho : role = .structural → c ≠ '(' ∧ (t ≠ [] ∨ ¬isBlank c)) :
    Pending e q' (x ++ [c]) (t ++ [c]) := by
  have hb : Quoting.beforeOpening? e .plain (x ++ [c]) = Quoting.beforeOpening? e .plain x := by
    refine h.beforeOpening?_snoc fun r hr => ?_
    rw [hq, Prod.mk.injEq] at hr
    exact (ho hr.2).1
  constructor
  · exact Quoting.run_snoc (h.state ▸ hq)
  · simp
  · intro hn hu
    obtain ⟨hx, he, hquote⟩ := isUnquoted_of_snoc hu
    have ht := h.whole (hb ▸ hn) hx
    -- Outside quotes and escapes only a structural character is neither.
    have hs : role = .structural := by
      rw [← h.state, hx.run_plain, Quoting.step_plain he hquote, Prod.mk.injEq] at hq
      exact hq.2.symm
    rw [ht]
    by_cases hne : x.dropWhile isBlank = []
    · have hc : ¬isBlank c := (ho hs).2.resolve_left fun h => h (ht.trans hne)
      rw [List.dropWhile_append, if_pos (by simp [hne]), hne, List.dropWhile_cons_of_neg hc,
        List.nil_append]
    · rw [List.dropWhile_append, if_neg (by simpa using hne)]
  · rw [hb]
    intro u hu
    obtain ⟨hn, hr⟩ := h.opening u hu
    refine ⟨hn, fun hq => ?_⟩
    obtain ⟨r, rfl⟩ := hr hq
    exact ⟨r ++ [c], by simp⟩

theorem skip (h : Pending e q x []) (hq : q.step e c = (q', .structural)) (hc : isBlank c) :
    Pending e q' (x ++ [c]) [] := by
  obtain ⟨rfl, rfl, -⟩ := Quoting.step_structural hq
  have hx : ∀ d ∈ x ++ [c], isBlank d := by
    simpa [or_imp, forall_and, hc] using h.blank rfl (by simp)
  have hb : Quoting.beforeOpening? e .plain (x ++ [c]) = Quoting.beforeOpening? e .plain x :=
    h.beforeOpening?_snoc fun _ _ => (Chunk.not_marked_of_isBlank hc).2.1
  constructor
  · have hs : (Quoting.run e .plain x).step e c = (.plain, .structural) := by rwa [h.state]
    exact Quoting.run_snoc hs
  · exact fun _ _ => hx
  · exact fun _ _ => (List.dropWhile_eq_nil_iff.2 hx).symm
  · rw [hb]
    exact h.opening

theorem exists_of_ne_nil (he : ¬isBlank e) (h : Pending e q x t) (ht : t ≠ []) :
    ∃ c ∈ x, ¬isBlank c := by
  by_contra hx
  simp only [not_exists, not_and, not_not] at hx
  have hu : Quoting.IsUnquoted e x := fun c hc =>
    ⟨fun hce => he (hce ▸ hx c hc), (Chunk.not_marked_of_isBlank (hx c hc)).1⟩
  have hb : Quoting.beforeOpening? e .plain x = none :=
    Quoting.beforeOpening?_eq_none fun ho => absurd (hx _ ho) (by decide)
  exact ht ((h.whole hb hu).trans (List.dropWhile_eq_nil_iff.2 hx))

theorem group {b : List Char} (he : ¬isBlank e) (h : Pending e .plain x t) (ht : t ≠ [])
    (ho : '(' ≠ e) (hb : Quoting.run e .plain (b ++ [')']) = .plain) :
    Pending e .plain (x ++ '(' :: (b ++ [')'])) (t ++ '(' :: (b ++ [')'])) := by
  have hx := h.beforeOpening?_group ho (b ++ [')'])
  constructor
  · rw [Quoting.run_append, h.state]
    have hstep := Quoting.step_plain ho (show ¬isQuote '(' by decide)
    rw [Quoting.run, List.foldl_cons, hstep]
    exact hb
  · simp
  · simp [hx]
  · intro u hu
    rw [hx] at hu
    cases hbx : Quoting.beforeOpening? e .plain x with
    | none =>
        rw [hbx, Option.getD_none, Option.some.injEq] at hu
        subst hu
        exact ⟨h.exists_of_ne_nil he ht, fun hq => ⟨b ++ [')'], by rw [h.whole hbx hq]⟩⟩
    | some v =>
        rw [hbx, Option.getD_some, Option.some.injEq] at hu
        subst hu
        obtain ⟨hn, hr⟩ := h.opening v hbx
        refine ⟨hn, fun hq => ?_⟩
        obtain ⟨r, rfl⟩ := hr hq
        exact ⟨r ++ '(' :: (b ++ [')']), by simp⟩

end Pending

/-- What stands before the first parenthesis is neither blank nor a quote where it begins, so that
neither blanks nor quotes are taken off it. -/
theorem bare_opening {u : List Char} (hu : ∃ c ∈ u, ¬isBlank c) (hq : Quoting.IsUnquoted e u)
    (r : List Char) :
    bare (u.dropWhile isBlank ++ '(' :: r) = u.dropWhile isBlank ++ '(' :: trimEnd r := by
  obtain ⟨c, w, hw⟩ := List.exists_cons_of_ne_nil (dropWhile_isBlank_ne_nil hu)
  have hb : ¬isBlank c := by
    have hf := List.find?_not_eq_head?_dropWhile isBlank (l := u)
    rw [hw, List.head?_cons] at hf
    simpa using List.find?_some hf
  have hc : ¬isQuote c := (hq c ((List.dropWhile_sublist _).mem (hw ▸ List.mem_cons_self))).2
  rw [hw, bare, trim, List.cons_append, List.dropWhile_cons_of_neg hb, ← List.cons_append,
    trimEnd_opening, List.cons_append, unquote, if_neg]
  simp [hc]

theorem Pending.asWritten {q : Quoting} {x t : List Char} (h : Pending e q x t) :
    AsWritten e (.text x (String.ofList (bare t))) := by
  intro u hu
  obtain ⟨hn, hr⟩ := h.opening u hu
  refine ⟨hn, fun hq => ?_⟩
  obtain ⟨r, rfl⟩ := hr hq
  exact ⟨trimEnd r, by rw [String.toList_ofList, bare_opening hn hq]⟩

theorem asWritten_of_splitFrom {limit room : Nat} {q : Quoting} {source read s : List Char}
    {as : List Sourced} (he : ¬isBlank e) (hp : Pending e q source.reverse read.reverse)
    (h : splitFrom e limit room q source read s = .ok as) : ∀ a, Within a as → AsWritten e a := by
  fun_induction splitFrom e limit room q source read s generalizing as with
  | case1 room q source read =>
      rw [pure_eq, Except.ok.injEq] at h
      subst h
      intro a ha
      split at ha
      · exact absurd ha within_nil
      · rcases within_text_cons ha with rfl | ha
        · exact hp.asWritten
        · exact absurd ha within_nil
  | case2 room q source read c s q' hq ih =>
      refine ih ?_ h
      rw [List.reverse_cons, List.reverse_cons]
      exact hp.push hq (by simp)
  | case3 room q source read c s q' hq ih =>
      refine ih ?_ h
      rw [List.reverse_cons]
      exact hp.mark hq
  | case4 | case5 | case6 => simp at h
  | case7 q source read s q' g hs hr room hq ihi ihr =>
      obtain ⟨rfl, rfl, ho⟩ := Quoting.step_structural hq
      obtain rfl := List.isEmpty_iff.1 hr
      obtain ⟨items, hi, h⟩ := bind_eq_ok.1 h
      obtain ⟨rest, hrest, h⟩ := bind_eq_ok.1 h
      rw [pure_eq, Except.ok.injEq] at h
      subst h
      intro a ha
      rcases within_cons ha with rfl | ⟨x, items', hx, hin⟩ | ha
      · have hblank := hp.blank rfl (by simp)
        refine ⟨source.reverse, ?_, hblank⟩
        have hnone : Quoting.beforeOpening? e .plain source.reverse = none :=
          Quoting.beforeOpening?_eq_none fun hm => absurd (hblank _ hm) (by decide)
        have hx := hp.beforeOpening?_group ho (g.raw ++ [')'])
        simpa [hnone] using hx
      · obtain ⟨-, rfl⟩ := Sourced.list.inj hx
        exact ihi .empty hi a hin
      · exact ihr .empty hrest a ha
  | case8 room q source read s q' g hs hr hq ih =>
      obtain ⟨rfl, rfl, ho⟩ := Quoting.step_structural hq
      refine ih ?_ h
      have hg := hp.group he (by simpa using hr) ho (Quoting.run_group hs)
      simpa using hg
  | case9 room q source read s q' hq hne ih =>
      obtain ⟨rfl, rfl, -⟩ := Quoting.step_structural hq
      obtain ⟨rest, hrest, h⟩ := bind_eq_ok.1 h
      rw [pure_eq, Except.ok.injEq] at h
      subst h
      intro a ha
      rcases within_text_cons ha with rfl | ha
      · exact hp.asWritten
      · exact ih .empty hrest a ha
  | case10 room q source read c s q' hq ho hc hb ih =>
      simp only [Bool.and_eq_true, List.isEmpty_iff] at hb
      obtain ⟨rfl, hb⟩ := hb
      refine ih ?_ h
      rw [List.reverse_cons]
      exact hp.skip hq hb
  | case11 room q source read c s q' hq ho hc hb ih =>
      refine ih ?_ h
      rw [List.reverse_cons, List.reverse_cons]
      refine hp.push hq fun _ => ⟨ho, ?_⟩
      by_cases hr : read = []
      · exact .inr fun hc => hb (by simp [hr, hc])
      · exact .inl (by simpa using hr)

end Sourced
end ResourceQuery
