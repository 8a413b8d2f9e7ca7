import ResourceQuery.Group

namespace ResourceQuery

open Text

namespace Quoting

variable {e c q : Char}

theorem step_plain (he : c ≠ e) (hq : ¬isQuote c) : step e .plain c = (.plain, .structural) := by
  simp [step, he, hq]

theorem step_open (he : c ≠ e) (hq : isQuote c) : step e .plain c = (.quoted c, .literal) := by
  simp [step, he, hq]

theorem step_close : step e (.quoted q) q = (.plain, .literal) := by
  simp [step]

theorem step_quoted (h : c ≠ q) : step e (.quoted q) c = (.quoted q, .literal) := by
  simp [step, h]

theorem step_mark {s s' : Quoting} (h : s.step e c = (s', .mark)) :
    s = .plain ∧ c = e ∧ s' = .escaped := by
  cases s with
  | plain =>
      simp only [step] at h
      split at h
      · rename_i he
        exact ⟨rfl, he, (Prod.mk.inj h).1.symm⟩
      · split at h <;> simp at h
  | escaped => simp [step] at h
  | quoted d =>
      simp only [step] at h
      split at h <;> simp at h

end Quoting

namespace Group

variable {e : Char}

def push (x : List Char) (g : Group) : Group := ⟨x ++ g.raw, x ++ g.content, g.rest⟩

theorem push_cons (c : Char) (x : List Char) : push (c :: x) = keep c ∘ push x := rfl

def pass (x y : List Char) (g : Group) : Group := ⟨x ++ g.raw, y ++ g.content, g.rest⟩

theorem pass_append (x y u v : List Char) : pass (x ++ u) (y ++ v) = pass x y ∘ pass u v := by
  funext g
  simp [pass]

/-- A text that a scan gets past without a change of its state, however deep in groups it is, and
what it adds to the content. -/
def Passes (e : Char) (x y : List Char) : Prop :=
  ∀ n s, scan e .plain n (x ++ s) = (scan e .plain n s).map (pass x y)

theorem passes_nil : Passes e [] [] := by
  intro n s
  exact (congrFun Option.map_id _).symm

theorem Passes.append {x y u v : List Char} (hx : Passes e x y) (hu : Passes e u v) :
    Passes e (x ++ u) (y ++ v) := by
  intro n s
  rw [List.append_assoc, hx, hu, Option.map_map, pass_append]

def Balanced (e : Char) (x : List Char) : Prop :=
  ∀ n s, scan e .plain n (x ++ s) = (scan e .plain n s).map (push x)

theorem Balanced.passes {x : List Char} (h : Balanced e x) : Passes e x x := h

theorem balanced_nil : Balanced e [] := passes_nil

theorem Balanced.append {x y : List Char} (hx : Balanced e x) (hy : Balanced e y) :
    Balanced e (x ++ y) := hx.passes.append hy.passes

theorem scan_plain {c : Char} (he : c ≠ e) (hq : ¬isQuote c) (ho : c ≠ '(') (hc : c ≠ ')')
    (n : Nat) (s : List Char) : scan e .plain n (c :: s) = (scan e .plain n s).map (keep c) := by
  rw [scan, Quoting.step_plain he hq]
  simp only [if_neg ho, if_neg hc]

theorem balanced_of_plain {x : List Char}
    (h : ∀ c ∈ x, c ≠ e ∧ ¬isQuote c ∧ c ≠ '(' ∧ c ≠ ')') : Balanced e x := by
  induction x with
  | nil => exact balanced_nil
  | cons c x ih =>
      intro n s
      simp only [List.mem_cons, forall_eq_or_imp] at h
      obtain ⟨⟨he, hq, ho, hc⟩, hx⟩ := h
      rw [List.cons_append, scan_plain he hq ho hc, ih hx, Option.map_map, push_cons]

theorem scan_quoted {q : Char} {x : List Char} (hx : q ∉ x) (n : Nat) (s : List Char) :
    scan e (.quoted q) n (x ++ q :: s) = (scan e .plain n s).map (push (x ++ [q])) := by
  induction x with
  | nil =>
      rw [List.nil_append, scan, Quoting.step_close]
      rfl
  | cons c x ih =>
      simp only [List.mem_cons, not_or] at hx
      rw [List.cons_append, scan, Quoting.step_quoted (Ne.symm hx.1)]
      simp only
      rw [ih hx.2, Option.map_map, List.cons_append, push_cons]

theorem balanced_quoted {q : Char} {x : List Char} (he : q ≠ e) (hq : isQuote q) (hx : q ∉ x) :
    Balanced e (q :: x ++ [q]) := by
  intro n s
  rw [List.cons_append, List.cons_append, List.append_assoc, List.singleton_append, scan,
    Quoting.step_open he hq]
  simp only
  rw [scan_quoted hx, Option.map_map, push_cons]

theorem scan_open (he : '(' ≠ e) (n : Nat) (s : List Char) :
    scan e .plain n ('(' :: s) = (scan e .plain (n + 1) s).map (keep '(') := by
  rw [scan, Quoting.step_plain he (by decide)]
  rfl

theorem scan_close_succ (he : ')' ≠ e) (n : Nat) (s : List Char) :
    scan e .plain (n + 1) (')' :: s) = (scan e .plain n s).map (keep ')') := by
  rw [scan, Quoting.step_plain he (by decide)]
  rfl

theorem scan_close (he : ')' ≠ e) (s : List Char) :
    scan e .plain 0 (')' :: s) = some ⟨[], [], s⟩ := by
  rw [scan, Quoting.step_plain he (by decide)]
  rfl

theorem Passes.group {x y : List Char} (ho : '(' ≠ e) (hc : ')' ≠ e) (hx : Passes e x y) :
    Passes e ('(' :: x ++ [')']) ('(' :: y ++ [')']) := by
  intro n s
  rw [List.cons_append, List.cons_append, List.append_assoc, List.singleton_append, scan_open ho,
    hx, scan_close_succ hc, Option.map_map, Option.map_map, List.cons_append]
  congr 1
  funext g
  simp [pass, keep]

theorem Passes.scan {x y : List Char} (hx : Passes e x y) (hc : ')' ≠ e) (s : List Char) :
    scan e .plain 0 (x ++ ')' :: s) = some ⟨x, y, s⟩ := by
  rw [hx, scan_close hc]
  simp [pass]

theorem Balanced.group {x : List Char} (ho : '(' ≠ e) (hc : ')' ≠ e) (hx : Balanced e x) :
    Balanced e ('(' :: x ++ [')']) := hx.passes.group ho hc

theorem Balanced.scan {x : List Char} (hx : Balanced e x) (hc : ')' ≠ e) (s : List Char) :
    scan e .plain 0 (x ++ ')' :: s) = some ⟨x, x, s⟩ := hx.passes.scan hc s

section

variable {q q' : Quoting} {c : Char} {n : Nat} {s : List Char} {g : Group}

theorem scan_literal (h : q.step e c = (q', .literal)) :
    Group.scan e q n (c :: s) = (Group.scan e q' n s).map (keep c) := by
  rw [Group.scan, h]

theorem scan_mark (h : q.step e c = (q', .mark)) :
    Group.scan e q n (c :: s) = (Group.scan e q' n s).map (hide c) := by
  rw [Group.scan, h]

theorem scan_structural (h : q.step e c = (q', .structural)) (hc : c ≠ ')') :
    Group.scan e q n (c :: s) =
      (Group.scan e q' (if c = '(' then n + 1 else n) s).map (keep c) := by
  rw [Group.scan, h]
  simp only [if_neg hc]
  split <;> rfl

theorem closing_ne_of_scan (h : Group.scan e q n s = some g) : ')' ≠ e := by
  induction s generalizing q n g with
  | nil => simp [Group.scan] at h
  | cons c s ih =>
      rcases hq : q.step e c with ⟨q', role⟩
      cases role with
      | literal =>
          rw [scan_literal hq] at h
          obtain ⟨g', hg, -⟩ := Option.map_eq_some_iff.1 h
          exact ih hg
      | mark =>
          rw [scan_mark hq] at h
          obtain ⟨g', hg, -⟩ := Option.map_eq_some_iff.1 h
          exact ih hg
      | structural =>
          by_cases hc : c = ')'
          · exact hc ▸ (Quoting.step_structural hq).2.2
          · rw [scan_structural hq hc] at h
            obtain ⟨g', hg, -⟩ := Option.map_eq_some_iff.1 h
            exact ih hg

/-- What a scan gets past up to the end of a group, it gets past in a group further out as well. -/
theorem scan_raw_append (h : Group.scan e q n s = some g) (m : Nat) (y : List Char) :
    Group.scan e q (n + m) (g.raw ++ y) = (Group.scan e .plain m y).map (pass g.raw g.content) := by
  induction s generalizing q n g with
  | nil => simp [Group.scan] at h
  | cons c s ih =>
      rcases hq : q.step e c with ⟨q', role⟩
      cases role with
      | literal =>
          rw [scan_literal hq] at h
          obtain ⟨g, hg, rfl⟩ := Option.map_eq_some_iff.1 h
          rw [keep, List.cons_append, scan_literal hq, ih hg, Option.map_map]
          rfl
      | mark =>
          rw [scan_mark hq] at h
          obtain ⟨g, hg, rfl⟩ := Option.map_eq_some_iff.1 h
          rw [hide, List.cons_append, scan_mark hq, ih hg, Option.map_map]
          rfl
      | structural =>
          by_cases hc : c = ')'
          · obtain ⟨rfl, rfl, he⟩ := Quoting.step_structural hq
            subst hc
            cases n with
            | zero =>
                rw [scan_close he, Option.some.injEq] at h
                rw [← h, Nat.zero_add]
                exact passes_nil m y
            | succ n =>
                rw [scan_close_succ he] at h
                obtain ⟨g, hg, rfl⟩ := Option.map_eq_some_iff.1 h
                rw [keep, List.cons_append, Nat.add_right_comm, scan_close_succ he, ih hg,
                  Option.map_map]
                rfl
          · rw [scan_structural hq hc] at h
            obtain ⟨g, hg, rfl⟩ := Option.map_eq_some_iff.1 h
            have hn : (if c = '(' then n + m + 1 else n + m) =
                (if c = '(' then n + 1 else n) + m := by
              split <;> omega
            rw [keep, List.cons_append, scan_structural hq hc, hn, ih hg, Option.map_map]
            rfl

/-- The body of a group is got past wherever it stands. -/
theorem passes_of_scan (h : Group.scan e .plain 0 s = some g) : Passes e g.raw g.content := by
  intro m y
  rw [← scan_raw_append h m y, Nat.zero_add]

theorem scan_append (h : Group.scan e q n s = some g) (y : List Char) :
    Group.scan e q n (s ++ y) = some ⟨g.raw, g.content, g.rest ++ y⟩ := by
  have hs : s ++ y = g.raw ++ ')' :: (g.rest ++ y) := by
    rw [scan_eq_some_append h, List.append_assoc, List.cons_append]
  have hr := scan_raw_append h 0 (')' :: (g.rest ++ y))
  rw [Nat.add_zero] at hr
  rw [hs, hr, scan_close (closing_ne_of_scan h)]
  simp [pass]

end

end Group

end ResourceQuery
