import ResourceQuery.Proofs.Splitting
import ResourceQuery.Proofs.Tidying

namespace ResourceQuery

open Outcome Text

variable {e c : Char} {q q' : Quoting} {s : List Char} {g : Group}

namespace Group

theorem scan_add_succ {n m : Nat} (h : scan e q (n + m + 1) s = some g) :
    ∃ g₁ g₂, scan e q m s = some g₁ ∧ scan e .plain n g₁.rest = some g₂ ∧
      g = pass (g₁.raw ++ [')']) (g₁.content ++ [')']) g₂ := by
  induction s generalizing q m g with
  | nil => simp [scan] at h
  | cons c s ih =>
      rcases hq : q.step e c with ⟨q', role⟩
      cases role with
      | literal =>
          rw [scan_literal hq] at h
          obtain ⟨g, hg, rfl⟩ := Option.map_eq_some_iff.1 h
          obtain ⟨g₁, g₂, h₁, h₂, rfl⟩ := ih hg
          exact ⟨keep c g₁, g₂, by rw [scan_literal hq, h₁]; rfl, h₂, rfl⟩
      | mark =>
          rw [scan_mark hq] at h
          obtain ⟨g, hg, rfl⟩ := Option.map_eq_some_iff.1 h
          obtain ⟨g₁, g₂, h₁, h₂, rfl⟩ := ih hg
          exact ⟨hide c g₁, g₂, by rw [scan_mark hq, h₁]; rfl, h₂, rfl⟩
      | structural =>
          by_cases hc : c = ')'
          · obtain ⟨rfl, rfl, he⟩ := Quoting.step_structural hq
            subst hc
            rw [scan_close_succ he] at h
            obtain ⟨g, hg, rfl⟩ := Option.map_eq_some_iff.1 h
            cases m with
            | zero => exact ⟨⟨[], [], s⟩, g, scan_close he s, hg, rfl⟩
            | succ m =>
                obtain ⟨g₁, g₂, h₁, h₂, rfl⟩ := ih hg
                exact ⟨keep ')' g₁, g₂, by rw [scan_close_succ he, h₁]; rfl, h₂, rfl⟩
          · have hm : (if c = '(' then n + m + 1 + 1 else n + m + 1) =
                n + (if c = '(' then m + 1 else m) + 1 := by
              split <;> omega
            rw [scan_structural hq hc, hm] at h
            obtain ⟨g, hg, rfl⟩ := Option.map_eq_some_iff.1 h
            obtain ⟨g₁, g₂, h₁, h₂, rfl⟩ := ih hg
            exact ⟨keep c g₁, g₂, by rw [scan_structural hq hc, h₁]; rfl, h₂, rfl⟩

/-- A text that, read from the state `q` on, ends where a group is closed after it. -/
def Ends (e : Char) (q : Quoting) (s : List Char) : Prop :=
  ∃ y, scan e q 0 (s ++ [')']) = some ⟨s, y, []⟩

theorem ends_of_scan (h : scan e .plain 0 s = some g) : Ends e .plain g.raw :=
  ⟨_, (passes_of_scan h).scan (closing_ne_of_scan h) []⟩

theorem exists_of_map {f : Group → Group} (hf : f = keep c ∨ f = hide c) {o : Option Group}
    {y r : List Char} (h : o.map f = some ⟨c :: s, y, r⟩) : ∃ z, o = some ⟨s, z, r⟩ := by
  obtain ⟨g, rfl, hg⟩ := Option.map_eq_some_iff.1 h
  rcases hf with rfl | rfl <;>
    · simp only [keep, hide, Group.mk.injEq, List.cons.injEq, true_and] at hg
      obtain ⟨rfl, -, rfl⟩ := hg
      exact ⟨_, rfl⟩

namespace Ends

theorem literal (hq : q.step e c = (q', .literal)) (h : Ends e q (c :: s)) : Ends e q' s := by
  obtain ⟨y, h⟩ := h
  rw [List.cons_append, scan_literal hq] at h
  exact exists_of_map (.inl rfl) h

theorem mark (hq : q.step e c = (q', .mark)) (h : Ends e q (c :: s)) : Ends e q' s := by
  obtain ⟨y, h⟩ := h
  rw [List.cons_append, scan_mark hq] at h
  exact exists_of_map (.inr rfl) h

theorem structural (hq : q.step e c = (q', .structural)) (ho : c ≠ '(') (h : Ends e q (c :: s)) :
    Ends e q' s := by
  obtain ⟨y, h⟩ := h
  have hc : c ≠ ')' := by
    rintro rfl
    obtain ⟨rfl, -, he⟩ := Quoting.step_structural hq
    simp [scan_close he] at h
  rw [List.cons_append, scan_structural hq hc, if_neg ho] at h
  exact exists_of_map (.inl rfl) h

theorem opening (ho : '(' ≠ e) (h : Ends e .plain ('(' :: s)) :
    ∃ g, scan e .plain 0 s = some g ∧ Ends e .plain g.rest := by
  obtain ⟨y, h⟩ := h
  rw [List.cons_append, scan_open ho] at h
  obtain ⟨z, h⟩ := exists_of_map (.inl rfl) h
  obtain ⟨g₁, g₂, h₁, h₂, hg⟩ := @scan_add_succ e .plain _ _ 0 0 h
  simp only [pass, Group.mk.injEq, List.append_assoc, List.singleton_append] at hg
  obtain ⟨hraw, -, hrest⟩ := hg
  have hs : g₁.rest = g₂.raw ++ [')'] := by rw [scan_eq_some_append h₂, ← hrest]
  refine ⟨⟨g₁.raw, g₁.content, g₂.raw⟩, ?_, g₂.content, ?_⟩
  · rw [hraw, (passes_of_scan h₁).scan (closing_ne_of_scan h₁)]
  · rw [← hs, h₂, hrest]

theorem dropWhile_isBlank (hb : ¬isBlank e) (h : Ends e .plain s) :
    Ends e .plain (s.dropWhile isBlank) := by
  induction s with
  | nil => exact h
  | cons c s ih =>
      by_cases hc : isBlank c
      · have hne : c ≠ e := fun he => hb (he ▸ hc)
        obtain ⟨hq, ho, -, -⟩ := Chunk.not_marked_of_isBlank hc
        rw [List.dropWhile_cons_of_pos hc]
        exact ih (h.structural (Quoting.step_plain hne hq) ho)
      · rwa [List.dropWhile_cons_of_neg hc]

theorem skipSeparator (hb : ¬isBlank e) (hc : e ≠ ',') (h : Ends e .plain s) :
    Ends e .plain (Chunk.skipSeparator s) := by
  have hd := h.dropWhile_isBlank hb
  unfold Chunk.skipSeparator
  simp only
  split
  · rename_i r hr
    rw [hr] at hd
    exact (hd.structural (Quoting.step_plain hc.symm (by decide)) (by decide)).dropWhile_isBlank hb
  · exact hd

end Ends

end Group

namespace Chunk

/-- Chunks, or the fault of lists that are too deep, where there are more than `room` groups. -/
def Splits (limit room groups : Nat) (r : Except SyntaxFault (List Chunk)) : Prop :=
  (∃ chunks, r = .ok chunks) ∨ room < groups ∧ r = .error (.tooDeep limit)

namespace Splits

variable {limit room m n : Nat} {r : Except SyntaxFault (List Chunk)}

theorem mono (h : Splits limit room m r) (hn : m ≤ n) : Splits limit room n r :=
  h.imp_right fun ⟨hr, he⟩ => ⟨Nat.lt_of_lt_of_le hr hn, he⟩

theorem cons (h : Splits limit room m r) (hn : m ≤ n) (f : List Chunk → List Chunk) :
    Splits limit room n (r >>= fun chunks => .ok (f chunks)) := by
  obtain ⟨chunks, rfl⟩ | ⟨hr, rfl⟩ := h
  · exact .inl ⟨f chunks, rfl⟩
  · exact .inr ⟨Nat.lt_of_lt_of_le hr hn, rfl⟩

theorem list {items : Except SyntaxFault (List Chunk)} (hi : Splits limit room m items)
    (hr : Splits limit (room + 1) n r) :
    Splits limit (room + 1) (m + n + 1) (do
      let items ← items
      let rest ← r
      return Chunk.list items :: rest) := by
  obtain ⟨chunks, rfl⟩ | ⟨hm, rfl⟩ := hi
  · exact hr.cons (by omega) (Chunk.list chunks :: ·)
  · exact .inr ⟨by omega, rfl⟩

end Splits

theorem splits_splitFrom (hb : ¬isBlank e) (hc : e ≠ ',') {limit room : Nat} {read : List Char}
    (h : Group.Ends e q s) :
    Splits limit room (s.count '(') (splitFrom e limit room q read s) := by
  fun_induction splitFrom e limit room q read s with
  | case1 => exact .inl ⟨_, rfl⟩
  | case2 room q read c s q' hq ih => exact (ih (h.literal hq)).mono List.count_le_count_cons
  | case3 room q read c s q' hq ih => exact (ih (h.mark hq)).mono List.count_le_count_cons
  | case4 room q read s q' hs hr hq | case5 room q read s q' hs hr hq =>
      obtain ⟨rfl, -, ho⟩ := Quoting.step_structural hq
      obtain ⟨g, hg, -⟩ := h.opening ho
      simp [hs] at hg
  | case6 q read s q' g hs hr hq => exact .inr ⟨List.count_pos_iff.2 List.mem_cons_self, rfl⟩
  | case7 q read s q' g hs hr room hq ihItems ihRest =>
      obtain ⟨rfl, -, ho⟩ := Quoting.step_structural hq
      obtain ⟨g', hg, hrest⟩ := h.opening ho
      obtain rfl := Option.some.inj (hs.symm.trans hg)
      have hcount : g.raw.count '(' + (skipSeparator g.rest).count '(' + 1 ≤
          ('(' :: s).count '(' := by
        have := (skipSeparator_isSuffix g.rest).sublist.count_le '('
        rw [Group.scan_eq_some_append hs, List.count_cons_self, List.count_append,
          List.count_cons_of_ne (by decide)]
        omega
      exact ((ihItems (Group.ends_of_scan hs)).list (ihRest (hrest.skipSeparator hb hc))).mono hcount
  | case8 room q read s q' g hs hr hq ih =>
      obtain ⟨rfl, rfl, ho⟩ := Quoting.step_structural hq
      obtain ⟨g', hg, hrest⟩ := h.opening ho
      obtain rfl := Option.some.inj (hs.symm.trans hg)
      have hcount : g.rest.count '(' ≤ ('(' :: s).count '(' := by
        rw [Group.scan_eq_some_append hs, List.count_cons_self, List.count_append,
          List.count_cons_of_ne (by decide)]
        omega
      exact (ih hrest).mono hcount
  | case9 room q read s q' hq ho ih =>
      exact (ih (h.structural hq (by decide))).cons List.count_le_count_cons _
  | case10 room q read c s q' hq ho hm hr ih =>
      exact (ih (h.structural hq ho)).mono List.count_le_count_cons
  | case11 room q read c s q' hq ho hm hr ih =>
      exact (ih (h.structural hq ho)).mono List.count_le_count_cons

/-- Where a group has been scanned, its body is split into chunks unless its lists are too deep: no
parenthesis in it is found open, neither by itself nor where a call is read. -/
theorem splits_body (hb : ¬isBlank e) (hc : e ≠ ',') :
    (∀ (input : List Char) (start : Nat) (g : Group), input[start]? = some '(' →
      Group.ofText e (input.drop start) = .ok g →
        input.drop start = '(' :: g.raw ++ ')' :: g.rest ∧
        ∀ limit room, Splits limit room (g.raw.count '(') (splitFrom e limit room .plain [] g.raw)) ∧
    ∀ (text b : List Char), .group b ∈ Piece.ofText e text →
      ∀ limit, Splits limit limit (b.count '(') (ofBody e limit b) := by
  refine ⟨fun input start g hstart h => ?_, fun text b h limit => ?_⟩
  · obtain ⟨hlt, hopen⟩ := List.getElem?_eq_some_iff.1 hstart
    rw [List.drop_eq_getElem_cons hlt, hopen] at h ⊢
    unfold Group.ofText at h
    split at h
    · rename_i g' hs
      obtain rfl := Except.ok.inj h
      exact ⟨congrArg _ (Group.scan_eq_some_append hs), fun limit room =>
        splits_splitFrom hb hc (Group.ends_of_scan hs)⟩
    · simp at h
  · obtain ⟨⟨y, hy⟩, hclose⟩ := Piece.isBody_of_mem_ofText h
    exact splits_splitFrom hb hc ⟨y, hy.scan hclose []⟩

theorem splits_body_quoted :
    let g : Group := ⟨"a,('b)',c) d".toList, "a,('b)',c) d".toList, "&g()".toList⟩
    Group.ofText '\\' ("f(a,('b)',c) d)&g()".toList.drop 1) = .ok g ∧
      Splits 1 0 1 (splitFrom '\\' 1 0 .plain [] g.raw) ∧ Splits 1 1 1 (ofBody '\\' 1 g.raw) := by
  intro g
  have hg : Group.ofText '\\' ("f(a,('b)',c) d)&g()".toList.drop 1) = .ok g := by rfl
  have hp : .group g.raw ∈ Piece.ofText '\\' "f(a,('b)',c) d)&g()".toList := by
    have ht : Piece.ofText '\\' "f(a,('b)',c) d)&g()".toList =
        [.char 'f', .group g.raw, .joiner .and, .char 'g', .group []] := by cbv
    rw [ht]
    simp
  have h := splits_body (e := '\\') (by decide) (by decide)
  exact ⟨hg, (h.1 _ 1 g rfl hg).2 1 0, h.2 _ _ hp 1⟩

end Chunk

end ResourceQuery
