import ResourceQuery.Proofs.Splitting

namespace ResourceQuery

open Text

namespace Text

theorem trimEnd_sublist (s : List Char) : (trimEnd s).Sublist s := by
  simpa [trimEnd] using (List.dropWhile_sublist (l := s.reverse) isBlank).reverse

theorem unquote_sublist (s : List Char) : (unquote s).Sublist s := by
  unfold unquote
  split
  · split
    · exact (List.dropLast_sublist _).trans (List.sublist_cons_self _ _)
    · exact List.Sublist.refl _
  · exact List.Sublist.refl _

theorem dropWhile_eq_self_of_bare {s : List Char} (h : bare s = s) : s.dropWhile isBlank = s := by
  have hd := List.dropWhile_sublist isBlank (l := s)
  have ht := trimEnd_sublist (s.dropWhile isBlank)
  have hu := unquote_sublist (trim s)
  rw [show unquote (trim s) = s from h] at hu
  exact hd.eq_of_length_le (hu.trans ht).length_le

theorem not_isBlank_of_bare {c : Char} {s : List Char} (h : bare (c :: s) = c :: s) :
    ¬isBlank c := by
  intro hc
  have hd := congrArg List.length (dropWhile_eq_self_of_bare h)
  have hl := (List.dropWhile_sublist isBlank (l := s)).length_le
  rw [List.dropWhile_cons_of_pos hc, List.length_cons] at hd
  omega

theorem bare_append_blanks {s after : List Char} (hs : s ≠ []) (h : bare s = s)
    (ha : ∀ c ∈ after, isBlank c) : bare (s ++ after) = s := by
  have hd := dropWhile_eq_self_of_bare h
  have hne : (s.dropWhile isBlank).isEmpty = false := by simpa [hd] using hs
  have ht : trim (s ++ after) = trim s := by
    rw [trim, trim, List.dropWhile_append, hne, hd]
    simp only [Bool.false_eq_true, if_false]
    rw [trimEnd, trimEnd, List.reverse_append,
      List.dropWhile_append_of_pos fun c hc => ha c (List.mem_reverse.1 hc)]
  rw [bare, ht]
  exact h

def escape (e : Char) (isMarked : Char → Bool) (s : List Char) : List Char :=
  s.flatMap fun c => if isMarked c || c == e then [e, c] else [c]

variable {e : Char} {isMarked : Char → Bool} {c : Char}

theorem escape_cons_marked (h : isMarked c ∨ c = e) (s : List Char) :
    escape e isMarked (c :: s) = [e, c] ++ escape e isMarked s := by
  simp [escape, h]

theorem escape_cons_plain (h : ¬(isMarked c ∨ c = e)) (s : List Char) :
    escape e isMarked (c :: s) = [c] ++ escape e isMarked s := by
  simp [escape, h]

end Text

namespace Group

variable {e : Char}

theorem passes_escaped (c : Char) : Passes e [e, c] [c] := by
  intro n s
  have he : Quoting.step e .plain e = (.escaped, .mark) := by simp [Quoting.step]
  have hc : Quoting.step e .escaped c = (.plain, .literal) := rfl
  rw [List.cons_append, scan_mark he, List.cons_append, scan_literal hc, Option.map_map]
  rfl

theorem passes_escape {isMarked : Char → Bool}
    (h : ∀ c, isQuote c ∨ c = '(' ∨ c = ')' → isMarked c) (s : List Char) :
    Passes e (escape e isMarked s) s := by
  induction s with
  | nil => exact passes_nil
  | cons c s ih =>
      by_cases hc : isMarked c ∨ c = e
      · rw [escape_cons_marked hc]
        exact (passes_escaped c).append ih
      · rw [escape_cons_plain hc]
        rw [not_or] at hc
        have hp : Balanced e [c] := balanced_of_plain fun d hd => by
          obtain rfl := List.mem_singleton.1 hd
          exact ⟨hc.2, fun hq => hc.1 (h d (.inl hq)), fun ho => hc.1 (h d (.inr (.inl ho))),
            fun hp => hc.1 (h d (.inr (.inr hp)))⟩
        exact hp.passes.append ih

end Group

namespace Chunk

variable {e : Char} {limit room : Nat}

theorem splitFrom_escaped (c : Char) (read s : List Char) :
    splitFrom e limit room .plain read ([e, c] ++ s) =
      splitFrom e limit room .plain (c :: read) s := by
  have he : Quoting.step e .plain e = (.escaped, .mark) := by simp [Quoting.step]
  have hc : Quoting.step e .escaped c = (.plain, .literal) := rfl
  rw [List.cons_append, splitFrom, he]
  simp only
  rw [List.cons_append, splitFrom, hc]
  rfl

theorem splitFrom_escape {isMarked : Char → Bool}
    (h : ∀ c, isQuote c ∨ c = '(' ∨ c = ',' → isMarked c) {read s : List Char}
    (hr : read ≠ [] ∨ ∀ c ∈ s.head?, ¬isBlank c) (rest : List Char) :
    splitFrom e limit room .plain read (escape e isMarked s ++ rest) =
      splitFrom e limit room .plain (s.reverse ++ read) rest := by
  induction s generalizing read with
  | nil => rfl
  | cons c s ih =>
      have hs := @ih (c :: read) (.inl (by simp))
      rw [List.reverse_cons, List.append_assoc, List.singleton_append, ← hs]
      by_cases hc : isMarked c ∨ c = e
      · rw [escape_cons_marked hc, List.append_assoc, splitFrom_escaped]
      · rw [escape_cons_plain hc, List.append_assoc, List.singleton_append]
        rw [not_or] at hc
        exact splitFrom_plain hc.2 (fun hq => hc.1 (h c (.inl hq)))
          (fun ho => hc.1 (h c (.inr (.inl ho)))) (fun hp => hc.1 (h c (.inr (.inr hp))))
          (hr.imp_right fun hb => hb c rfl)

/-- What can serve as escape character without being in the way of the marks that stand between
chunks. -/
structure IsEscape (e : Char) : Prop where
  blank : ¬isBlank e
  opening : e ≠ '('
  closing : e ≠ ')'
  comma : e ≠ ','

theorem IsEscape.ne_blank (he : IsEscape e) {c : Char} (h : isBlank c) : c ≠ e := by
  rintro rfl
  exact he.blank h

theorem splitFrom_blanks (he : IsEscape e) {before : List Char} (hb : ∀ c ∈ before, isBlank c)
    (s : List Char) :
    splitFrom e limit room .plain [] (before ++ s) = splitFrom e limit room .plain [] s := by
  rw [← splitFrom_dropWhile fun _ => he.ne_blank, List.dropWhile_append_of_pos hb,
    splitFrom_dropWhile fun _ => he.ne_blank]

def isMarked (c : Char) : Bool := isQuote c || c == '(' || c == ')' || c == ','

mutual

/-- A chunk is written as its text with all marks escaped, or as the row of its items in
parentheses. -/
inductive Written (e : Char) : Chunk → List Char → Prop
  | text (s : String) : Written e (.text s) (escape e isMarked s.toList)
  | list {items : List Chunk} {x : List Char} (h : AllWritten e items x) :
      Written e (.list items) ('(' :: x ++ [')'])

/-- A row of chunks is written with commas between them, and with any blanks around each. -/
inductive AllWritten (e : Char) : List Chunk → List Char → Prop
  | nil : AllWritten e [] []
  | last {c : Chunk} {before x after : List Char} (hb : ∀ d ∈ before, isBlank d)
      (ha : ∀ d ∈ after, isBlank d) (h : Written e c x) :
      AllWritten e [c] (before ++ x ++ after)
  | cons {c d : Chunk} {cs : List Chunk} {before x after y : List Char}
      (hb : ∀ d ∈ before, isBlank d) (ha : ∀ d ∈ after, isBlank d) (h : Written e c x)
      (hs : AllWritten e (d :: cs) y) :
      AllWritten e (c :: d :: cs) (before ++ x ++ after ++ ',' :: y)

end

mutual

theorem exists_written (c : Chunk) : ∃ x, Written e c x := by
  match c with
  | .text s => exact ⟨_, .text s⟩
  | .list items =>
      obtain ⟨x, hx⟩ := exists_allWritten items
      exact ⟨_, .list hx⟩

theorem exists_allWritten (cs : List Chunk) : ∃ x, AllWritten e cs x := by
  have hnone : ∀ d ∈ ([] : List Char), isBlank d := by simp
  match cs with
  | [] => exact ⟨_, .nil⟩
  | [c] =>
      obtain ⟨x, hx⟩ := exists_written c
      exact ⟨_, .last hnone hnone hx⟩
  | c :: d :: cs =>
      obtain ⟨x, hx⟩ := exists_written c
      obtain ⟨y, hy⟩ := exists_allWritten (d :: cs)
      exact ⟨_, .cons hnone hnone hx hy⟩

end

mutual

/-- No text of a chunk is empty, and none has blanks or a pair of quotes around it. -/
def IsBare : Chunk → Prop
  | text s => s ≠ "" ∧ bare s.toList = s.toList
  | list items => AllBare items

def AllBare : List Chunk → Prop
  | [] => True
  | c :: cs => IsBare c ∧ AllBare cs

end

theorem passes_blanks (he : IsEscape e) {s : List Char} (h : ∀ c ∈ s, isBlank c) :
    Group.Passes e s s :=
  (Group.balanced_of_plain fun c hc =>
    have hm := not_marked_of_isBlank (h c hc)
    ⟨he.ne_blank (h c hc), hm.1, hm.2.1, hm.2.2.1⟩).passes

mutual

theorem Written.passes (he : IsEscape e) {c : Chunk} {x : List Char} (h : Written e c x) :
    ∃ y, Group.Passes e x y := by
  match h with
  | .text s =>
      refine ⟨_, Group.passes_escape (fun c hc => ?_) s.toList⟩
      rcases hc with hq | rfl | rfl
      · simp [isMarked, hq]
      · rfl
      · rfl
  | .list h =>
      obtain ⟨y, hy⟩ := h.passes he
      exact ⟨_, hy.group he.opening.symm he.closing.symm⟩

theorem AllWritten.passes (he : IsEscape e) {cs : List Chunk} {x : List Char}
    (h : AllWritten e cs x) : ∃ y, Group.Passes e x y := by
  match h with
  | .nil => exact ⟨[], Group.passes_nil⟩
  | .last hb ha h =>
      obtain ⟨y, hy⟩ := h.passes he
      exact ⟨_, ((passes_blanks he hb).append hy).append (passes_blanks he ha)⟩
  | .cons hb ha h hs =>
      obtain ⟨y, hy⟩ := h.passes he
      obtain ⟨z, hz⟩ := hs.passes he
      have hc : Group.Balanced e [','] := Group.balanced_of_plain fun d hd => by
        obtain rfl := List.mem_singleton.1 hd
        exact ⟨he.comma.symm, by decide, by decide, by decide⟩
      exact ⟨_, (((passes_blanks he hb).append hy).append (passes_blanks he ha)).append
        (hc.passes.append hz)⟩

end

mutual

theorem splitFrom_written (he : IsEscape e) {c : Chunk} {x : List Char} (h : Written e c x)
    (hc : c.IsBare) {before after : List Char} (hb : ∀ d ∈ before, isBlank d)
    (ha : ∀ d ∈ after, isBlank d) (limit room : Nat) (o : Option (List Char)) :
    splitFrom e limit room .plain [] (before ++ x ++ after ++ followed o) =
      if c.depth ≤ room then
        (splitFrom e limit room .plain [] (o.getD [])).map (c :: ·)
      else .error (.tooDeep limit) := by
  rw [List.append_assoc, List.append_assoc, splitFrom_blanks he hb]
  match h with
  | .text s =>
      obtain ⟨hne, hs⟩ := hc
      have hne : s.toList ≠ [] := fun hn => hne (String.toList_eq_nil_iff.1 hn)
      have hm : ∀ c, isQuote c ∨ c = '(' ∨ c = ',' → isMarked c := by
        rintro c (hq | rfl | rfl)
        · simp [isMarked, hq]
        · rfl
        · rfl
      have hhead : ∀ c ∈ s.toList.head?, ¬isBlank c := by
        intro c hc
        obtain ⟨t, ht⟩ := List.head?_eq_some_iff.1 hc
        exact not_isBlank_of_bare (ht ▸ hs)
      rw [splitFrom_escape hm (.inr hhead), List.append_nil,
        splitFrom_text_followed (fun _ => he.ne_blank) he.comma.symm ha (by simpa using hne),
        List.reverse_reverse, bare_append_blanks hne hs ha, String.ofList_toList,
        if_pos (by simp [depth])]
  | .list h =>
      obtain ⟨y, hy⟩ := h.passes he
      have hl := @splitFrom_list_followed e limit room after _ y _ he.opening.symm
        he.closing.symm (fun _ => he.ne_blank) ha hy (splitFrom_allWritten he h hc limit) o
      rw [← hl]
      simp

theorem splitFrom_allWritten (he : IsEscape e) {cs : List Chunk} {x : List Char}
    (h : AllWritten e cs x) (hc : AllBare cs) (limit room : Nat) :
    splitFrom e limit room .plain [] x =
      if depthAll cs ≤ room then .ok cs else .error (.tooDeep limit) := by
  match h with
  | .nil =>
      rw [if_pos (by simp [depthAll]), splitFrom]
      rfl
  | .last hb ha h =>
      have hl := splitFrom_written he h hc.1 hb ha limit room none
      rw [followed, List.append_nil] at hl
      rw [hl, Option.getD_none, splitFrom, depthAll]
      simp [depthAll, Except.map]
  | .cons (y := y) hb ha h hs =>
      have hl := splitFrom_written he h hc.1 hb ha limit room (some y)
      rw [followed, Option.getD_some, splitFrom_allWritten he hs hc.2 limit room] at hl
      rw [hl, map_cons_of_depth]

end

/-- A written row of chunks is split into these chunks again, with nothing lost, merged or moved,
unless its lists are too deep. -/
theorem ofBody_allWritten (he : IsEscape e) {chunks : List Chunk} (hc : AllBare chunks)
    {x : List Char} (h : AllWritten e chunks x) (limit : Nat) :
    ofBody e limit x =
      if depthAll chunks ≤ limit then .ok chunks else .error (.tooDeep limit) :=
  splitFrom_allWritten he h hc limit limit

theorem ofBody_allWritten_quote :
    let chunks : List Chunk := [.text "it's", .list [.text "a,b (", .list []], .text "\""]
    AllWritten '\'' chunks " it''s ,(a',b '( , () ),'\" ".toList ∧
      ofBody '\'' defaultLimit " it''s ,(a',b '( , () ),'\" ".toList = .ok chunks := by
  intro chunks
  have hblank : ∀ d ∈ [' '], isBlank d := by decide
  have hnone : ∀ d ∈ ([] : List Char), isBlank d := by decide
  have hlist : Written '\'' (.list [.text "a,b (", .list []]) "(a',b '( , () )".toList :=
    .list (.cons hnone hblank (.text "a,b (") (.last hblank hblank (.list .nil)))
  have h : AllWritten '\'' chunks " it''s ,(a',b '( , () ),'\" ".toList :=
    .cons hblank hblank (.text "it's") (.cons hnone hnone hlist (.last hnone hblank (.text "\"")))
  have he : IsEscape '\'' := ⟨by decide, by decide, by decide, by decide⟩
  have hc : AllBare chunks := by
    simp only [chunks, AllBare, IsBare]
    decide
  exact ⟨h, ofBody_allWritten he hc h defaultLimit⟩

end Chunk

end ResourceQuery
