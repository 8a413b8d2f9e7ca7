import ResourceQuery.Chunk
import ResourceQuery.Proofs.Grouping
import ResourceQuery.Proofs.Outcome

namespace ResourceQuery.Chunk

open Text Outcome

variable {e : Char} {limit room : Nat} {read s : List Char}

theorem not_marked_of_isBlank {c : Char} (h : isBlank c) :
    ¬isQuote c ∧ c ≠ '(' ∧ c ≠ ')' ∧ c ≠ ',' :=
  ⟨not_isQuote_of_pos h (by decide) (by decide), ne_of_pos_of_neg h (by decide),
    ne_of_pos_of_neg h (by decide), ne_of_pos_of_neg h (by decide)⟩

theorem skipSeparator_isSuffix (s : List Char) : skipSeparator s <:+ s := by
  have hs := List.dropWhile_suffix (l := s) isBlank
  unfold skipSeparator
  simp only
  split
  · rename_i r h
    have hr : r <:+ s := (List.suffix_cons ',' r).trans (h ▸ hs)
    exact (List.dropWhile_suffix isBlank).trans hr
  · exact hs

theorem splitFrom_plain {c : Char} (he : c ≠ e) (hq : ¬isQuote c) (ho : c ≠ '(') (hc : c ≠ ',')
    (hr : read ≠ [] ∨ ¬isBlank c) : splitFrom e limit room .plain read (c :: s) =
      splitFrom e limit room .plain (c :: read) s := by
  rw [splitFrom, Quoting.step_plain he hq]
  simp only [if_neg ho, if_neg hc]
  rw [if_neg]
  cases read <;> simp_all

theorem splitFrom_blank {c : Char} (he : c ≠ e) (hb : isBlank c) :
    splitFrom e limit room .plain [] (c :: s) = splitFrom e limit room .plain [] s := by
  obtain ⟨hq, ho, -, hc⟩ := not_marked_of_isBlank hb
  rw [splitFrom, Quoting.step_plain he hq]
  simp only [if_neg ho, if_neg hc]
  rw [if_pos (by simpa using hb)]

theorem splitFrom_comma (he : ',' ≠ e) : splitFrom e limit room .plain read (',' :: s) =
    (splitFrom e limit room .plain [] s).map
      (.text (String.ofList (bare read.reverse)) :: ·) := by
  rw [splitFrom, Quoting.step_plain he (by decide)]
  simp only [show (',' = '(') = False by simp, if_false, if_true]
  cases splitFrom e limit room .plain [] s <;> rfl

theorem splitFrom_quoted {q : Char} {x : List Char} (hx : q ∉ x) :
    splitFrom e limit room (.quoted q) read (x ++ q :: s) =
      splitFrom e limit room .plain (q :: x.reverse ++ read) s := by
  induction x generalizing read with
  | nil =>
      rw [List.nil_append, splitFrom, Quoting.step_close]
      rfl
  | cons c x ih =>
      simp only [List.mem_cons, not_or] at hx
      rw [List.cons_append, splitFrom, Quoting.step_quoted (Ne.symm hx.1)]
      simp only
      rw [ih hx.2]
      simp

theorem splitFrom_open {q : Char} (he : q ≠ e) (hq : isQuote q) :
    splitFrom e limit room .plain read (q :: s) =
      splitFrom e limit room (.quoted q) (q :: read) s := by
  rw [splitFrom, Quoting.step_open he hq]

theorem splitFrom_unclosed (hs : Group.scan e .plain 0 s = none) (ho : '(' ≠ e) :
    splitFrom e limit room .plain read ('(' :: s) =
      if read.isEmpty && room == 0 then .error (.tooDeep limit)
      else .error (.unclosedGroup (String.ofList ('(' :: s))) := by
  rw [splitFrom, Quoting.step_plain ho (by decide)]
  simp only [if_true]
  split
  · rfl
  · rename_i g h
    simp [hs] at h

theorem splitFrom_call_of_scan {g : Group} (hs : Group.scan e .plain 0 s = some g) (ho : '(' ≠ e)
    (hr : read ≠ []) : splitFrom e limit room .plain read ('(' :: s) =
      splitFrom e limit room .plain (')' :: g.raw.reverse ++ '(' :: read) g.rest := by
  have hr' : read.isEmpty = false := by simpa using hr
  rw [splitFrom, Quoting.step_plain ho (by decide)]
  simp only [if_true, hr']
  split
  · rename_i h
    simp [hs] at h
  · rename_i g' h
    obtain rfl := Option.some.inj (hs.symm.trans h)
    rfl

theorem splitFrom_list_of_scan {g : Group} (hs : Group.scan e .plain 0 s = some g) (ho : '(' ≠ e) :
    splitFrom e limit (room + 1) .plain [] ('(' :: s) = (do
      let items ← splitFrom e limit room .plain [] g.raw
      let rest ← splitFrom e limit (room + 1) .plain [] (skipSeparator g.rest)
      return .list items :: rest) := by
  rw [splitFrom, Quoting.step_plain ho (by decide)]
  simp only [if_true, List.isEmpty_nil]
  split
  · rename_i h
    simp [hs] at h
  · rename_i g' h
    obtain rfl := Option.some.inj (hs.symm.trans h)
    rfl

theorem splitFrom_call {x y : List Char} (hx : Group.Passes e x y) (ho : '(' ≠ e) (hc : ')' ≠ e)
    (hr : read ≠ []) : splitFrom e limit room .plain read ('(' :: x ++ ')' :: s) =
      splitFrom e limit room .plain (')' :: x.reverse ++ '(' :: read) s := by
  rw [List.cons_append, splitFrom_call_of_scan (hx.scan hc _) ho hr]

theorem splitFrom_list {x y : List Char} (hx : Group.Passes e x y) (ho : '(' ≠ e) (hc : ')' ≠ e) :
    splitFrom e limit (room + 1) .plain [] ('(' :: x ++ ')' :: s) = (do
      let items ← splitFrom e limit room .plain [] x
      let rest ← splitFrom e limit (room + 1) .plain [] (skipSeparator s)
      return .list items :: rest) := by
  rw [List.cons_append, splitFrom_list_of_scan (hx.scan hc _) ho]

theorem splitFrom_list_zero (ho : '(' ≠ e) :
    splitFrom e limit 0 .plain [] ('(' :: s) = .error (.tooDeep limit) := by
  rw [splitFrom, Quoting.step_plain ho (by decide)]
  simp only [if_true, List.isEmpty_nil]
  split
  · rfl
  · rfl

theorem splitFrom_dropWhile (he : ∀ c, isBlank c → c ≠ e) :
    splitFrom e limit room .plain [] (s.dropWhile isBlank) =
      splitFrom e limit room .plain [] s := by
  induction s with
  | nil => rfl
  | cons c s ih =>
      by_cases hb : isBlank c
      · rw [List.dropWhile_cons_of_pos hb, ih, splitFrom_blank (he c hb) hb]
      · rw [List.dropWhile_cons_of_neg hb]

/-- A text that becomes part of the chunk under way as it stands. -/
def Kept (e : Char) (x : List Char) : Prop :=
  ∀ limit room read s, read ≠ [] → splitFrom e limit room .plain read (x ++ s) =
    splitFrom e limit room .plain (x.reverse ++ read) s

theorem kept_nil : Kept e [] := by
  intro limit room read s _
  rfl

theorem Kept.append {x y : List Char} (hx : Kept e x) (hy : Kept e y) : Kept e (x ++ y) := by
  intro limit room read s hr
  rw [List.append_assoc, hx _ _ _ _ hr, hy _ _ _ _ (by simp [hr]), List.reverse_append,
    List.append_assoc]

theorem kept_of_plain {x : List Char}
    (h : ∀ c ∈ x, c ≠ e ∧ ¬isQuote c ∧ c ≠ '(' ∧ c ≠ ',') : Kept e x := by
  induction x with
  | nil => exact kept_nil
  | cons c x ih =>
      intro limit room read s hr
      simp only [List.mem_cons, forall_eq_or_imp] at h
      obtain ⟨⟨he, hq, ho, hc⟩, hx⟩ := h
      rw [List.cons_append, splitFrom_plain he hq ho hc (.inl hr), ih hx _ _ _ _ (by simp)]
      simp

theorem kept_quoted {q : Char} {x : List Char} (he : q ≠ e) (hq : isQuote q) (hx : q ∉ x) :
    Kept e (q :: x ++ [q]) := by
  intro limit room read s _
  rw [List.cons_append, List.cons_append, List.append_assoc, List.singleton_append,
    splitFrom_open he hq, splitFrom_quoted hx]
  simp

theorem kept_group {x y : List Char} (hx : Group.Passes e x y) (ho : '(' ≠ e) (hc : ')' ≠ e) :
    Kept e ('(' :: x ++ [')']) := by
  intro limit room read s hr
  have h : splitFrom e limit room .plain read ('(' :: x ++ ')' :: s) = _ :=
    splitFrom_call hx ho hc hr
  simpa using h

theorem splitFrom_kept {c : Char} {x : List Char} (he : c ≠ e) (hq : ¬isQuote c) (ho : c ≠ '(')
    (hc : c ≠ ',') (hb : ¬isBlank c) (hx : Kept e x) :
    splitFrom e limit room .plain [] (c :: x ++ s) =
      splitFrom e limit room .plain (c :: x).reverse s := by
  rw [List.cons_append, splitFrom_plain he hq ho hc (.inr hb), hx _ _ _ _ (by simp)]
  simp

mutual

/-- How many lists are around one another in a chunk. -/
def depth : Chunk → Nat
  | text _ => 0
  | list items => depthAll items + 1

def depthAll : List Chunk → Nat
  | [] => 0
  | c :: cs => max (depth c) (depthAll cs)

end

theorem map_cons_of_depth (limit room : Nat) (c : Chunk) (cs : List Chunk) :
    (if c.depth ≤ room then
        Except.map (c :: ·) (if depthAll cs ≤ room then .ok cs else .error (.tooDeep limit))
      else .error (.tooDeep limit)) =
      if depthAll (c :: cs) ≤ room then .ok (c :: cs) else .error (SyntaxFault.tooDeep limit) := by
  rw [depthAll]
  by_cases hc : c.depth ≤ room
  · rw [if_pos hc]
    by_cases hs : depthAll cs ≤ room
    · rw [if_pos hs, if_pos (Nat.max_le.2 ⟨hc, hs⟩)]
      rfl
    · rw [if_neg hs, if_neg fun h => hs (Nat.max_le.1 h).2]
      rfl
  · rw [if_neg hc, if_neg fun h => hc (Nat.max_le.1 h).1]

theorem depthAll_splitFrom {q : Quoting} {chunks : List Chunk}
    (h : splitFrom e limit room q read s = .ok chunks) : depthAll chunks ≤ room := by
  fun_induction splitFrom e limit room q read s generalizing chunks with
  | case1 room q read =>
      rw [pure_eq, Except.ok.injEq] at h
      rw [← h]
      split <;> simp [depthAll, depth]
  | case4 | case5 | case6 => simp at h
  | case7 _ _ _ _ _ _ _ _ _ ihi ihr =>
      obtain ⟨items, hi, h⟩ := bind_eq_ok.1 h
      obtain ⟨rest, hr, h⟩ := bind_eq_ok.1 h
      rw [pure_eq, Except.ok.injEq] at h
      have hi := ihi hi
      have hr := ihr hr
      rw [← h]
      simp only [depthAll, depth]
      omega
  | case9 _ _ _ _ _ _ _ ih =>
      obtain ⟨rest, hr, h⟩ := bind_eq_ok.1 h
      rw [pure_eq, Except.ok.injEq] at h
      rw [← h]
      simpa [depthAll, depth] using ih hr
  | case2 _ _ _ _ _ _ _ ih | case3 _ _ _ _ _ _ _ ih | case8 _ _ _ _ _ _ _ _ _ ih
  | case10 _ _ _ _ _ _ _ _ _ _ ih | case11 _ _ _ _ _ _ _ _ _ _ ih => exact ih h

def followed : Option (List Char) → List Char
  | none => []
  | some s => ',' :: s

section

variable {after : List Char}

theorem splitFrom_text_followed (hb : ∀ c, isBlank c → c ≠ e) (hc : ',' ≠ e)
    (ha : ∀ c ∈ after, isBlank c) (hr : read ≠ []) (o : Option (List Char)) :
    splitFrom e limit room .plain read (after ++ followed o) =
      (splitFrom e limit room .plain [] (o.getD [])).map
        (.text (String.ofList (bare (read.reverse ++ after))) :: ·) := by
  have hk : Kept e after := kept_of_plain fun c hm =>
    have h := not_marked_of_isBlank (ha c hm)
    ⟨hb c (ha c hm), h.1, h.2.1, h.2.2.2⟩
  rw [hk _ _ _ _ hr]
  cases o with
  | none =>
      have hr' : (after.reverse ++ read).isEmpty = false := by simp [hr]
      rw [followed, splitFrom, hr', Option.getD_none, splitFrom]
      simp [Except.map]
  | some s =>
      rw [followed, splitFrom_comma hc]
      simp

theorem splitFrom_skipSeparator_followed (hb : ∀ c, isBlank c → c ≠ e)
    (ha : ∀ c ∈ after, isBlank c) (o : Option (List Char)) :
    splitFrom e limit room .plain [] (skipSeparator (after ++ followed o)) =
      splitFrom e limit room .plain [] (o.getD []) := by
  have hd : (after ++ followed o).dropWhile isBlank = followed o := by
    rw [List.dropWhile_append_of_pos ha]
    cases o <;> rfl
  rw [skipSeparator, hd]
  cases o with
  | none => rfl
  | some s => exact splitFrom_dropWhile hb

theorem splitFrom_list_followed {x y : List Char} {items : List Chunk} (ho : '(' ≠ e)
    (hc : ')' ≠ e) (hb : ∀ c, isBlank c → c ≠ e) (ha : ∀ c ∈ after, isBlank c)
    (hx : Group.Passes e x y)
    (hi : ∀ room, splitFrom e limit room .plain [] x =
      if depthAll items ≤ room then .ok items else .error (.tooDeep limit))
    (o : Option (List Char)) :
    splitFrom e limit room .plain [] ('(' :: x ++ ')' :: (after ++ followed o)) =
      if (Chunk.list items).depth ≤ room then
        (splitFrom e limit room .plain [] (o.getD [])).map (.list items :: ·)
      else .error (.tooDeep limit) := by
  cases room with
  | zero => rw [List.cons_append, splitFrom_list_zero ho, if_neg (by simp [depth])]
  | succ room =>
      rw [splitFrom_list hx ho hc, hi, splitFrom_skipSeparator_followed hb ha]
      by_cases hd : depthAll items ≤ room
      · rw [if_pos hd, if_pos (by simpa [depth] using hd)]
        cases splitFrom e limit (room + 1) .plain [] (o.getD []) <;> rfl
      · rw [if_neg hd, if_neg (by simpa [depth] using hd)]
        rfl

end

end ResourceQuery.Chunk
