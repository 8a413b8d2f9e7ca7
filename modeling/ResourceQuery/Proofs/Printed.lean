import Mathlib.Data.List.TakeWhile
import ResourceQuery.Query
import ResourceQuery.Proofs.Expansion
import ResourceQuery.Proofs.LeafShape
import ResourceQuery.Proofs.Splitting
import ResourceQuery.Proofs.TermShape

namespace ResourceQuery

open Text Outcome Shorthand

theorem toNat_of_isAlphanum {c : Char} (h : c.isAlphanum) : 48 ≤ c.toNat ∧ c.toNat ≤ 122 := by
  rw [isAlphanum_iff] at h
  simp only [Char.isDigit, Bool.and_eq_true, decide_eq_true_eq, Char.le_def,
    UInt32.le_iff_toNat_le, ge_iff_le] at h
  rcases h with (h | h) | h
  · exact ⟨Nat.le_trans (by decide) h.1, Nat.le_trans h.2 (by decide)⟩
  · exact ⟨Nat.le_trans (by decide) h.1, h.2⟩
  · exact ⟨h.1, Nat.le_trans h.2 (by decide)⟩

theorem toNat_of_isLeafChar {c : Char} (h : isLeafChar c) : 33 ≤ c.toNat ∧ c.toNat ≤ 126 := by
  simp only [isLeafChar, Percent.isPlain, Bool.or_eq_true, beq_iff_eq] at h
  rcases h with ((((((((h | rfl) | rfl) | rfl) | rfl) | rfl) | rfl) | rfl) | rfl) | rfl
  · have := toNat_of_isAlphanum h
    omega
  all_goals decide

/-- What the readers of groups, chunks and comparisons look for. -/
structure IsInert (c : Char) : Prop where
  mark : c ≠ '\\'
  quote : ¬isQuote c
  opening : c ≠ '('
  closing : c ≠ ')'
  comma : c ≠ ','
  blank : ¬isBlank c
  sign : ¬isSign c

theorem isInert_of_isLeafChar {c : Char} (h : isLeafChar c) : IsInert c where
  mark := ne_of_pos_of_neg h (by decide)
  quote := not_isQuote_of_pos h (by decide) (by decide)
  opening := ne_of_pos_of_neg h (by decide)
  closing := ne_of_pos_of_neg h (by decide)
  comma := ne_of_pos_of_neg h (by decide)
  blank hb := by
    have := toNat_of_isLeafChar h
    simp only [isBlank, Bool.or_eq_true, Bool.and_eq_true, decide_eq_true_eq, beq_iff_eq] at hb
    omega
  sign := not_isSign_of_pos h (by decide) (by decide) (by decide)

theorem isLeafChar_of_isWord {c : Char} (h : isWord c) : isLeafChar c :=
  isLeafChar_of_isPlain (isPlain_of_isWord h)

theorem balanced_of_leafChars {s : List Char} (h : ∀ c ∈ s, isLeafChar c) :
    Group.Balanced '\\' s :=
  Group.balanced_of_plain fun c hc =>
    have i := isInert_of_isLeafChar (h c hc)
    ⟨i.mark, i.quote, i.opening, i.closing⟩

theorem kept_of_leafChars {s : List Char} (h : ∀ c ∈ s, isLeafChar c) : Chunk.Kept '\\' s :=
  Chunk.kept_of_plain fun c hc =>
    have i := isInert_of_isLeafChar (h c hc)
    ⟨i.mark, i.quote, i.opening, i.comma⟩

theorem quote_notMem_of_leafChars {s : List Char} (h : ∀ c ∈ s, isLeafChar c) : '\'' ∉ s :=
  fun hq => (isInert_of_isLeafChar (h _ hq)).quote rfl

theorem bare_eq_self {c d : Char} {x : List Char} (hc : ¬isBlank c) (hq : ¬isQuote c)
    (hd : ¬isBlank d) (hl : (c :: x).getLast? = some d) : bare (c :: x) = c :: x := by
  obtain ⟨y, hy⟩ := List.getLast?_eq_some_iff.1 hl
  have ht : trim (c :: x) = c :: x := by
    rw [trim, List.dropWhile_cons_of_neg hc, trimEnd, hy, List.reverse_append,
      List.reverse_singleton, List.singleton_append, List.dropWhile_cons_of_neg hd]
    simp
  rw [bare, ht, unquote, if_neg (by simp [hq])]

namespace LeafText

variable {s : List Char}

theorem balanced (h : LeafText s) : Group.Balanced '\\' s := by
  cases h with
  | bare _ h _ => exact balanced_of_leafChars h
  | quoted h _ =>
      have hj : Group.Balanced '\\' ['j', 's', 'o', 'n', ':'] := balanced_of_leafChars (by decide)
      exact hj.append (Group.balanced_quoted (by decide) rfl (quote_notMem_of_leafChars h))

theorem exists_cons (h : LeafText s) :
    ∃ c x, s = c :: x ∧ IsInert c ∧ Chunk.Kept '\\' x := by
  cases h with
  | bare hne h _ =>
      obtain ⟨c, x, rfl⟩ := List.exists_cons_of_ne_nil hne
      simp only [List.mem_cons, forall_eq_or_imp] at h
      exact ⟨c, x, rfl, isInert_of_isLeafChar h.1, kept_of_leafChars h.2⟩
  | quoted h _ =>
      have hj : Chunk.Kept '\\' ['s', 'o', 'n', ':'] := kept_of_leafChars (by decide)
      exact ⟨'j', _, rfl, isInert_of_isLeafChar rfl,
        hj.append (Chunk.kept_quoted (by decide) rfl (quote_notMem_of_leafChars h))⟩

theorem bare_eq (h : LeafText s) : Text.bare s = s := by
  cases h with
  | bare hne h _ =>
      obtain ⟨c, x, rfl⟩ := List.exists_cons_of_ne_nil hne
      have hc := isInert_of_isLeafChar (h c List.mem_cons_self)
      have hd := isInert_of_isLeafChar (h _ (List.getLast_mem hne))
      exact bare_eq_self hc.blank hc.quote hd.blank (List.getLast?_eq_some_getLast hne)
  | quoted h _ =>
      exact bare_eq_self (c := 'j') (d := '\'') (by decide) (by decide) (by decide)
        (List.getLast?_eq_some_iff.2 ⟨['j', 's', 'o', 'n', ':'] ++ '\'' :: _, by simp; rfl⟩)

theorem opening_notMem (h : LeafText s) : '(' ∉ s := by
  have inert {t : List Char} (h : ∀ c ∈ t, isLeafChar c) : '(' ∉ t := fun hm =>
    (isInert_of_isLeafChar (h _ hm)).opening rfl
  cases h with
  | bare _ h _ => exact inert h
  | quoted h _ => simp [inert h]

theorem not_sign (h : LeafText s) : ∀ c ∈ s, ¬isSign c := by
  have inert {t : List Char} (h : ∀ c ∈ t, isLeafChar c) : ∀ c ∈ t, ¬isSign c :=
    fun c hc => (isInert_of_isLeafChar (h c hc)).sign
  cases h with
  | bare _ h _ => exact inert h
  | quoted h _ =>
      intro c hc
      simp only [List.mem_append, List.mem_cons, List.not_mem_nil, or_false] at hc
      rcases hc with hc | (rfl | hc) | rfl
      · exact inert (t := ['j', 's', 'o', 'n', ':']) (by decide) c (by simpa using hc)
      · decide
      · exact inert h c hc
      · decide

theorem noBracket (h : LeafText s) : NoBracket s := by
  cases h with
  | bare _ _ hb => exact hb
  | quoted _ hb =>
      exact (noBracket_of_notMem (by decide)).append_cons (by decide)
        (hb.append_cons (by decide) (noBracket_of_notMem (by decide)))

end LeafText

def IsUnmarked (name : String) : Prop :=
  ∀ c ∈ name.toList, c ≠ '\\' ∧ ¬isQuote c ∧ c ≠ '(' ∧ c ≠ ')' ∧ c ≠ ','

theorem IsName.isUnmarked {name : String} (h : IsName name) : IsUnmarked name := fun c hc =>
  have i := isInert_of_isLeafChar (isLeafChar_of_isWord (h.2 c hc))
  ⟨i.mark, i.quote, i.opening, i.closing, i.comma⟩

theorem IsUnmarked.balanced {name : String} (h : IsUnmarked name) :
    Group.Balanced '\\' name.toList :=
  Group.balanced_of_plain fun c hc =>
    have h := h c hc
    ⟨h.1, h.2.1, h.2.2.1, h.2.2.2.1⟩

namespace TagTable

theorem toList_write_call (name : String) (args : List Term) :
    (standard.write (.call name args)).toList =
      name.toList ++ ('(' :: (standard.writeAll args).toList ++ [')']) := by
  simp [write]

theorem toList_write_list (items : List Term) :
    (standard.write (.list items)).toList = '(' :: (standard.writeAll items).toList ++ [')'] := by
  simp [write]

theorem toList_writeAll_cons (x y : Term) (xs : List Term) :
    (standard.writeAll (x :: y :: xs)).toList =
      (standard.write x).toList ++ ',' :: (standard.writeAll (y :: xs)).toList := by
  simp [writeAll]

/-- A property of texts that the text of a term has where its leaves and its names have it. -/
structure IsComposed (P : List Char → Prop) : Prop where
  nil : P []
  leaf : ∀ v, P (standard.writeValue v).toList
  comma : ∀ {x y}, P x → P y → P (x ++ ',' :: y)
  group : ∀ {name x}, P name → P x → P (name ++ ('(' :: x ++ [')']))

variable {P : List Char → Prop}

mutual

theorem IsComposed.write (h : IsComposed P) (x : Term) (hn : ∀ n ∈ x.names, P n.toList) :
    P (standard.write x).toList := by
  match x with
  | .call name args =>
      simp only [Term.names, List.mem_cons, forall_eq_or_imp] at hn
      rw [toList_write_call]
      exact h.group hn.1 (h.writeAll args hn.2)
  | .leaf v => exact h.leaf v
  | .list items =>
      rw [toList_write_list]
      exact h.group h.nil (h.writeAll items hn)

theorem IsComposed.writeAll (h : IsComposed P) (xs : List Term)
    (hn : ∀ n ∈ Term.namesAll xs, P n.toList) : P (standard.writeAll xs).toList := by
  match xs with
  | [] => exact h.nil
  | [x] =>
      simp only [Term.namesAll, List.append_nil] at hn
      simpa [TagTable.writeAll] using h.write x hn
  | x :: y :: xs =>
      simp only [Term.namesAll, List.mem_append, or_imp, forall_and] at hn
      have hrest := h.writeAll (y :: xs) (by
        simpa only [Term.namesAll, List.mem_append, or_imp, forall_and] using hn.2)
      rw [toList_writeAll_cons]
      exact h.comma (h.write x hn.1) hrest

end

theorem isComposed_balanced : IsComposed (Group.Balanced '\\') where
  nil := Group.balanced_nil
  leaf v := (leafText_writeValue v).balanced
  comma hx hy := by
    have hc : Group.Balanced '\\' [','] := Group.balanced_of_plain (by decide)
    exact hx.append (hc.append hy)
  group hn hx := hn.append (hx.group (by decide) (by decide))

theorem balanced_writeAll (xs : List Term) (hn : ∀ n ∈ Term.namesAll xs, IsUnmarked n) :
    Group.Balanced '\\' (standard.writeAll xs).toList :=
  isComposed_balanced.writeAll xs fun n hm => (hn n hm).balanced

end TagTable

namespace Chunk

mutual

/-- The chunk that the text of a term is. A name of blanks alone does not show, so that a call
without any other name is a list. -/
def ofTerm : Term → Chunk
  | .call name args =>
      if name.toList.all isBlank then .list (ofTerms args)
      else .text (String.ofList
        ((TagTable.standard.write (.call name args)).toList.dropWhile isBlank))
  | .leaf v => .text (TagTable.standard.writeValue v)
  | .list items => .list (ofTerms items)

def ofTerms : List Term → List Chunk
  | [] => []
  | x :: xs => ofTerm x :: ofTerms xs

end

def splitRest (limit room : Nat) : Option (List Char) → Except SyntaxFault (List Chunk)
  | none => .ok []
  | some s => splitFrom '\\' limit room .plain [] s

variable {limit room : Nat}

theorem blank_ne_mark {c : Char} (h : isBlank c) : c ≠ '\\' := ne_of_pos_of_neg h (by decide)

theorem splitFrom_getD (o : Option (List Char)) :
    splitFrom '\\' limit room .plain [] (o.getD []) = splitRest limit room o := by
  cases o with
  | none =>
      rw [Option.getD_none, splitFrom]
      rfl
  | some s => rfl

theorem splitFrom_followed {read : List Char} (hr : read ≠ []) (o : Option (List Char)) :
    splitFrom '\\' limit room .plain read (followed o) =
      (splitRest limit room o).map (.text (String.ofList (bare read.reverse)) :: ·) := by
  have h := @splitFrom_text_followed '\\' limit room read [] (fun c => blank_ne_mark)
    (by decide) (by simp) hr o
  rwa [List.nil_append, List.append_nil, splitFrom_getD] at h

theorem splitFrom_listed {x y : List Char} {items : List Chunk} (hx : Group.Passes '\\' x y)
    (hi : ∀ room, splitFrom '\\' limit room .plain [] x =
      if depthAll items ≤ room then .ok items else .error (.tooDeep limit))
    (o : Option (List Char)) :
    splitFrom '\\' limit room .plain [] ('(' :: x ++ ')' :: followed o) =
      if (Chunk.list items).depth ≤ room then
        (splitRest limit room o).map (.list items :: ·)
      else .error (.tooDeep limit) := by
  have h := @splitFrom_list_followed '\\' limit room [] x y items (by decide) (by decide)
    (fun c => blank_ne_mark) (by simp) hx hi o
  rwa [List.nil_append, splitFrom_getD] at h

theorem splitFrom_texted {c : Char} {x : List Char} (hc : IsInert c) (hx : Kept '\\' x)
    (hb : bare (c :: x) = c :: x) (o : Option (List Char)) :
    splitFrom '\\' limit room .plain [] (c :: x ++ followed o) =
      (splitRest limit room o).map (.text (String.ofList (c :: x)) :: ·) := by
  rw [splitFrom_kept hc.mark hc.quote hc.opening hc.comma hc.blank hx,
    splitFrom_followed (by simp), List.reverse_reverse, hb]

theorem splitFrom_leafText {s : List Char} (h : LeafText s) (o : Option (List Char)) :
    splitFrom '\\' limit room .plain [] (s ++ followed o) =
      (splitRest limit room o).map (.text (String.ofList s) :: ·) := by
  have hb := h.bare_eq
  obtain ⟨c, x, rfl, hc, hx⟩ := h.exists_cons
  exact splitFrom_texted hc hx hb o

theorem ofBody_leafText {s : List Char} (h : LeafText s) (limit : Nat) :
    ofBody '\\' limit s = .ok [.text (String.ofList s)] := by
  have hs := @splitFrom_leafText limit limit s h none
  rwa [followed, List.append_nil] at hs

theorem splitFrom_called {name : String} {x z : List Char} (hn : IsUnmarked name)
    (hb : ¬name.toList.all isBlank) (hx : Group.Passes '\\' x z) (o : Option (List Char)) :
    splitFrom '\\' limit room .plain [] (name.toList ++ ('(' :: x ++ [')']) ++ followed o) =
      (splitRest limit room o).map (.text (String.ofList
        ((name.toList ++ ('(' :: x ++ [')'])).dropWhile isBlank)) :: ·) := by
  have hd : name.toList.dropWhile isBlank ≠ [] := by
    simpa only [ne_eq, List.dropWhile_eq_nil_iff, ← List.all_eq_true] using hb
  obtain ⟨c, y, hy⟩ := List.exists_cons_of_ne_nil hd
  have hsub : ∀ d ∈ c :: y, d ∈ name.toList := fun d hm =>
    (List.dropWhile_sublist isBlank).subset (hy ▸ hm)
  have hc : ¬isBlank c := by
    have h := List.head?_dropWhile_not isBlank name.toList
    rw [hy] at h
    simpa using h
  have hu := hn c (hsub c List.mem_cons_self)
  have hk : Kept '\\' (y ++ ('(' :: x ++ [')'])) := by
    refine Kept.append (kept_of_plain fun d hm => ?_) (kept_group hx (by decide) (by decide))
    have h := hn d (hsub d (List.mem_cons_of_mem _ hm))
    exact ⟨h.1, h.2.1, h.2.2.1, h.2.2.2.2⟩
  have htext : (name.toList ++ ('(' :: x ++ [')'])).dropWhile isBlank =
      c :: (y ++ ('(' :: x ++ [')'])) := by
    rw [List.dropWhile_append, hy]
    simp
  rw [← splitFrom_dropWhile fun c => blank_ne_mark, List.dropWhile_append, htext]
  have hbare : bare (c :: (y ++ ('(' :: x ++ [')']))) = c :: (y ++ ('(' :: x ++ [')'])) :=
    bare_eq_self (d := ')') hc hu.2.1 (by decide)
      (List.getLast?_eq_some_iff.2 ⟨c :: (y ++ '(' :: x), by simp⟩)
  rw [if_neg (by simp), splitFrom_kept hu.1 hu.2.1 hu.2.2.1 hu.2.2.2.2 hc hk,
    splitFrom_followed (by simp), List.reverse_reverse, hbare]

mutual

/-- The text of a term is read as its chunk. -/
theorem splitFrom_write (x : Term) (hn : ∀ n ∈ x.names, IsUnmarked n) (limit room : Nat)
    (o : Option (List Char)) :
    splitFrom '\\' limit room .plain [] ((TagTable.standard.write x).toList ++ followed o) =
      if (ofTerm x).depth ≤ room then (splitRest limit room o).map (ofTerm x :: ·)
      else .error (.tooDeep limit) := by
  match x with
  | .call name args =>
      simp only [Term.names, List.mem_cons, forall_eq_or_imp] at hn
      have hargs := TagTable.balanced_writeAll args hn.2
      rw [TagTable.toList_write_call]
      by_cases hb : name.toList.all isBlank
      · have hd : name.toList.dropWhile isBlank = [] := by
          simpa only [List.dropWhile_eq_nil_iff, ← List.all_eq_true] using hb
        rw [ofTerm, if_pos hb, ← splitFrom_listed hargs
          (fun room => splitFrom_writeAll args hn.2 limit room),
          ← splitFrom_dropWhile fun c => blank_ne_mark, List.append_assoc, List.dropWhile_append,
          hd]
        simp [isBlank]
      · rw [ofTerm, if_neg hb, if_pos (by simp [depth]), TagTable.toList_write_call,
          ← splitFrom_called hn.1 hb hargs]
  | .leaf v =>
      rw [ofTerm, if_pos (by simp [depth]), TagTable.write,
        splitFrom_leafText (TagTable.leafText_writeValue v), String.ofList_toList]
  | .list items =>
      have hi := TagTable.balanced_writeAll items hn
      rw [TagTable.toList_write_list, ofTerm, ← splitFrom_listed hi
        (fun room => splitFrom_writeAll items hn limit room)]
      simp

theorem splitFrom_writeAll (xs : List Term) (hn : ∀ n ∈ Term.namesAll xs, IsUnmarked n)
    (limit room : Nat) :
    splitFrom '\\' limit room .plain [] (TagTable.standard.writeAll xs).toList =
      if depthAll (ofTerms xs) ≤ room then .ok (ofTerms xs) else .error (.tooDeep limit) := by
  match xs with
  | [] =>
      rw [ofTerms, if_pos (by simp [depthAll]), TagTable.writeAll, String.toList_empty, splitFrom]
      rfl
  | [x] =>
      simp only [Term.namesAll, List.append_nil] at hn
      have h := splitFrom_write x hn limit room none
      simp only [followed, List.append_nil, splitRest] at h
      simp only [TagTable.writeAll, ofTerms, depthAll, Nat.max_zero]
      exact h
  | x :: y :: xs =>
      simp only [Term.namesAll, List.mem_append, or_imp, forall_and] at hn
      have hrest := splitFrom_writeAll (y :: xs) (by
        simpa only [Term.namesAll, List.mem_append, or_imp, forall_and] using hn.2) limit room
      have hx := splitFrom_write x hn.1 limit room
        (some (TagTable.standard.writeAll (y :: xs)).toList)
      rw [followed, splitRest, hrest] at hx
      rw [TagTable.toList_writeAll_cons, hx, map_cons_of_depth]
      rfl

end

end Chunk

end ResourceQuery
