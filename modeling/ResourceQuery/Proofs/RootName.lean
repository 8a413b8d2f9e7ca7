import ResourceQuery.Proofs.Rereading

namespace ResourceQuery

open Outcome Text

namespace Shorthand

theorem withWord_eq_append (sign s : List Char) :
    ∃ u, s = u ++ (withWord sign s).2 ∧ '(' ∉ u := by
  unfold withWord
  simp only
  split
  · rename_i rest hd
    refine ⟨s.takeWhile isWord ++ ['='], ?_, ?_⟩
    · rw [List.append_assoc, List.singleton_append, ← hd,
        List.prefix_iff_eq_append.1 (List.takeWhile_prefix _)]
    · intro h
      rcases List.mem_append.1 h with h | h
      · exact absurd (List.mem_takeWhile_imp h) (by decide)
      · simp at h
  · exact ⟨[], rfl, by simp⟩

theorem sign?_eq_append {s : List Char} {w : List Char × List Char} (h : sign? s = some w) :
    ∃ u, s = u ++ w.2 ∧ '(' ∉ u := by
  unfold sign? at h
  split at h <;> simp only [Option.some.injEq, reduceCtorEq] at h <;> subst h
  case h_5 | h_6 => exact ⟨[_], rfl, by simp⟩
  case h_4 s =>
    obtain ⟨u, hu, hp⟩ := withWord_eq_append ['='] s
    exact ⟨'=' :: u, by rw [List.cons_append, ← hu], by simp [hp]⟩
  all_goals
    rename_i s
    obtain ⟨u, hu, hp⟩ := withWord_eq_append [_, '='] s
    exact ⟨_ :: '=' :: u, by rw [List.cons_append, List.cons_append, ← hu], by simp [hp]⟩

theorem exists_eq_append_opening {u v d y : List Char} (h : d ++ '(' :: y = u ++ v)
    (hu : '(' ∉ u) : ∃ d', d = u ++ d' ∧ v = d' ++ '(' :: y := by
  rcases List.append_eq_append_iff.1 h with ⟨t, rfl, ht⟩ | ⟨t, rfl, ht⟩
  · cases t with
    | nil => exact ⟨[], by simp, by simpa using ht.symm⟩
    | cons c t =>
        obtain ⟨rfl, -⟩ := List.cons.inj ht
        simp at hu
  · exact ⟨t, rfl, ht⟩

theorem ident_opening {d y : List Char} :
    ∃ d', d = (ident (d ++ '(' :: y)).1 ++ d' ∧ (ident (d ++ '(' :: y)).2 = d' ++ '(' :: y :=
  exists_eq_append_opening (ident_append _).symm fun h =>
    not_opening_of_isIdent (List.mem_takeWhile_imp h) rfl

/-- What is taken for a value in front of a parenthesis ends before it, or is the group that it
opens. -/
theorem value_opening {d y : List Char} {v : List Char × List Char} (hd : '(' ∉ d)
    (h : v = (group? (d ++ '(' :: y)).getD (ident (d ++ '(' :: y))) :
    ((∀ c ∈ v.1, isIdent c) ∧ ∃ d', v.2 = d' ++ '(' :: y ∧ d' <:+ d) ∨
      group? ('(' :: y) = some v := by
  cases hg : group? (d ++ '(' :: y) with
  | none =>
      rw [hg, Option.getD_none] at h
      obtain ⟨d', hd', hr⟩ := @ident_opening d y
      rw [h]
      exact .inl ⟨fun c hc => List.mem_takeWhile_imp hc, d', hr, _, hd'.symm⟩
  | some g =>
      cases d with
      | nil =>
          rw [hg, Option.getD_some] at h
          exact .inr (h ▸ hg)
      | cons e d =>
          simp only [List.mem_cons, not_or] at hd
          rw [List.cons_append, group?_eq_none (Ne.symm hd.1)] at hg
          simp at hg

theorem window?_opening {d y : List Char} {w : Window} (hd : '(' ∉ d) (hy : ∀ c ∈ y, ¬isSign c)
    (h : window? (d ++ '(' :: y) = some w) :
    (∀ c ∈ w.property, isIdent c) ∧
      (((∀ c ∈ w.value, isIdent c) ∧ ∃ d', w.rest = d' ++ '(' :: y ∧ d' <:+ d) ∨
        group? ('(' :: y) = some (w.value, w.rest)) := by
  have hafter : Window.after? (ident (d ++ '(' :: y)).1 (ident (d ++ '(' :: y)).2 = some w := by
    cases d with
    | nil =>
        have hs : ∀ c ∈ '(' :: y, ¬isSign c := List.forall_mem_cons.2 ⟨by decide, hy⟩
        simp [window?_eq_none hs] at h
    | cons c d =>
        simp only [List.mem_cons, not_or] at hd
        unfold window? at h
        rw [List.cons_append, group?_eq_none (Ne.symm hd.1)] at h
        exact h
  obtain ⟨sign, rest, hs, hprop, hv⟩ := Window.exists_of_after? hafter
  obtain ⟨d₁, hd₁, hr₁⟩ := @ident_opening d y
  obtain ⟨u, hu, hpu⟩ := sign?_eq_append hs
  rw [hr₁] at hu
  obtain ⟨d₂, hd₂, rfl⟩ := exists_eq_append_opening hu hpu
  have hsuffix : d₂ <:+ d :=
    ⟨(ident (d ++ '(' :: y)).1 ++ u, by rw [List.append_assoc, ← hd₂, ← hd₁]⟩
  refine ⟨hprop ▸ fun c hc => List.mem_takeWhile_imp hc, ?_⟩
  refine (value_opening (fun hm => hd (hsuffix.subset hm)) hv).imp_left ?_
  rintro ⟨hvalue, d', hrest, hd'⟩
  exact ⟨hvalue, d', hrest, hd'.trans hsuffix⟩

end Shorthand

namespace Shorthand

theorem isNameChar_decodeBrackets {s : List Char} (h : ∀ c ∈ s, IsNameChar c) :
    ∀ c ∈ decodeBrackets s, IsNameChar c :=
  forall_mem_replace (forall_mem_replace (forall_mem_replace (forall_mem_replace h
    (by decide)) (by decide)) (by decide)) (by decide)

end Shorthand

namespace Piece

def letters : List Piece → List Char
  | [] => []
  | char c :: ps => c :: letters ps
  | _ :: ps => letters ps

theorem letters_chars (name : List Char) (ps : List Piece) :
    letters (name.map char ++ ps) = name ++ letters ps := by
  induction name with
  | nil => rfl
  | cons c name ih => rw [List.map_cons, List.cons_append, letters, ih, List.cons_append]

def IsWhole : Piece → Prop
  | char _ | group _ => True
  | joiner _ | unclosed _ => False

end Piece

theorem Query.name_of_gather {body : Nat → List Char → Except Fault (List Term)}
    {limit room : Nat} {ps : List Piece} {current c : Call} (hp : ∀ p ∈ ps, p.IsWhole)
    (h : gather body limit room none current ps = .ok c) :
    c.name.toList = current.name.toList ++ Piece.letters ps := by
  induction ps generalizing current with
  | nil =>
      rw [gather, pure_eq, Except.ok.injEq] at h
      simp [h, Piece.letters]
  | cons p ps ih =>
      simp only [List.mem_cons, forall_eq_or_imp] at hp
      cases p with
      | char d =>
          rw [gather] at h
          rw [ih hp.2 h, String.toList_push, List.append_assoc]
          rfl
      | group b =>
          rw [gather] at h
          obtain ⟨args, -, h⟩ := bind_eq_ok.1 h
          exact @ih ⟨current.name, args⟩ hp.2 h
      | joiner j | unclosed s => exact absurd hp.1 id

namespace Shorthand

theorem balanced_of_idents {x : List Char} (h : ∀ c ∈ x, isIdent c ∨ c = ',') :
    Group.Balanced '\\' x := by
  refine Group.balanced_of_plain fun c hc => ?_
  have ne {d : Char} (hd : ¬isIdent d) (hne : d ≠ ',') : c ≠ d := by
    rintro rfl
    exact (h c hc).elim hd hne
  refine ⟨ne (by decide) (by decide), fun hq => ?_, ne (by decide) (by decide),
    ne (by decide) (by decide)⟩
  simp only [isQuote, Bool.or_eq_true, beq_iff_eq] at hq
  exact hq.elim (ne (by decide) (by decide)) (ne (by decide) (by decide))

theorem balanced_comparison {p v : List Char} (hp : ∀ c ∈ p, isIdent c)
    (hv : Group.Balanced '\\' v) : Group.Balanced '\\' (p ++ ',' :: v) := by
  have hlead : Group.Balanced '\\' (p ++ [',']) := by
    refine balanced_of_idents fun c hm => ?_
    simpa using (List.mem_append.1 hm).imp_left (hp c)
  simpa using hlead.append hv

theorem group?_balanced {x g rest : List Char} (hx : Group.Balanced '\\' x)
    (h : group? ('(' :: (x ++ [')'])) = some (g, rest)) : g = '(' :: x ++ [')'] ∧ rest = [] := by
  obtain ⟨body, rfl, hs, hb⟩ := exists_of_group? h
  simp only [List.cons_append, List.append_assoc, List.cons.injEq, true_and,
    List.nil_append] at hs
  have hscan := (balanced_of_idents hb).scan (by decide) rest
  rw [← hs, hx.scan (by decide) []] at hscan
  simp only [Option.some.injEq, Group.mk.injEq] at hscan
  exact ⟨by rw [hscan.1], hscan.2.2.symm⟩

/-- No more than `n` percent signs stand outside the groups of a text, and no joiner. -/
structure Percents (s : List Char) (n : Nat) : Prop where
  whole : ∀ p ∈ Piece.ofText '\\' s, p.IsWhole
  count : (Piece.letters (Piece.ofText '\\' s)).count '%' ≤ n

theorem percents_nil (n : Nat) : Percents [] n := by
  constructor <;> simp [Piece.ofText, Piece.letters]

theorem Percents.cons {c : Char} {s : List Char} {n : Nat} (h : Percents s n) (hc : IsNameChar c) :
    Percents (c :: s) (n + if c == '%' then 1 else 0) := by
  constructor
  · rw [Piece.ofText_char hc]
    simpa [Piece.IsWhole] using h.whole
  · rw [Piece.ofText_char hc, Piece.letters, List.count_cons]
    exact Nat.add_le_add_right h.count _

theorem Percents.call {name x s : List Char} {n : Nat} (h : Percents s n)
    (hn : ∀ c ∈ name, isWord c) (hx : Group.Balanced '\\' x) :
    Percents (name ++ '(' :: (x ++ ')' :: s)) n := by
  have hp : name.count '%' = 0 := List.count_eq_zero.2 fun hm => absurd (hn _ hm) (by decide)
  have ht : Piece.ofText '\\' (name ++ '(' :: (x ++ ')' :: s)) =
      name.map .char ++ .group x :: Piece.ofText '\\' s := by
    rw [Piece.ofText_chars fun c hc => isNameChar_of_isWord (hn c hc), ← List.cons_append,
      Piece.ofText_group hx (by decide)]
  constructor
  · rw [ht]
    intro p hm
    simp only [List.mem_append, List.mem_map, List.mem_cons] at hm
    rcases hm with ⟨c, -, rfl⟩ | rfl | hm
    · trivial
    · trivial
    · exact h.whole p hm
  · rw [ht, Piece.letters_chars, List.count_append, hp, Nat.zero_add]
    exact h.count

/-- Outside the groups there is no percent sign after expansion that was not there before. -/
theorem percents_expandFrom {d x r : List Char} (hx : Group.Balanced '\\' x)
    (hs : ∀ c ∈ x, ¬isSign c) (hd : ∀ c ∈ d, IsNameChar c)
    (h : expandFrom (d ++ '(' :: (x ++ [')'])) = .ok r) : Percents r (d.count '%') := by
  have hy : ∀ c ∈ x ++ [')'], ¬isSign c := fun c hc =>
    (List.mem_append.1 hc).elim (hs c) (by
      rintro hm
      obtain rfl := List.mem_singleton.1 hm
      decide)
  -- Comparisons end before the parenthesis until one of them takes up the whole group.
  generalize ht : d ++ '(' :: (x ++ [')']) = t at h
  fun_induction expandFrom t generalizing d r with
  | case1 t w hw ih =>
      obtain ⟨call, hc, h⟩ := bind_eq_ok.1 h
      obtain ⟨rest, hr, h⟩ := bind_eq_ok.1 h
      obtain ⟨name, hname, rfl⟩ := Window.exists_of_call hc
      rw [pure_eq, Except.ok.injEq] at h
      have hopen : '(' ∉ d := fun hm => (hd _ hm).2 rfl
      have hr' : r = name ++ '(' :: ((w.property ++ ',' :: w.value) ++ ')' :: rest) := by
        simp [← h]
      rw [← ht] at hw
      rw [hr']
      obtain ⟨hp, ⟨hv, d', hrest, hsuffix⟩ | hg⟩ := window?_opening hopen hy hw
      · have hbody := balanced_comparison hp (balanced_of_idents fun c hm => .inl (hv c hm))
        have hi := ih (fun c hm => hd c (hsuffix.subset hm)) hrest.symm hr
        exact .call ⟨hi.whole, Nat.le_trans hi.count (hsuffix.sublist.count_le '%')⟩ hname hbody
      · obtain ⟨hvalue, hrest⟩ := group?_balanced hx hg
        have hbody := balanced_comparison hp (hx.group (by decide) (by decide))
        rw [hrest, expandFrom] at hr
        obtain rfl := Except.ok.inj hr
        rw [hvalue]
        exact (percents_nil _).call hname hbody
  | case2 hw => simp at ht
  | case3 c s hw ih =>
      obtain ⟨rest, hr, hrest⟩ := bind_eq_ok.1 h
      rw [pure_eq, Except.ok.injEq] at hrest
      rw [← hrest]
      cases d with
      | nil =>
          obtain ⟨rfl, rfl⟩ := List.cons.inj ht
          rw [expandFrom_eq_self hy, Except.ok.injEq] at hr
          rw [← hr]
          exact @Percents.call [] _ _ _ (percents_nil _) (by simp) hx
      | cons e d =>
          rw [List.cons_append, List.cons.injEq] at ht
          simp only [List.mem_cons, forall_eq_or_imp] at hd
          rw [← ht.1, List.count_cons]
          exact (ih hd.2 ht.2 hr).cons hd.1

end Shorthand

theorem Call.toList_text (t : Call) : t.text.toList =
    t.name.toList ++ '(' :: ((TagTable.standard.writeAll t.args).toList ++ [')']) := by
  rw [text, TagTable.writeCall, toTerm, TagTable.toList_write_call]
  rfl

open Shorthand in
/-- A call whose name holds the code of an angle bracket is not read back: where the name is
written, the code is taken for a comparison. -/
theorem Query.noBracket_of_read_text {t u : Call} {limit : Nat}
    (hc : ∀ c ∈ t.name.toList, IsNameChar c ∧ ¬isSign c)
    (hn : ∀ n ∈ Term.namesAll t.args, IsUnmarked n)
    (hs : ∀ n ∈ Term.namesAll t.args, IsStill n.toList)
    (h : read .standard ⟨'\\', limit⟩ t.text = .ok u) (hu : u.name = t.name) :
    NoBracket t.name.toList := by
  by_contra hb
  have hargs := TagTable.isComposed_isStill.writeAll t.args hs
  have hbal := TagTable.balanced_writeAll t.args hn
  have hbracket : NoBracket ((TagTable.standard.writeAll t.args).toList ++ [')']) :=
    hargs.bracket.append_cons (by decide) (noBracket_of_notMem (by simp))
  unfold read at h
  split at h
  · simp at h
  · simp at h
  · obtain ⟨expanded, he, h⟩ := bind_eq_ok.1 h
    obtain ⟨r, hr, rfl⟩ := map_eq_ok.1 (mapError_eq_ok.1 he)
    rw [Call.toList_text, decodeBrackets_append (by decide), decodeBrackets_eq hbracket] at hr
    have hp := percents_expandFrom hbal hargs.sign
      (isNameChar_decodeBrackets fun c hm => (hc c hm).1) hr
    rw [readExpanded, String.toList_ofList, readCall_succ] at h
    have hname := name_of_gather hp.whole h
    have hlt := count_decodeBrackets_lt (fun c hm => (hc c hm).2) hb
    have hle := hp.count
    rw [Call.empty, String.toList_empty, List.nil_append, hu] at hname
    rw [← hname] at hle
    omega

end ResourceQuery
