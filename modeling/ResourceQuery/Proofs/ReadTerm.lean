import ResourceQuery.Proofs.Expansion
import ResourceQuery.Proofs.Gathering
import ResourceQuery.Proofs.Splitting
import ResourceQuery.Proofs.TermShape

namespace ResourceQuery

open Outcome Text

variable {Q : Char → Prop}

theorem Text.mem_of_mem_bare {c : Char} {s : List Char} (h : c ∈ bare s) : c ∈ s := by
  have ht : ∀ {t : List Char}, c ∈ trim t → c ∈ t := fun h =>
    (List.dropWhile_sublist _).mem (List.mem_reverse.1
      ((List.dropWhile_sublist _).mem (List.mem_reverse.1 h)))
  unfold bare unquote at h
  split at h
  · rename_i q t hq
    split at h
    · exact ht (hq ▸ List.mem_cons_of_mem q ((List.dropLast_sublist _).mem h))
    · exact ht (hq ▸ h)
  · simp at h

theorem Group.over_scan {e : Char} {q : Quoting} {n : Nat} {s : List Char} {g : Group}
    (h : scan e q n s = some g) (hs : ∀ c ∈ s, Q c) :
    (∀ c ∈ g.raw, Q c) ∧ ∀ c ∈ g.rest, Q c := by
  rw [scan_eq_some_append h] at hs
  exact ⟨fun c hc => hs c (by simp [hc]), fun c hc => hs c (by simp [hc])⟩

namespace Chunk

mutual

def Over (Q : Char → Prop) : Chunk → Prop
  | text s => ∀ c ∈ s.toList, Q c
  | list items => AllOver Q items

def AllOver (Q : Char → Prop) : List Chunk → Prop
  | [] => True
  | c :: cs => Over Q c ∧ AllOver Q cs

end

theorem over_text_bare {read : List Char} (hr : ∀ c ∈ read, Q c) :
    Over Q (.text (String.ofList (bare read.reverse))) := by
  intro c hc
  rw [String.toList_ofList] at hc
  exact hr c (List.mem_reverse.1 (mem_of_mem_bare hc))

theorem over_splitFrom {e : Char} {limit room : Nat} {q : Quoting} {read s : List Char}
    {chunks : List Chunk} (h : splitFrom e limit room q read s = .ok chunks)
    (hr : ∀ c ∈ read, Q c) (hs : ∀ c ∈ s, Q c) : AllOver Q chunks := by
  fun_induction splitFrom e limit room q read s generalizing chunks with
  | case1 room q read =>
      rw [pure_eq, Except.ok.injEq] at h
      rw [← h]
      split
      · trivial
      · exact ⟨over_text_bare hr, trivial⟩
  | case2 room q read c s q' hq ih =>
      simp only [List.mem_cons, forall_eq_or_imp] at hs
      exact ih h (by simpa using ⟨hs.1, hr⟩) hs.2
  | case3 room q read c s q' hq ih | case10 room q read c s q' hq ho hc hb ih =>
      simp only [List.mem_cons, forall_eq_or_imp] at hs
      exact ih h hr hs.2
  | case4 | case5 | case6 => simp at h
  | case7 q read s q' g hg hne room hq ihi ihr =>
      obtain ⟨items, hi, h⟩ := bind_eq_ok.1 h
      obtain ⟨rest, ht, h⟩ := bind_eq_ok.1 h
      rw [pure_eq, Except.ok.injEq] at h
      simp only [List.mem_cons, forall_eq_or_imp] at hs
      obtain ⟨hraw, hrest⟩ := Group.over_scan hg hs.2
      rw [← h]
      have hskip : ∀ c ∈ skipSeparator g.rest, Q c := fun c hc =>
        hrest c ((skipSeparator_isSuffix _).mem hc)
      exact ⟨ihi hi (by simp) hraw, ihr ht (by simp) hskip⟩
  | case8 room q read s q' g hg hne hq ih =>
      simp only [List.mem_cons, forall_eq_or_imp] at hs
      obtain ⟨hraw, hrest⟩ := Group.over_scan hg hs.2
      -- The group goes back to the text under way, its closing parenthesis included.
      have hclose : Q ')' := by
        refine hs.2 ')' ?_
        rw [Group.scan_eq_some_append hg]
        simp
      refine ih h (fun c hc => ?_) hrest
      simp only [List.cons_append, List.mem_cons, List.mem_append, List.mem_reverse] at hc
      rcases hc with rfl | hc | rfl | hc
      · exact hclose
      · exact hraw c hc
      · exact hs.1
      · exact hr c hc
  | case9 room q read s q' hq hne ih =>
      obtain ⟨rest, ht, h⟩ := bind_eq_ok.1 h
      rw [pure_eq, Except.ok.injEq] at h
      simp only [List.mem_cons, forall_eq_or_imp] at hs
      rw [← h]
      exact ⟨over_text_bare hr, ih ht (by simp) hs.2⟩
  | case11 room q read c s q' hq ho hc hb ih =>
      simp only [List.mem_cons, forall_eq_or_imp] at hs
      exact ih h (by simpa using ⟨hs.1, hr⟩) hs.2

end Chunk

namespace Piece

def Over (Q : Char → Prop) : Piece → Prop
  | char c => IsNameChar c ∧ Q c
  | group b => ∀ c ∈ b, Q c
  | joiner _ => True
  | unclosed _ => True

theorem over_ofText {e : Char} {s : List Char} (h : ∀ c ∈ s, Q c) :
    ∀ p ∈ ofText e s, Over Q p := by
  fun_induction ofText e s with
  | case1 => simp
  | case2 c s j hj ih =>
      simp only [List.mem_cons, forall_eq_or_imp] at h ⊢
      exact ⟨trivial, ih h.2⟩
  | case3 s g hg hj ih =>
      simp only [List.mem_cons, forall_eq_or_imp] at h ⊢
      obtain ⟨hraw, hrest⟩ := Group.over_scan hg h.2
      exact ⟨hraw, ih hrest⟩
  | case4 => simp [Over]
  | case5 c s hj ho ih =>
      simp only [List.mem_cons, forall_eq_or_imp] at h ⊢
      exact ⟨⟨⟨hj, ho⟩, h.1⟩, ih h.2⟩

end Piece

namespace Term

theorem mem_namesAll {xs : List Term} {n : String} :
    n ∈ namesAll xs ↔ ∃ x ∈ xs, n ∈ x.names := by
  induction xs with
  | nil => simp [namesAll]
  | cons x xs ih => simp [namesAll, ih]

theorem mem_leavesAll {xs : List Term} {v : Value} :
    v ∈ leavesAll xs ↔ ∃ x ∈ xs, v ∈ x.leaves := by
  induction xs with
  | nil => simp [leavesAll]
  | cons x xs ih => simp [leavesAll, ih]

theorem allListsWithin_iff {limit : Nat} {xs : List Term} :
    AllListsWithin limit xs ↔ ∀ x ∈ xs, x.ListsWithin limit := by
  induction xs with
  | nil => simp [AllListsWithin]
  | cons x xs ih => simp [AllListsWithin, ih]

theorem listDepthAll_le_iff {n : Nat} {xs : List Term} :
    listDepthAll xs ≤ n ↔ ∀ x ∈ xs, x.listDepth ≤ n := by
  induction xs with
  | nil => simp [listDepthAll]
  | cons x xs ih => rw [listDepthAll, Nat.max_le, ih, List.forall_mem_cons]

/-- What a term consists of that is read from characters with a property. -/
structure IsReadFrom (tags : TagTable) (limit : Nat) (Q : Char → Prop) (x : Term) : Prop where
  names : ∀ n ∈ x.names, ∀ c ∈ n.toList, IsNameChar c ∧ Q c
  leaves : ∀ v ∈ x.leaves, ∃ s, tags.read s = .ok v
  lists : x.ListsWithin limit

variable {tags : TagTable} {limit : Nat} {name : String} {args items : List Term}

theorem isReadFrom_leaf {s : String} {v : Value} (h : tags.read s = .ok v) :
    IsReadFrom tags limit Q (.leaf v) where
  names := by simp [names]
  leaves := by
    simp only [Term.leaves, List.mem_singleton, forall_eq]
    exact ⟨s, h⟩
  lists := trivial

theorem isReadFrom_list (h : ∀ x ∈ items, IsReadFrom tags limit Q x) :
    IsReadFrom tags limit Q (.list items) where
  names n hn := by
    obtain ⟨x, hx, hn⟩ := mem_namesAll.1 hn
    exact (h x hx).names n hn
  leaves v hv := by
    obtain ⟨x, hx, hv⟩ := mem_leavesAll.1 hv
    exact (h x hx).leaves v hv
  lists := allListsWithin_iff.2 fun x hx => (h x hx).lists

end Term

structure Call.IsReadFrom (tags : TagTable) (limit : Nat) (Q : Char → Prop) (c : Call) : Prop where
  name : ∀ d ∈ c.name.toList, IsNameChar d ∧ Q d
  args : ∀ x ∈ c.args, x.IsReadFrom tags limit Q ∧ x.listDepth ≤ limit

variable {tags : TagTable} {limit : Nat}

theorem Call.isReadFrom_empty : Call.empty.IsReadFrom tags limit Q where
  name := by simp [empty]
  args := by simp [empty]

theorem Call.IsReadFrom.toTerm {c : Call} (h : c.IsReadFrom tags limit Q) :
    c.toTerm.IsReadFrom tags limit Q where
  names n hn := by
    rcases List.mem_cons.1 hn with rfl | hn
    · exact h.name
    · exact (Term.isReadFrom_list fun x hx => (h.args x hx).1).names n hn
  leaves := (Term.isReadFrom_list fun x hx => (h.args x hx).1).leaves
  lists := ⟨Term.listDepthAll_le_iff.2 fun x hx => (h.args x hx).2,
    Term.allListsWithin_iff.2 fun x hx => (h.args x hx).1.lists⟩

theorem Call.IsReadFrom.push {c : Call} (h : c.IsReadFrom tags limit Q) {d : Char}
    (hd : IsNameChar d ∧ Q d) : Call.IsReadFrom tags limit Q ⟨c.name.push d, c.args⟩ where
  name e he := by
    rw [String.toList_push, List.mem_append, List.mem_singleton] at he
    rcases he with he | rfl
    · exact h.name e he
    · exact hd
  args := h.args

theorem Joiner.isNameChar_name (j : Joiner) : ∀ c ∈ j.name.toList, IsNameChar c := by
  cases j <;> decide

namespace Aggregate

def IsReadFrom (tags : TagTable) (limit : Nat) (Q : Char → Prop) (a : Aggregate) : Prop :=
  ∀ x ∈ a.args, x.IsReadFrom tags limit Q ∧ x.listDepth ≤ limit

variable {a : Aggregate} {c : Call}

theorem isReadFrom_start (j : Joiner) : (start j).IsReadFrom tags limit Q := by
  simp [IsReadFrom, start]

theorem IsReadFrom.append (ha : a.IsReadFrom tags limit Q) (hc : c.IsReadFrom tags limit Q) :
    IsReadFrom tags limit Q ⟨a.joiner, a.args ++ [c.toTerm]⟩ := by
  intro x hx
  rcases List.mem_append.1 hx with hx | hx
  · exact ha x hx
  · rw [List.mem_singleton.1 hx]
    exact ⟨hc.toTerm, Nat.zero_le _⟩

theorem IsReadFrom.add (ha : a.IsReadFrom tags limit Q) (hc : c.IsReadFrom tags limit Q) :
    (a.add c).IsReadFrom tags limit Q := by
  unfold Aggregate.add
  split
  · exact ha
  · exact ha.append hc

theorem IsReadFrom.toCall (hQ : ∀ j : Joiner, ∀ c ∈ j.name.toList, Q c)
    (ha : a.IsReadFrom tags limit Q) : a.toCall.IsReadFrom tags limit Q where
  name d hd := ⟨a.joiner.isNameChar_name d hd, hQ a.joiner d hd⟩
  args := ha

end Aggregate

namespace Query

open Term

variable {call : Nat → List Char → Except Fault Call}

mutual

theorem isReadFrom_argument
    (hcall : ∀ room s c, call room s = .ok c → (∀ d ∈ s, Q d) → c.IsReadFrom tags limit Q)
    (c : Chunk) (hc : c.Over Q) {room : Nat} {x : Term}
    (h : argument tags.read call limit room c = .ok x) :
    IsReadFrom tags limit Q x ∧ x.listDepth ≤ c.depth := by
  match c with
  | .list items =>
      rw [argument] at h
      obtain ⟨xs, hx, h⟩ := bind_eq_ok.1 h
      rw [pure_eq, Except.ok.injEq] at h
      have hi := isReadFrom_arguments hcall items hc hx
      rw [← h, listDepth, Chunk.depth]
      exact ⟨isReadFrom_list hi.1, Nat.succ_le_succ hi.2⟩
  | .text s =>
      by_cases hs : startsCall s.toList
      · by_cases hr : room < 2
        · simp [argument_tooDeep hs hr] at h
        · obtain ⟨room, rfl⟩ : ∃ r, room = r + 2 := ⟨room - 2, by omega⟩
          rw [argument_call hs] at h
          obtain ⟨c, hread, rfl⟩ := map_eq_ok.1 h
          exact ⟨(hcall room s.toList c hread hc).toTerm, Nat.zero_le _⟩
      · rw [argument_leaf (Bool.eq_false_iff.2 hs)] at h
        obtain ⟨v, hv, rfl⟩ := map_eq_ok.1 h
        exact ⟨isReadFrom_leaf hv, Nat.zero_le _⟩

theorem isReadFrom_arguments
    (hcall : ∀ room s c, call room s = .ok c → (∀ d ∈ s, Q d) → c.IsReadFrom tags limit Q)
    (cs : List Chunk) (hc : Chunk.AllOver Q cs) {room : Nat} {xs : List Term}
    (h : arguments tags.read call limit room cs = .ok xs) :
    (∀ x ∈ xs, IsReadFrom tags limit Q x) ∧ listDepthAll xs ≤ Chunk.depthAll cs := by
  match cs with
  | [] =>
      rw [arguments, pure_eq, Except.ok.injEq] at h
      rw [← h]
      exact ⟨by simp, Nat.zero_le _⟩
  | c :: cs =>
      rw [arguments] at h
      obtain ⟨x, hx, h⟩ := bind_eq_ok.1 h
      obtain ⟨xs, hxs, h⟩ := bind_eq_ok.1 h
      rw [pure_eq, Except.ok.injEq] at h
      have h₁ := isReadFrom_argument hcall c hc.1 hx
      have h₂ := isReadFrom_arguments hcall cs hc.2 hxs
      rw [← h, listDepthAll, Chunk.depthAll]
      refine ⟨?_, by omega⟩
      simpa using ⟨h₁.1, h₂.1⟩

end

/-- What is gathered is made of what is read. -/
theorem isReadFrom_gather {body : Nat → List Char → Except Fault (List Term)}
    (hQ : ∀ j : Joiner, ∀ c ∈ j.name.toList, Q c)
    (hbody : ∀ room b xs, body room b = .ok xs → (∀ d ∈ b, Q d) →
      ∀ x ∈ xs, IsReadFrom tags limit Q x ∧ x.listDepth ≤ limit)
    {ps : List Piece} (hp : ∀ p ∈ ps, p.Over Q) {room : Nat} {gathered : Option Aggregate}
    {current c : Call} (hg : ∀ a ∈ gathered, a.IsReadFrom tags limit Q)
    (hc : current.IsReadFrom tags limit Q)
    (h : gather body limit room gathered current ps = .ok c) : c.IsReadFrom tags limit Q := by
  induction ps generalizing room gathered current c with
  | nil =>
      cases gathered with
      | none =>
          rw [gather, pure_eq, Except.ok.injEq] at h
          exact h ▸ hc
      | some a =>
          rw [gather, pure_eq, Except.ok.injEq] at h
          exact h ▸ ((hg a rfl).add hc).toCall hQ
  | cons p ps ih =>
      simp only [List.mem_cons, forall_eq_or_imp] at hp
      cases p with
      | char d =>
          rw [gather] at h
          exact ih hp.2 hg (hc.push hp.1) h
      | group b =>
          rw [gather] at h
          obtain ⟨args, hb, h⟩ := bind_eq_ok.1 h
          have hset : Call.IsReadFrom tags limit Q ⟨current.name, args⟩ :=
            ⟨hc.name, hbody room b args hb hp.1⟩
          exact ih hp.2 hg hset h
      | unclosed s => simp [gather] at h
      | joiner j =>
          have hstart : ((Aggregate.start j).add current).IsReadFrom tags limit Q :=
            (Aggregate.isReadFrom_start j).add hc
          cases gathered with
          | none =>
              rw [gather_first] at h
              exact ih hp.2 (by simpa using hstart) Call.isReadFrom_empty h
          | some a =>
              have ha := hg a rfl
              by_cases hne : a.joiner = j
              · rw [gather_same hne] at h
                exact ih hp.2 (by simpa using ha.add hc) Call.isReadFrom_empty h
              · cases room with
                | zero => simp [gather_other_zero hne] at h
                | succ room =>
                    rw [gather_other hne] at h
                    obtain ⟨inner, hi, rfl⟩ := map_eq_ok.1 h
                    -- The rest of the level is gathered on its own, one level deeper.
                    have hinner := ih hp.2 (by simpa using hstart) Call.isReadFrom_empty hi
                    exact (ha.append hinner).toCall hQ

theorem isReadFrom_readCall {o : Options} (hQ : ∀ j : Joiner, ∀ c ∈ j.name.toList, Q c)
    {fuel room : Nat} {s : List Char} {c : Call} (h : readCall tags o fuel room s = .ok c)
    (hs : ∀ d ∈ s, Q d) : c.IsReadFrom tags o.maxDepth Q := by
  induction fuel generalizing room s c with
  | zero => simp [readCall] at h
  | succ fuel ih =>
      rw [readCall_succ] at h
      refine isReadFrom_gather hQ (fun room b xs hb hd => ?_) (Piece.over_ofText hs) (by simp)
        Call.isReadFrom_empty h
      obtain ⟨chunks, hc, hx⟩ := bind_eq_ok.1 hb
      have hc := mapError_eq_ok.1 hc
      have hover := Chunk.over_splitFrom hc (by simp) hd
      have hdepth := Chunk.depthAll_splitFrom hc
      obtain ⟨hr, hl⟩ := isReadFrom_arguments (fun _ _ _ hc hs => ih hc hs) chunks hover hx
      exact fun x hx => ⟨hr x hx, listDepthAll_le_iff.1 (Nat.le_trans hl hdepth) x hx⟩

/-- Every name of a query is free of joiners, parentheses and comparisons, every leaf is read by
its tag, and lists are no deeper than the limit. -/
theorem isReadFrom_read {o : Options} {text : String} {c : Call} (h : read tags o text = .ok c) :
    c.IsReadFrom tags o.maxDepth fun d => ¬Shorthand.isSign d := by
  unfold read at h
  split at h
  · simp at h
  · simp at h
  · obtain ⟨expanded, he, h⟩ := bind_eq_ok.1 h
    obtain ⟨r, hr, rfl⟩ := map_eq_ok.1 (mapError_eq_ok.1 he)
    rw [readExpanded, String.toList_ofList] at h
    exact isReadFrom_readCall (fun j => by cases j <;> decide) h (Shorthand.not_sign_expandFrom hr)

end Query

end ResourceQuery
