import Mathlib
import ResourceQuery.Proofs.LeafRoundTrip
import ResourceQuery.Proofs.ReadTerm
import ResourceQuery.Proofs.RootName

namespace ResourceQuery

open Outcome Shorthand Text

/-- Neither the readers of groups and arguments nor that of comparisons take anything out of a
name. -/
def IsTame (name : String) : Prop := IsUnmarked name ∧ NoBracket name.toList

/-- What a call has to be like for its text to be read as the call again. -/
structure Call.IsRereadable (limit : Nat) (t : Call) : Prop where
  names : ∀ n ∈ Term.namesAll t.args, IsName n
  levels : Term.levelsAll t.args ≤ limit
  start : t.name.toList.head? ≠ some '?'
  bracket : NoBracket t.name.toList

namespace Query

variable {limit : Nat}

theorem exists_of_argument_ofTerm {name : String} {args args' : List Term} {fuel room : Nat}
    (hn : IsUnmarked name) (hargs : ∀ n ∈ Term.namesAll args, IsUnmarked n)
    (hc : ∀ c ∈ name.toList, IsNameChar c)
    (h : argument TagTable.standard.read (readCall .standard ⟨'\\', limit⟩ fuel) limit room
      (Chunk.ofTerm (.call name args)) = .ok (.call name args')) :
    IsName name ∧ ∃ r k, room = r + 2 ∧ fuel = k + 1 ∧
      readBody .standard ⟨'\\', limit⟩ k r (TagTable.standard.writeAll args).toList =
        .ok args' := by
  rw [Chunk.ofTerm] at h
  split at h
  · rw [argument] at h
    obtain ⟨xs, -, h⟩ := bind_eq_ok.1 h
    simp at h
  · rename_i hb
    have hd : name.toList.dropWhile isBlank ≠ [] := by
      simpa only [ne_eq, List.dropWhile_eq_nil_iff, ← List.all_eq_true] using hb
    have hsub : ∀ c ∈ name.toList.dropWhile isBlank, c ∈ name.toList := fun c hm =>
      (List.dropWhile_sublist isBlank).subset hm
    have hempty : (name.toList.dropWhile isBlank).isEmpty = false := by simpa using hd
    have hbal := (TagTable.balanced_writeAll args hargs).passes
    have hclose : ')' ≠ '\\' := by decide
    rw [TagTable.toList_write_call, List.dropWhile_append, hempty] at h
    simp only [Bool.false_eq_true, if_false] at h
    obtain ⟨hstart, r, k, rfl, rfl, hread⟩ := exists_of_argument_call h
    rw [String.toList_ofList] at hstart hread
    rw [readCall_call (fun c hm => hc c (hsub c hm)) hbal hclose, map_eq_ok] at hread
    obtain ⟨args'', hbody, heq⟩ := hread
    obtain ⟨hname, rfl⟩ := Call.mk.inj heq
    -- The blanks in front are lost, so a name that comes back has none.
    replace hname : name.toList.dropWhile isBlank = name.toList := by
      simpa only [String.toList_ofList] using congrArg String.toList hname
    rw [hname] at hstart
    exact ⟨isWord_of_startsCall (fun hm => (hn _ hm).2.2.1 rfl) hstart, r, k, rfl, rfl, hbody⟩

mutual

theorem isName_of_argument (x y : Term) (hn : ∀ n ∈ x.names, IsUnmarked n)
    (hc : ∀ n ∈ x.names, ∀ c ∈ n.toList, IsNameChar c) {fuel room : Nat} (hs : y.same x)
    (h : argument TagTable.standard.read (readCall .standard ⟨'\\', limit⟩ fuel) limit room
      (Chunk.ofTerm x) = .ok y) : (∀ n ∈ x.names, IsName n) ∧ x.levels ≤ room := by
  match x, y with
  | .call name args, .call name' args' =>
      simp only [Term.names, List.mem_cons, forall_eq_or_imp] at hn hc
      simp only [Term.same, Bool.and_eq_true, beq_iff_eq] at hs
      obtain ⟨rfl, hs⟩ := hs
      obtain ⟨hname, room, fuel, rfl, rfl, hbody⟩ := exists_of_argument_ofTerm hn.1 hn.2 hc.1 h
      rw [readBody_writeAll args hn.2] at hbody
      split at hbody
      case isFalse => simp at hbody
      have hi := isName_of_arguments args args' hn.2 hc.2 hs hbody
      simp only [Term.names, List.mem_cons, forall_eq_or_imp, Term.levels]
      exact ⟨⟨hname, hi.1⟩, by omega⟩
  | .leaf v, _ => simp [Term.names, Term.levels]
  | .list items, .list items' =>
      rw [Chunk.ofTerm, argument] at h
      obtain ⟨xs, hx, h⟩ := bind_eq_ok.1 h
      simp only [pure_eq, Except.ok.injEq, Term.list.injEq] at h
      have hi := isName_of_arguments items items' hn hc hs (h ▸ hx)
      refine ⟨hi.1, ?_⟩
      rw [Term.levels]
      split <;> omega
  | .call _ _, .leaf _ | .call _ _, .list _ | .list _, .leaf _ | .list _, .call _ _ =>
      simp [Term.same] at hs

theorem isName_of_arguments (xs ys : List Term) (hn : ∀ n ∈ Term.namesAll xs, IsUnmarked n)
    (hc : ∀ n ∈ Term.namesAll xs, ∀ c ∈ n.toList, IsNameChar c) {fuel room : Nat}
    (hs : Term.sameAll ys xs)
    (h : arguments TagTable.standard.read (readCall .standard ⟨'\\', limit⟩ fuel) limit room
      (Chunk.ofTerms xs) = .ok ys) :
    (∀ n ∈ Term.namesAll xs, IsName n) ∧ Term.levelsAll xs ≤ room := by
  match xs, ys with
  | [], _ => simp [Term.namesAll, Term.levelsAll]
  | x :: xs, y :: ys =>
      simp only [Term.namesAll, List.mem_append, or_imp, forall_and] at hn hc ⊢
      simp only [Term.sameAll, Bool.and_eq_true] at hs
      rw [Chunk.ofTerms, arguments] at h
      obtain ⟨z, hz, h⟩ := bind_eq_ok.1 h
      obtain ⟨zs, hzs, h⟩ := bind_eq_ok.1 h
      simp only [pure_eq, Except.ok.injEq, List.cons.injEq] at h
      have hx := isName_of_argument x y hn.1 hc.1 hs.1 (h.1 ▸ hz)
      have hxs := isName_of_arguments xs ys hn.2 hc.2 hs.2 (h.2 ▸ hzs)
      rw [Term.levelsAll]
      exact ⟨⟨hx.1, hxs.1⟩, by omega⟩
  | _ :: _, [] => simp [Term.sameAll] at hs

end

variable {t : Call}

theorem exists_text_eq_cons (t : Call) : ∃ c s, t.text.toList = c :: s :=
  List.exists_cons_of_ne_nil (by simp [Call.toList_text])

theorem head?_text (t : Call) :
    t.text.toList.head? = some '?' ↔ t.name.toList.head? = some '?' := by
  rw [Call.toList_text]
  cases t.name.toList <;> simp

theorem isStill_text (hr : IsStill t.name.toList)
    (hs : ∀ n ∈ Term.namesAll t.args, IsStill n.toList) : IsStill t.text.toList :=
  TagTable.isComposed_isStill.write t.toTerm fun n hn => by
    rcases List.mem_cons.1 hn with rfl | hn
    · exact hr
    · exact hs n hn

theorem read_text_of_isRereadable (hc : ∀ c ∈ t.name.toList, IsNameChar c ∧ ¬isSign c)
    (hr : ∀ v ∈ Term.leavesAll t.args,
      TagTable.standard.read (TagTable.standard.writeValue v) = .ok v)
    (hl : t.toTerm.ListsWithin limit) (h : t.IsRereadable limit) :
    read .standard ⟨'\\', limit⟩ t.text = .ok t := by
  obtain ⟨c, s, ht⟩ := exists_text_eq_cons t
  have hq : c ≠ '?' := by
    rintro rfl
    exact h.start ((head?_text t).1 (by simp [ht]))
  have hstill := isStill_text ⟨fun c hm => (hc c hm).2, h.bracket⟩ fun n hn =>
    (h.names n hn).isStill
  rw [read_eq_readExpanded ht hq hstill]
  have hread := @readExpanded_text limit id t (fun c hm => (hc c hm).1) h.names hr hl h.levels
  rwa [Term.mapAllLeaves_eq_self (f := id) t.args fun _ _ => rfl] at hread

theorem isRereadable_of_read_text {u : Call}
    (hc : ∀ n ∈ t.toTerm.names, ∀ c ∈ n.toList, IsNameChar c ∧ ¬isSign c)
    (hn : ∀ n ∈ Term.namesAll t.args, IsTame n)
    (h : read .standard ⟨'\\', limit⟩ t.text = .ok u) (hs : u.same t) :
    t.IsRereadable limit := by
  simp only [Call.toTerm, Term.names, List.mem_cons, forall_eq_or_imp] at hc
  simp only [Call.same, Call.toTerm, Term.same, Bool.and_eq_true, beq_iff_eq] at hs
  have hunmarked : ∀ n ∈ Term.namesAll t.args, IsUnmarked n := fun n hm => (hn n hm).1
  have hstills : ∀ n ∈ Term.namesAll t.args, IsStill n.toList := fun n hm =>
    ⟨fun c hm' => (hc.2 n hm c hm').2, (hn n hm).2⟩
  have hbracket := noBracket_of_read_text hc.1 hunmarked hstills h hs.1
  obtain ⟨c, s, ht⟩ := exists_text_eq_cons t
  have hq : c ≠ '?' := by
    rintro rfl
    simp [read, ht] at h
  rw [read_eq_readExpanded ht hq (isStill_text ⟨fun c hm => (hc.1 c hm).2, hbracket⟩ hstills),
    readExpanded, Call.text, TagTable.writeCall, Call.toTerm,
    readCall_write (fun c hm => (hc.1 c hm).1) hunmarked, map_eq_ok] at h
  obtain ⟨args, hread, rfl⟩ := h
  rw [readBody_writeAll t.args hunmarked] at hread
  split at hread
  case isFalse => simp at hread
  have hi := isName_of_arguments t.args args hunmarked (fun n hm c hm' => (hc.2 n hm c hm').1) hs.2
    hread
  refine ⟨hi.1, hi.2, fun hh => ?_, hbracket⟩
  rw [← head?_text, ht, List.head?_cons, Option.some.injEq] at hh
  exact hq hh

/-- The text of what a query reads as is read as the same again where the names within it show
calls to be calls and the calls are not too deep, and only there, as long as its names hold
nothing that is taken for other syntax. Of doubles it is only asked that each is read from its
shortest decimal form. -/
theorem parse_text {query : String} (h : parse query = .ok t)
    (hnum : ∀ x, .number x ∈ Term.leavesAll t.args → x.isFinite →
      Numeral.read? (Numeral.write x).toList = some x)
    (hjson : ∀ j, .json j ∈ Term.leavesAll t.args → ∀ x, .double x ∈ j.numbers →
      (Json.Number.double x).ReadsBack) :
    (t.IsRereadable Chunk.defaultLimit → parse t.text = .ok t) ∧
    ((∀ n ∈ Term.namesAll t.args, IsTame n) →
      (∃ u, parse t.text = .ok u ∧ u.same t) → t.IsRereadable Chunk.defaultLimit) := by
  have hread := isReadFrom_read h
  have hterm := hread.toTerm
  constructor
  · apply read_text_of_isRereadable hread.name
    · intro v hv
      obtain ⟨s, hs⟩ := hterm.leaves v hv
      refine TagTable.read_writeValue (TagTable.isRead_read hs) ?_ ?_
      · rintro x rfl
        exact hnum x hv
      · rintro j rfl
        exact hjson j hv
    · exact hterm.lists
  · rintro htame ⟨u, hu, hs⟩
    exact isRereadable_of_read_text hterm.names htame hu hs

theorem parse_text_joined :
    let t : Call :=
      ⟨"and", [.call "a" [.leaf (.number (.ofNat 1))], .call "or" [.call "b" [], .call "c" []]]⟩
    parse "a(1)&b|c()" = .ok t ∧ parse t.text = .ok t := by
  intro t
  have hexpand : expand "a(1)&b|c()" = .ok "a(1)&b|c()" := by cbv
  have hpieces : Piece.ofText '\\' "a(1)&b|c()".toList =
      [.char 'a', .group ['1'], .joiner .and, .char 'b', .joiner .or, .char 'c', .group []] := by
    cbv
  have hone : Chunk.ofBody '\\' 128 ['1'] = .ok [.text "1"] := by cbv
  have hnone : Chunk.ofBody '\\' 128 [] = .ok [] := by cbv
  have h : parse "a(1)&b|c()" = .ok t := by
    change (expand "a(1)&b|c()").mapError .parse >>= readExpanded .standard .default = _
    rw [hexpand]
    change readCall .standard ⟨'\\', 128⟩ (128 + 1) 128 "a(1)&b|c()".toList = _
    rw [readCall_succ, hpieces]
    simp only [gather, readBody, hone, hnone]
    rfl
  refine ⟨h, (parse_text h ?_ ?_).1 ⟨by decide, by decide, by decide, ?_⟩⟩
  · intro x hx _
    obtain rfl : x = .ofNat 1 := by simpa [t, Term.leavesAll, Term.leaves] using hx
    decide +kernel
  · intro j hj
    simp [t, Term.leavesAll, Term.leaves] at hj
  · exact noBracket_of_notMem (by decide)

/-- A group joined to a call becomes a call without a name, which is written like a list. -/
theorem parse_text_nameless :
    let t : Call := ⟨"and", [.call "a" [], .call "" [.call "b" []]]⟩
    parse "a()&(b())" = .ok t ∧ ∃ u, parse t.text = .ok u ∧ ¬u.same t := by
  intro t
  have h : parse "a()&(b())" = .ok t := by cbv
  have hu : parse "and(a(),(b()))" = .ok ⟨"and", [.call "a" [], .list [.call "b" []]]⟩ := by cbv
  have ht : t.text = "and(a(),(b()))" := by rfl
  exact ⟨h, _, ht ▸ hu, by decide⟩

end Query

end ResourceQuery
