import ResourceQuery.Proofs.Provenance
import ResourceQuery.Proofs.Tidying

namespace ResourceQuery

open Outcome Text

namespace Query

/-- The arguments that come up while a text is read: those in its groups, and those in the
arguments that show to be calls. -/
inductive ArgumentOf (o : Options) : List Char → Sourced → Prop
  | group {s b : List Char} {as : List Sourced} {a : Sourced}
      (hb : .group b ∈ Piece.ofText o.escape s)
      (has : Sourced.ofBody o.escape o.maxDepth b = .ok as) (ha : Sourced.Within a as) :
      ArgumentOf o s a
  | embedded {s x : List Char} {u : String} {a : Sourced} (hu : ArgumentOf o s (.text x u))
      (hs : startsCall u.toList) (ha : ArgumentOf o u.toList a) : ArgumentOf o s a

/-- Reads an argument with all the room there is. -/
def readArgument (tags : TagTable) (o : Options) : Chunk → Except Fault Term :=
  argument tags.read (readCall tags o o.maxDepth) o.maxDepth o.maxDepth

variable {tags : TagTable} {o : Options}

theorem upTo_readArgument {fuel room : Nat} (hf : fuel ≤ o.maxDepth) (hr : room ≤ o.maxDepth)
    (c : Chunk) : UpTo (.parse (.tooDeep o.maxDepth))
      (argument tags.read (readCall tags o fuel) o.maxDepth room c) (readArgument tags o c) :=
  upTo_argument hr (fun _ _ s h _ => upTo_readCall (Nat.le_refl _) (.inl hf) h s) c

theorem forall₂_of_arguments {fuel room : Nat} {cs : List Chunk} {ts : List Term}
    (hf : fuel ≤ o.maxDepth) (hr : room ≤ o.maxDepth)
    (h : arguments tags.read (readCall tags o fuel) o.maxDepth room cs = .ok ts) :
    List.Forall₂ (fun c t => readArgument tags o c = .ok t) cs ts := by
  induction cs generalizing ts with
  | nil =>
      rw [arguments, pure_eq, Except.ok.injEq] at h
      exact h ▸ .nil
  | cons c cs ih =>
      rw [arguments] at h
      obtain ⟨t, ht, h⟩ := bind_eq_ok.1 h
      obtain ⟨ts, hts, h⟩ := bind_eq_ok.1 h
      rw [pure_eq, Except.ok.injEq] at h
      exact h ▸ .cons ((upTo_readArgument hf hr c).eq_ok ht) (ih hts)

theorem forall₂_of_readArgument_list {cs : List Chunk} {t : Term}
    (h : readArgument tags o (.list cs) = .ok t) :
    ∃ ts, t = .list ts ∧ List.Forall₂ (fun c t => readArgument tags o c = .ok t) cs ts := by
  rw [readArgument, argument] at h
  obtain ⟨ts, hts, h⟩ := bind_eq_ok.1 h
  rw [pure_eq, Except.ok.injEq] at h
  exact ⟨ts, h.symm, forall₂_of_arguments (Nat.le_refl _) (Nat.sub_le _ _) hts⟩

theorem readExpanded_of_readArgument {s : String} {t : Term} (hs : startsCall s.toList)
    (h : readArgument tags o (.text s) = .ok t) :
    ∃ d, readExpanded tags o s = .ok d ∧ t = d.toTerm := by
  rw [readArgument] at h
  by_cases hr : o.maxDepth < 2
  · simp [argument_tooDeep hs hr] at h
  · obtain ⟨r, hr⟩ : ∃ r, o.maxDepth = r + 2 := ⟨o.maxDepth - 2, by omega⟩
    have ha := @argument_call tags.read (readCall tags o o.maxDepth) o.maxDepth r s hs
    rw [← hr, h] at ha
    obtain ⟨d, hd, rfl⟩ := map_eq_ok.1 ha.symm
    have hup : UpTo _ (readCall tags o o.maxDepth r s.toList) (readExpanded tags o s) :=
      upTo_readCall (Nat.le_refl _) (.inl (Nat.le_succ _)) (by omega) s.toList
    exact ⟨d, hup.eq_ok hd, rfl⟩

theorem exists_of_within {as : List Sourced} {ts : List Term} {a : Sourced}
    (h : List.Forall₂ (fun c t => readArgument tags o c = .ok t) (Sourced.chunks as) ts)
    (ha : Sourced.Within a as) : ∃ t, readArgument tags o a.chunk = .ok t := by
  induction ha generalizing ts with
  | here ha => exact exists_of_forall₂ h _ (Sourced.chunk_mem_chunks ha)
  | inside ha hi ih =>
      obtain ⟨t, ht⟩ := exists_of_forall₂ h _ (Sourced.chunk_mem_chunks ha)
      obtain ⟨ts, -, hts⟩ := forall₂_of_readArgument_list ht
      exact ih hts

theorem exists_of_argumentOf {s : List Char} {a : Sourced} {c : Call} (ha : ArgumentOf o s a)
    (h : readExpanded tags o (String.ofList s) = .ok c) :
    ∃ t, readArgument tags o a.chunk = .ok t := by
  induction ha generalizing c with
  | group hb has ha =>
      rw [readExpanded, String.toList_ofList, readCall_succ] at h
      obtain ⟨r, hr, args, hargs⟩ := (exists_of_gather h).2 _ hb
      rw [readBody] at hargs
      obtain ⟨cs, hcs, hargs⟩ := bind_eq_ok.1 hargs
      obtain ⟨as', has', rfl⟩ := Sourced.chunks_of_ofBody (mapError_eq_ok.1 hcs)
      obtain rfl := Except.ok.inj (has.symm.trans has')
      exact exists_of_within (forall₂_of_arguments (Nat.le_refl _) hr hargs) ha
  | embedded hu hs ha ihu iha =>
      obtain ⟨t, ht⟩ := ihu h
      obtain ⟨d, hd, -⟩ := readExpanded_of_readArgument hs ht
      exact iha (by rwa [String.ofList_toList])

theorem asWritten_of_argumentOf {s : List Char} {a : Sourced} (he : ¬isBlank o.escape)
    (ha : ArgumentOf o s a) : Sourced.AsWritten o.escape a := by
  induction ha with
  | group hb has ha => exact Sourced.asWritten_of_splitFrom he .empty has _ ha
  | embedded hu hs ha ihu iha => exact iha

/-- What stands before the first parenthesis of an argument, blanks apart, says what it is: a list
where there is nothing, a call where there is a word, and else no more than its text. -/
theorem readArgument_of_opening {text : String} {c : Call} {a : Sourced} {u : List Char}
    (he : ¬isBlank o.escape) (h : readExpanded tags o text = .ok c)
    (ha : ArgumentOf o text.toList a)
    (hu : Quoting.beforeOpening? o.escape .plain a.source = some u) :
    ∃ t, readArgument tags o a.chunk = .ok t ∧
      ((∀ c ∈ u, isBlank c) ∧ (∃ items, t = .list items) ∨
        (∃ c ∈ u, ¬isBlank c) ∧ ∃ s, a.chunk = .text s ∧
          (startsCall s.toList = true → ∃ d, readExpanded tags o s = .ok d ∧ t = d.toTerm) ∧
          (startsCall s.toList = false → ∃ v, tags.read s = .ok v ∧ t = .leaf v) ∧
          (Quoting.IsUnquoted o.escape u →
            (startsCall s.toList ↔ ∀ c ∈ u.dropWhile isBlank, isWord c))) := by
  obtain ⟨t, ht⟩ := exists_of_argumentOf ha (by rwa [String.ofList_toList])
  have hw := asWritten_of_argumentOf he ha
  refine ⟨t, ht, ?_⟩
  cases a with
  | list x items =>
      obtain ⟨v, hv, hb⟩ := hw
      obtain rfl := Option.some.inj (hv.symm.trans hu)
      obtain ⟨ts, rfl, -⟩ := forall₂_of_readArgument_list ht
      exact .inl ⟨hb, ts, rfl⟩
  | text x s =>
      obtain ⟨hn, hq⟩ := hw u hu
      refine .inr ⟨hn, s, rfl, fun hs => readExpanded_of_readArgument hs ht, fun hs => ?_, ?_⟩
      · rw [Sourced.chunk, readArgument, argument_leaf hs, map_eq_ok] at ht
        obtain ⟨v, hv, rfl⟩ := ht
        exact ⟨v, hv, rfl⟩
      · intro hquote
        obtain ⟨r, hr⟩ := hq hquote
        have ho := hquote.opening_notMem (Quoting.beforeOpening?_self hu).1
        have hd : '(' ∉ u.dropWhile isBlank := fun hm => ho ((List.dropWhile_sublist _).mem hm)
        rw [hr]
        exact ⟨fun hs => (isWord_of_startsCall hd hs).2,
          startsCall_of_isWord (dropWhile_isBlank_ne_nil hn)⟩

section

private theorem pieces_joined :
    Piece.ofText '\\' "f(a&b(c))".toList = [.char 'f', .group "a&b(c)".toList] := by cbv

private theorem sourced_joined :
    Sourced.ofBody '\\' 128 "a&b(c)".toList = .ok [.text "a&b(c)".toList "a&b(c)"] := by cbv

private theorem readExpanded_joined :
    readExpanded .standard .default "f(a&b(c))" = .ok ⟨"f", [.leaf (.string "a&b(c)")]⟩ := by
  have hc : Chunk.ofBody '\\' 128 "a&b(c)".toList = .ok [.text "a&b(c)"] := by cbv
  change readCall .standard ⟨'\\', 128⟩ (128 + 1) 128 "f(a&b(c))".toList = _
  rw [readCall_succ, pieces_joined]
  simp only [gather, readBody, hc]
  rfl

/-- The parenthesis of the call in `f(a&b(c))` is neither escaped nor quoted, and the call is left
as text. -/
theorem readExpanded_embedded_unread :
    Sourced.ofBody '\\' 128 "a&b(c)".toList = .ok [.text "a&b(c)".toList "a&b(c)"] ∧
    Quoting.beforeOpening? '\\' .plain "a&b(c)".toList = some "a&b".toList ∧
    readExpanded .standard .default "f(a&b(c))" = .ok ⟨"f", [.leaf (.string "a&b(c)")]⟩ := by
  refine ⟨sourced_joined, ?_, readExpanded_joined⟩
  cbv

theorem readArgument_of_opening_joined :
    ArgumentOf .default "f(a&b(c))".toList (.text "a&b(c)".toList "a&b(c)") ∧
    Quoting.beforeOpening? '\\' .plain "a&b(c)".toList = some "a&b".toList ∧
    ∃ v, TagTable.standard.read "a&b(c)" = .ok v ∧
      readArgument .standard .default (.text "a&b(c)") = .ok (.leaf v) := by
  have hb : Piece.group "a&b(c)".toList ∈
      Piece.ofText Options.default.escape "f(a&b(c))".toList := by
    rw [show Options.default.escape = '\\' from rfl, pieces_joined]
    simp
  have ha : ArgumentOf .default "f(a&b(c))".toList (.text "a&b(c)".toList "a&b(c)") :=
    .group hb sourced_joined (.here List.mem_cons_self)
  have hu : Quoting.beforeOpening? '\\' .plain "a&b(c)".toList = some "a&b".toList := by cbv
  have hs : startsCall "a&b(c)".toList = false := by cbv
  obtain ⟨t, ht, ⟨hblank, -⟩ | ⟨-, s, hs', -, hleaf, -⟩⟩ :=
    @readArgument_of_opening .standard .default _ _ _ _ (by decide) readExpanded_joined ha hu
  · exact absurd (hblank 'a' (by simp)) (by decide)
  · obtain rfl := Chunk.text.inj hs'
    obtain ⟨v, hv, rfl⟩ := hleaf hs
    exact ⟨ha, hu, v, hv, ht⟩

end

end Query

end ResourceQuery
