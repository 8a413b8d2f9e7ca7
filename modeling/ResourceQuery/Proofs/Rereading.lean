import ResourceQuery.Proofs.Gathering
import ResourceQuery.Proofs.Printed

namespace ResourceQuery

open Outcome Shorthand Text

theorem IsName.isStill {name : String} (h : IsName name) : IsStill name.toList where
  sign c hc := (isInert_of_isLeafChar (isLeafChar_of_isWord (h.2 c hc))).sign
  bracket := noBracket_of_isPlain fun c hc => isPlain_of_isWord (h.2 c hc)

theorem isNameChar_of_isLeafChar {c : Char} (h : isLeafChar c) : IsNameChar c := by
  have hand : c ≠ '&' := ne_of_pos_of_neg h (by decide)
  have hor : c ≠ '|' := ne_of_pos_of_neg h (by decide)
  have hi := isInert_of_isLeafChar h
  refine ⟨?_, hi.opening⟩
  rw [Joiner.ofChar?, if_neg (by simp [hand, hi.comma]), if_neg hor]

theorem isNameChar_of_isWord {c : Char} (h : isWord c) : IsNameChar c :=
  isNameChar_of_isLeafChar (isLeafChar_of_isWord h)

theorem IsName.isNameChar {name : String} (h : IsName name) : ∀ c ∈ name.toList, IsNameChar c :=
  fun c hc => isNameChar_of_isWord (h.2 c hc)

namespace TagTable

theorem isComposed_isStill : IsComposed IsStill where
  nil := isStill_nil
  leaf v := ⟨(leafText_writeValue v).not_sign, (leafText_writeValue v).noBracket⟩
  comma hx hy := hx.append_cons hy (by decide) (by decide)
  group hn hx :=
    hn.append_cons (hx.append_cons isStill_nil (by decide) (by decide)) (by decide) (by decide)

end TagTable

namespace Chunk

theorem ofTerm_call {name : String} {args : List Term} (h : IsName name) :
    ofTerm (.call name args) = .text (TagTable.standard.write (.call name args)) := by
  obtain ⟨c, x, hx⟩ := List.exists_cons_of_ne_nil h.1
  have hc : ¬isBlank c :=
    (isInert_of_isLeafChar (isLeafChar_of_isWord (h.2 c (by simp [hx])))).blank
  rw [ofTerm, if_neg (by simp [hx, hc]), TagTable.toList_write_call, hx, List.cons_append,
    List.dropWhile_cons_of_neg hc, ← List.cons_append, ← hx, ← TagTable.toList_write_call,
    String.ofList_toList]

mutual

theorem depth_ofTerm (x : Term) (hn : ∀ n ∈ x.names, IsName n) :
    (ofTerm x).depth = x.listDepth := by
  match x with
  | .call name args =>
      simp only [Term.names, List.mem_cons, forall_eq_or_imp] at hn
      rw [ofTerm_call hn.1, depth, Term.listDepth]
  | .leaf v => rw [ofTerm, depth, Term.listDepth]
  | .list items => rw [ofTerm, depth, Term.listDepth, depthAll_ofTerms items hn]

theorem depthAll_ofTerms (xs : List Term) (hn : ∀ n ∈ Term.namesAll xs, IsName n) :
    depthAll (ofTerms xs) = Term.listDepthAll xs := by
  match xs with
  | [] => rfl
  | x :: xs =>
      simp only [Term.namesAll, List.mem_append, or_imp, forall_and] at hn
      rw [ofTerms, depthAll, Term.listDepthAll, depth_ofTerm x hn.1, depthAll_ofTerms xs hn.2]

end

end Chunk

namespace Query

variable {limit : Nat}

theorem readBody_writeAll (xs : List Term) (hn : ∀ n ∈ Term.namesAll xs, IsUnmarked n)
    (fuel room : Nat) :
    readBody .standard ⟨'\\', limit⟩ fuel room (TagTable.standard.writeAll xs).toList =
      if Chunk.depthAll (Chunk.ofTerms xs) ≤ limit then
        arguments TagTable.standard.read (readCall .standard ⟨'\\', limit⟩ fuel) limit room
          (Chunk.ofTerms xs)
      else .error (.parse (.tooDeep limit)) := by
  rw [readBody, Chunk.ofBody, Chunk.splitFrom_writeAll xs hn]
  split <;> rfl

theorem readCall_write {name : String} {args : List Term} (h : ∀ c ∈ name.toList, IsNameChar c)
    (hn : ∀ n ∈ Term.namesAll args, IsUnmarked n) (fuel room : Nat) :
    readCall .standard ⟨'\\', limit⟩ (fuel + 1) room
        (TagTable.standard.write (.call name args)).toList =
      (readBody .standard ⟨'\\', limit⟩ fuel room (TagTable.standard.writeAll args).toList).map
        fun args => ⟨name, args⟩ := by
  have hc : ')' ≠ '\\' := by decide
  rw [TagTable.toList_write_call, readCall_call h (TagTable.balanced_writeAll args hn).passes hc,
    String.ofList_toList]

variable {f : Value → Value}

mutual

theorem argument_ofTerm (x : Term) (hn : ∀ n ∈ x.names, IsName n)
    (hr : ∀ v ∈ x.leaves, TagTable.standard.read (TagTable.standard.writeValue v) = .ok (f v))
    (hl : x.ListsWithin limit) (fuel room : Nat) (hroom : x.levels ≤ room)
    (hfuel : x.levels ≤ 2 * fuel) :
    argument TagTable.standard.read (readCall .standard ⟨'\\', limit⟩ fuel) limit room
      (Chunk.ofTerm x) = .ok (x.mapLeaves f) := by
  match x with
  | .call name args =>
      simp only [Term.names, List.mem_cons, forall_eq_or_imp] at hn
      rw [Term.levels] at hroom hfuel
      obtain ⟨room, rfl⟩ : ∃ r, room = r + 2 := ⟨room - 2, by omega⟩
      obtain ⟨fuel, rfl⟩ : ∃ k, fuel = k + 1 := ⟨fuel - 1, by omega⟩
      have hstart : startsCall (TagTable.standard.write (.call name args)).toList := by
        rw [TagTable.toList_write_call]
        exact startsCall_of_isWord hn.1.1 hn.1.2
      have hargs := arguments_ofTerms args hn.2 hr hl.2 fuel room (by omega) (by omega)
      rw [Chunk.ofTerm_call hn.1, argument_call hstart,
        readCall_write hn.1.isNameChar fun n h => (hn.2 n h).isUnmarked,
        readBody_writeAll args fun n h => (hn.2 n h).isUnmarked,
        if_pos (Chunk.depthAll_ofTerms args hn.2 ▸ hl.1), hargs]
      rfl
  | .leaf v =>
      have h := hr v (by simp [Term.leaves])
      have hs := startsCall_eq_false (TagTable.leafText_writeValue v).opening_notMem
      rw [Chunk.ofTerm, argument_leaf hs, h]
      rfl
  | .list items =>
      rw [Term.levels] at hroom hfuel
      have hitems := arguments_ofTerms items hn hr hl fuel (room - 1)
        (by split at hroom <;> omega) (by split at hfuel <;> omega)
      rw [Chunk.ofTerm, argument, hitems]
      rfl

theorem arguments_ofTerms (xs : List Term) (hn : ∀ n ∈ Term.namesAll xs, IsName n)
    (hr : ∀ v ∈ Term.leavesAll xs,
      TagTable.standard.read (TagTable.standard.writeValue v) = .ok (f v))
    (hl : Term.AllListsWithin limit xs) (fuel room : Nat) (hroom : Term.levelsAll xs ≤ room)
    (hfuel : Term.levelsAll xs ≤ 2 * fuel) :
    arguments TagTable.standard.read (readCall .standard ⟨'\\', limit⟩ fuel) limit room
      (Chunk.ofTerms xs) = .ok (Term.mapAllLeaves f xs) := by
  match xs with
  | [] => rfl
  | x :: xs =>
      simp only [Term.namesAll, Term.leavesAll, List.mem_append, or_imp, forall_and] at hn hr
      rw [Term.levelsAll] at hroom hfuel
      rw [Chunk.ofTerms, arguments, argument_ofTerm x hn.1 hr.1 hl.1 fuel room (by omega)
        (by omega), ok_bind, arguments_ofTerms xs hn.2 hr.2 hl.2 fuel room (by omega) (by omega)]
      rfl

end

theorem readExpanded_text {t : Call} (h : ∀ c ∈ t.name.toList, IsNameChar c)
    (hn : ∀ n ∈ Term.namesAll t.args, IsName n)
    (hr : ∀ v ∈ Term.leavesAll t.args,
      TagTable.standard.read (TagTable.standard.writeValue v) = .ok (f v))
    (hl : Term.ListsWithin limit t.toTerm) (hm : Term.levelsAll t.args ≤ limit) :
    readExpanded .standard ⟨'\\', limit⟩ t.text = .ok ⟨t.name, Term.mapAllLeaves f t.args⟩ := by
  rw [readExpanded, Call.text, TagTable.writeCall, Call.toTerm,
    readCall_write h fun n hm => (hn n hm).isUnmarked,
    readBody_writeAll t.args fun n h => (hn n h).isUnmarked,
    if_pos (Chunk.depthAll_ofTerms t.args hn ▸ hl.1),
    arguments_ofTerms t.args hn hr hl.2 limit limit hm (by omega)]
  rfl

theorem read_eq_readExpanded {tags : TagTable} {o : Options} {text : String} {c : Char}
    {s : List Char} (ht : text.toList = c :: s) (hc : c ≠ '?') (hs : IsStill text.toList) :
    read tags o text = readExpanded tags o text := by
  unfold read
  rw [ht]
  split
  · contradiction
  · rename_i h
    simp only [List.cons.injEq] at h
    exact absurd h.1 hc
  · rw [expand_eq_self hs]
    rfl

theorem read_text_mapLeaves {t : Call} {m : Nat} (hn : ∀ n ∈ t.toTerm.names, IsName n)
    (hr : ∀ v ∈ t.toTerm.leaves,
      TagTable.standard.read (TagTable.standard.writeValue v) = .ok (f v))
    (hm : 2 * t.toTerm.height ≤ m) :
    read .standard ⟨'\\', m⟩ t.text = .ok ⟨t.name, Term.mapAllLeaves f t.args⟩ := by
  have hstill := TagTable.isComposed_isStill.write t.toTerm fun n h => (hn n h).isStill
  have hlists := @Term.listsWithin_of_height m t.toTerm (by omega)
  have hlevels := Term.levels_le_height t.toTerm
  simp only [Call.toTerm, Term.names, List.mem_cons, forall_eq_or_imp, Term.levels] at hn hlevels hm
  obtain ⟨c, s, hs⟩ := List.exists_cons_of_ne_nil hn.1.1
  have ht : t.text.toList =
      c :: (s ++ ('(' :: (TagTable.standard.writeAll t.args).toList ++ [')'])) := by
    rw [Call.text, TagTable.writeCall, Call.toTerm, TagTable.toList_write_call, hs,
      List.cons_append]
  have hc : c ≠ '?' := by
    rintro rfl
    exact absurd (hn.1.2 '?' (by simp [hs])) (by decide)
  rw [read_eq_readExpanded ht hc hstill]
  exact readExpanded_text hn.1.isNameChar hn.2 hr hlists (by omega)

/-- A printed call is read back as the same call, to the equality that its leaves have. -/
theorem read_text {t : Call} {m : Nat} (hn : ∀ n ∈ t.toTerm.names, IsName n)
    (hm : 2 * t.toTerm.height ≤ m) :
    ((∀ v ∈ t.toTerm.leaves, TagTable.standard.read (TagTable.standard.writeValue v) = .ok v) →
      read .standard ⟨'\\', m⟩ t.text = .ok t) ∧
    ((∀ v ∈ t.toTerm.leaves,
        ∃ w, TagTable.standard.read (TagTable.standard.writeValue v) = .ok w ∧ w.same v) →
      ∃ u, read .standard ⟨'\\', m⟩ t.text = .ok u ∧ u.same t) := by
  constructor
  · intro hr
    rw [read_text_mapLeaves (f := id) hn hr hm,
      Term.mapAllLeaves_eq_self (f := id) t.args fun _ _ => rfl]
  · intro hr
    let f (v : Value) : Value :=
      ((TagTable.standard.read (TagTable.standard.writeValue v)).toOption).getD v
    have hf : ∀ v ∈ t.toTerm.leaves,
        TagTable.standard.read (TagTable.standard.writeValue v) = .ok (f v) ∧ (f v).same v := by
      intro v hv
      obtain ⟨w, hw, hs⟩ := hr v hv
      have hfv : f v = w := by simp only [f, hw, Except.toOption, Option.getD_some]
      exact ⟨hfv ▸ hw, hfv ▸ hs⟩
    refine ⟨_, read_text_mapLeaves hn (fun v hv => (hf v hv).1) hm, ?_⟩
    simpa [Call.same, Call.toTerm, Term.same] using
      Term.mapAllLeaves_same t.args fun v hv => (hf v hv).2

theorem read_text_nested :
    let t : Call := ⟨"f", [.list [], .list [.list [.leaf (.string "a b")], .call "g" []]]⟩
    read .standard ⟨'\\', 6⟩ t.text = .ok t := by
  refine (read_text (by decide) (by decide)).1 ?_
  intro v hv
  obtain rfl : v = .string "a b" := by
    simpa [Call.toTerm, Term.leaves, Term.leavesAll] using hv
  exact TagTable.read_writeValue_string "a b"

end Query

end ResourceQuery
