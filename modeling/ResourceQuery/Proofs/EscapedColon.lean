import Mathlib
import ResourceQuery.Proofs.LeafRoundTrip
import ResourceQuery.Proofs.Literal
import ResourceQuery.Proofs.Printed

namespace ResourceQuery

open Outcome Text

namespace Leaf

theorem quoted?_eq_none {s : List Char} (h : '\'' ∉ s) : quoted? s = none := by
  cases hq : quoted? s with
  | none => rfl
  | some content =>
      rw [quoted?_eq_some hq] at h
      simp at h

theorem decoded_eq_self {s : String} (h : '%' ∉ s.toList) : decoded s = .ok s := by
  have hd : Percent.decode? s = some s := by
    apply Percent.decode?_eq_self
    rintro c hc rfl
    exact h hc
  rw [decoded, hd]

theorem auto_of_colon {s : String} (hc : ':' ∈ s.toList) (hp : '%' ∉ s.toList)
    (hq : '\'' ∉ s.toList) : auto s = .ok (.string s) := by
  have hw : word? s = none := word?_eq_none_of_mem (by decide) hc
  have hn : Numeral.read? s.toList = none := Numeral.read?_eq_none_of_mem (by decide) hc
  simp only [auto, hw, hn, decoded_eq_self hp, ok_bind, quoted?_eq_none hq, pure_eq]

theorem auto_eq_string {s t : String} (hp : '%' ∉ s.toList) (hq : '\'' ∉ s.toList)
    (h : auto s = .ok (.string t)) : t = s := by
  have decode {u : String} (hd : Percent.decode? s = some u) : u = s := by
    rw [Percent.decode?_eq_self (by rintro c hc rfl; exact hp hc)] at hd
    exact (Option.some.inj hd).symm
  cases isAuto_of_auto h with
  | word hw => exact absurd hw word?_ne_string
  | string _ _ hd _ => exact decode hd
  | quoted hd hc _ =>
      rw [decode hd, quoted?_eq_none hq] at hc
      simp at hc

theorem date_ne_string {text t : String} : date text ≠ .ok (.string t) := by
  unfold date
  split <;> simp

theorem pattern_ne_string {caseSensitive : Bool} {text t : String} :
    pattern caseSensitive text ≠ .ok (.string t) := by
  intro h
  obtain ⟨source, -, h⟩ := bind_eq_ok.1 h
  split at h <;> simp at h

end Leaf

namespace TagTable

variable {tag rest : List Char}

theorem splitTag_eq_none {c : Char} (hw : ∀ c ∈ tag, isWord c) (hc : ¬isWord c) (hne : c ≠ ':') :
    splitTag (tag ++ c :: rest) = none := by
  have ht : (tag ++ c :: rest).takeWhile isWord = tag := by
    rw [List.takeWhile_append_of_pos hw, List.takeWhile_cons_of_neg hc, List.append_nil]
  simp only [splitTag, ht, List.drop_left]
  split
  · rename_i hd
    exact absurd (List.cons.inj hd).1 hne
  · rfl

theorem unescapeColons_escaped (ht : '\\' ∉ tag) (hr : '\\' ∉ rest) :
    unescapeColons (tag ++ '\\' :: ':' :: rest) = String.ofList (tag ++ ':' :: rest) := by
  have hc : replace ['\\', ':'] [':'] ('\\' :: ':' :: rest) = ':' :: rest := by
    rw [replace_cons_of_append (t := rest) (by simp) rfl,
      replace_eq_of_absent fun hi => hr (hi.subset (by simp))]
    rfl
  rw [unescapeColons, replace_append_of_notMem ht, hc]

theorem eq_of_mem_standard {name text t : String} {r : Leaf.Reader}
    (h : (name, r) ∈ standard.entries) (hp : '%' ∉ text.toList) (hq : '\'' ∉ text.toList)
    (hr : r text = .ok (.string t)) : t = text := by
  simp only [standard, List.mem_cons, List.not_mem_nil, or_false, Prod.mk.injEq] at h
  rcases h with ⟨-, rfl⟩ | ⟨-, rfl⟩ | ⟨-, rfl⟩ | ⟨-, rfl⟩ | ⟨-, rfl⟩ | ⟨-, rfl⟩ | ⟨-, rfl⟩ |
    ⟨-, rfl⟩ | ⟨-, rfl⟩ | ⟨-, rfl⟩ | ⟨-, rfl⟩
  · simp [Leaf.number, map_eq_ok] at hr
  · unfold Leaf.epoch at hr
    simp only at hr
    split at hr <;> simp at hr
  · exact absurd hr Leaf.date_ne_string
  · exact absurd hr Leaf.date_ne_string
  · simp [Leaf.boolean] at hr
  · rw [Leaf.string, Leaf.decoded_eq_self hp] at hr
    simpa [Except.map, eq_comm] using hr
  · exact absurd hr Leaf.pattern_ne_string
  · exact absurd hr Leaf.pattern_ne_string
  · obtain ⟨s, -, hr⟩ := bind_eq_ok.1 hr
    split at hr <;> simp at hr
  · exact Leaf.auto_eq_string hp hq hr
  · exact Leaf.auto_eq_string hp hq hr

end TagTable

/-- The characters of a text that needs neither quotes nor escapes after a colon. -/
def IsTail (s : List Char) : Prop := ∀ c ∈ s, isWord c ∨ c = '.' ∨ c = '-'

instance (s : List Char) : Decidable (IsTail s) := by
  unfold IsTail
  infer_instance

theorem IsTail.isPlain {s : List Char} (h : IsTail s) : ∀ c ∈ s, Percent.isPlain c := by
  intro c hc
  rcases h c hc with hw | rfl | rfl
  · exact isPlain_of_isWord hw
  · rfl
  · rfl

theorem leafText_colon {tag rest : List Char} (ht : ∀ c ∈ tag, Percent.isPlain c)
    (hr : ∀ c ∈ rest, Percent.isPlain c) : LeafText (tag ++ ':' :: rest) := by
  refine .bare (by simp) ?_ ((noBracket_of_isPlain ht).append_cons (by decide)
    (noBracket_of_isPlain hr))
  intro c hc
  rcases List.mem_append.1 hc with hc | hc
  · exact isLeafChar_of_isPlain (ht c hc)
  · rcases List.mem_cons.1 hc with rfl | hc
    · rfl
    · exact isLeafChar_of_isPlain (hr c hc)

theorem passes_escapedColon {tag rest : List Char} (ht : ∀ c ∈ tag, Percent.isPlain c)
    (hr : ∀ c ∈ rest, Percent.isPlain c) :
    Group.Passes '\\' (tag ++ '\\' :: ':' :: rest) (tag ++ ':' :: rest) := by
  have hw := balanced_of_leafChars fun c hc => isLeafChar_of_isPlain (ht c hc)
  have hs := balanced_of_leafChars fun c hc => isLeafChar_of_isPlain (hr c hc)
  exact hw.passes.append ((Group.passes_escaped ':').append hs.passes)

theorem Chunk.ofBody_escapedColon {tag rest : List Char} (hne : tag ≠ [])
    (ht : ∀ c ∈ tag, Percent.isPlain c) (hr : ∀ c ∈ rest, Percent.isPlain c) (limit : Nat) :
    ofBody '\\' limit (tag ++ '\\' :: ':' :: rest) =
      .ok [.text (String.ofList (tag ++ ':' :: rest))] := by
  have hbare := (leafText_colon ht hr).bare_eq
  obtain ⟨c, tag, rfl⟩ := List.exists_cons_of_ne_nil hne
  have hc := isInert_of_isLeafChar (isLeafChar_of_isPlain (ht c List.mem_cons_self))
  have hk := kept_of_leafChars fun d hd => isLeafChar_of_isPlain (ht d (List.mem_cons_of_mem c hd))
  have hend := kept_of_leafChars fun d hd => isLeafChar_of_isPlain (hr d hd)
  have hcolon : splitFrom '\\' limit limit .plain (c :: tag).reverse ('\\' :: ':' :: rest) =
      splitFrom '\\' limit limit .plain (':' :: (c :: tag).reverse) rest :=
    splitFrom_escaped ':' _ rest
  have hrest := hend limit limit (':' :: (c :: tag).reverse) [] (by simp)
  have hread : (rest.reverse ++ ':' :: (c :: tag).reverse).reverse = c :: tag ++ ':' :: rest := by
    simp
  have hempty : (rest.reverse ++ ':' :: (c :: tag).reverse).isEmpty = false := by simp
  rw [List.append_nil] at hrest
  rw [ofBody, splitFrom_kept hc.mark hc.quote hc.opening hc.comma hc.blank hk, hcolon, hrest,
    splitFrom, hempty, hread, hbare]
  rfl

namespace TagTable

theorem read_colon (t : TagTable) {tag rest : String} (hw : IsName tag) (hr : IsTail rest.toList) :
    t.read (tag ++ ":" ++ rest) = ((t.get? tag).elim (.error (.parse (.unknownTag tag)))
      fun read => (read rest).mapError .conversion) := by
  have hs : splitTag (tag ++ ":" ++ rest).toList = some (tag.toList, rest.toList) := by
    simpa using @splitTag_append tag.toList rest.toList hw.2 hw.1
  have hb : '\\' ∉ rest.toList := fun h => absurd (hr.isPlain _ h) (by decide)
  rw [read, hs]
  simp only [String.ofList_toList, unescapeColons_eq hb]
  cases t.get? tag <;> rfl

theorem read_escapedColon {tag rest : String} (hw : IsName tag) (hr : IsTail rest.toList) :
    standard.read (tag ++ "\\:" ++ rest) = .ok (.string (tag ++ ":" ++ rest)) := by
  have ht : ∀ c ∈ tag.toList, Percent.isPlain c := fun c hc => isPlain_of_isWord (hw.2 c hc)
  have hs : splitTag (tag ++ "\\:" ++ rest).toList = none := by
    simpa using @splitTag_eq_none tag.toList (':' :: rest.toList) '\\' hw.2 (by decide)
      (by decide)
  have hu : unescapeColons (tag ++ "\\:" ++ rest).toList = tag ++ ":" ++ rest := by
    have h := unescapeColons_escaped (fun h => absurd (ht _ h) (by decide))
      fun h => absurd (hr.isPlain _ h) (by decide)
    simpa [String.ext_iff] using h
  have notMem {c : Char} (hc : ¬Percent.isPlain c) (hne : c ≠ ':') :
      c ∉ (tag ++ ":" ++ rest).toList := by
    intro h
    simp only [String.toList_append, List.mem_append] at h
    rcases h with (h | h) | h
    · exact hc (ht c h)
    · exact hne (List.mem_singleton.1 h)
    · exact hc (hr.isPlain c h)
  rw [read, hs, hu, standard_auto, Leaf.auto_of_colon (by simp) (notMem (by decide) (by decide))
    (notMem (by decide) (by decide))]
  rfl

theorem read_colon_ne {tag rest : String} (hw : IsName tag) (hr : IsTail rest.toList) :
    standard.read (tag ++ ":" ++ rest) ≠ .ok (.string (tag ++ ":" ++ rest)) := by
  intro h
  rw [read_colon standard hw hr] at h
  cases hg : standard.get? tag with
  | none => simp [hg] at h
  | some read =>
      rw [hg, Option.elim_some, mapError_eq_ok] at h
      obtain ⟨tag', hm⟩ := exists_mem_of_get? hg
      have he := eq_of_mem_standard hm (fun h => absurd (hr.isPlain _ h) (by decide))
        (fun h => absurd (hr.isPlain _ h) (by decide)) h
      have hl := congrArg (fun s => s.toList.length) he
      simp only [String.toList_append, List.length_append] at hl
      have : 0 < ":".toList.length := by decide
      omega

end TagTable

namespace Query

theorem readExpanded_colon_eq {tag rest : String} (hw : IsName tag) (hr : IsTail rest.toList) :
    readExpanded .standard .default ("f(" ++ tag ++ "\\:" ++ rest ++ ")") =
      (TagTable.standard.read (tag ++ ":" ++ rest)).map fun v => ⟨"f", [.leaf v]⟩ := by
  have ht : ∀ c ∈ tag.toList, Percent.isPlain c := fun c hc => isPlain_of_isWord (hw.2 c hc)
  have hp := passes_escapedColon ht hr.isPlain
  have hs : startsCall (tag ++ ":" ++ rest).toList = false := by
    apply startsCall_eq_false
    simpa using (leafText_colon ht hr.isPlain).opening_notMem
  have hb : readBody .standard .default 128 128 (tag.toList ++ '\\' :: ':' :: rest.toList) =
      (TagTable.standard.read (tag ++ ":" ++ rest)).map fun v => [.leaf v] := by
    have hc := Chunk.ofBody_escapedColon hw.1 ht hr.isPlain 128
    have hl : String.ofList (tag.toList ++ ':' :: rest.toList) = tag ++ ":" ++ rest := by
      simp [String.ext_iff]
    have hm : Chunk.ofBody Options.default.escape Options.default.maxDepth
        (tag.toList ++ '\\' :: ':' :: rest.toList) = .ok [.text (tag ++ ":" ++ rest)] :=
      hl ▸ hc
    rw [readBody, hm]
    refine (arguments_singleton _).trans ?_
    rw [argument_leaf hs]
    cases TagTable.standard.read (tag ++ ":" ++ rest) <;> rfl
  have hq : ("f(" ++ tag ++ "\\:" ++ rest ++ ")").toList =
      ['f'] ++ ('(' :: (tag.toList ++ '\\' :: ':' :: rest.toList) ++ [')']) := by
    simp
  rw [readExpanded, hq]
  refine (readCall_call (o := .default) (by decide) hp (by decide)).trans ?_
  refine (congrArg _ hb).trans ?_
  cases TagTable.standard.read (tag ++ ":" ++ rest) <;> rfl

/-- An escaped colon ends a tag as a plain one does, since its escape is gone before the tag is
looked for. It ends none in the text of a leaf on its own. -/
theorem readExpanded_escapedColon {tag rest : String} (hw : IsName tag) (hr : IsTail rest.toList) :
    readExpanded .standard .default ("f(" ++ tag ++ "\\:" ++ rest ++ ")") =
      (TagTable.standard.read (tag ++ ":" ++ rest)).map (fun v => ⟨"f", [.leaf v]⟩) ∧
    TagTable.standard.read (tag ++ ":" ++ rest) =
      ((TagTable.standard.get? tag).elim (.error (.parse (.unknownTag tag)))
        fun read => (read rest).mapError .conversion) ∧
    TagTable.standard.read (tag ++ "\\:" ++ rest) = .ok (.string (tag ++ ":" ++ rest)) ∧
    readExpanded .standard .default ("f(" ++ tag ++ "\\:" ++ rest ++ ")") ≠
      .ok ⟨"f", [.leaf (.string (tag ++ ":" ++ rest))]⟩ := by
  refine ⟨readExpanded_colon_eq hw hr, TagTable.read_colon .standard hw hr,
    TagTable.read_escapedColon hw hr, fun h => ?_⟩
  rw [readExpanded_colon_eq hw hr, map_eq_ok] at h
  obtain ⟨v, hv, h⟩ := h
  simp only [Call.mk.injEq, List.cons.injEq, Term.leaf.injEq, and_true, true_and] at h
  exact TagTable.read_colon_ne hw hr (h ▸ hv)

theorem readExpanded_escapedColon_string :
    readExpanded .standard .default "f(string\\:b)" = .ok ⟨"f", [.leaf (.string "b")]⟩ ∧
      TagTable.standard.read "string\\:b" = .ok (.string "string:b") := by
  have h := @readExpanded_escapedColon "string" "b" (by decide) (by decide)
  have hread : TagTable.standard.read "string:b" = .ok (.string "b") := by cbv
  exact ⟨h.1.trans (congrArg _ hread), h.2.2.1⟩

theorem readExpanded_escapedColon_unknown :
    IsName "a" ∧ IsTail "b".toList ∧
      readExpanded .standard .default "f(a\\:b)" = .error (.parse (.unknownTag "a")) := by
  refine ⟨by decide, by decide, ?_⟩
  cbv

end Query

end ResourceQuery
