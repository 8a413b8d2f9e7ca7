import ResourceQuery.Printing
import ResourceQuery.Proofs.Coding
import ResourceQuery.Proofs.NumeralText
import ResourceQuery.Proofs.Quotation
import ResourceQuery.Proofs.Replacing

namespace ResourceQuery

open Outcome

namespace Leaf

theorem quoted?_eq_some {s content : List Char} (h : quoted? s = some content) :
    s = '\'' :: content ++ ['\''] := by
  unfold quoted? at h
  split at h
  · rename_i s
    split at h
    · rename_i hl
      obtain ⟨t, rfl⟩ := List.getLast?_eq_some_iff.1 hl
      rw [Option.some.injEq, List.dropLast_concat] at h
      rw [h, List.cons_append]
    · simp at h
  · simp at h

def IsUntagged : Value → Prop
  | .null | .undefined | .boolean _ | .number _ | .string _ => True
  | .date _ | .pattern _ | .json _ => False

theorem word?_ne_string {text s : String} : word? text ≠ some (.string s) := by
  unfold word?
  split <;> simp

theorem isUntagged_of_word? {text : String} {v : Value} (h : word? text = some v) :
    IsUntagged v := by
  unfold word? at h
  split at h <;> simp only [Option.some.injEq, reduceCtorEq] at h <;> subst h <;> trivial

/-- The ways in which a text without tag is read. -/
inductive IsAuto (text : String) : Value → Prop
  | word {v : Value} (h : word? text = some v) : IsAuto text v
  | number {x : Binary64} (h : Numeral.read? text.toList = some x) : IsAuto text (.number x)
  | string {s : String} (hw : word? text = none) (hn : Numeral.read? text.toList = none)
      (hd : Percent.decode? text = some s) (hq : quoted? s.toList = none) : IsAuto text (.string s)
  | quoted {s t : String} {content : List Char} (hd : Percent.decode? text = some s)
      (hq : quoted? s.toList = some content) (ht : Json.readQuoted content = .ok t) :
      IsAuto text (.string t)

theorem decoded_eq_ok {text s : String} (h : decoded text = .ok s) :
    Percent.decode? text = some s := by
  unfold decoded at h
  split at h
  · rename_i t ht
    rw [ht, Except.ok.inj h]
  · simp at h

theorem isAuto_of_auto {text : String} {v : Value} (h : auto text = .ok v) : IsAuto text v := by
  unfold auto at h
  split at h
  · rename_i w hw
    exact .word (Except.ok.inj h ▸ hw)
  · rename_i hw
    split at h
    · rename_i x hx
      exact Except.ok.inj h ▸ .number hx
    · rename_i hn
      obtain ⟨s, hs, h⟩ := bind_eq_ok.1 h
      have hd := decoded_eq_ok hs
      split at h
      · rename_i hq
        exact Except.ok.inj h ▸ .string hw hn hd hq
      · rename_i content hq
        split at h
        · rename_i t ht
          exact Except.ok.inj h ▸ .quoted hd hq ht
        · simp at h

theorem isUntagged_of_auto {text : String} {v : Value} (h : auto text = .ok v) :
    IsUntagged v := by
  cases isAuto_of_auto h with
  | word hw => exact isUntagged_of_word? hw
  | number | string | quoted => trivial

theorem readQuoted_ne_ok {s text : String} {content : List Char}
    (hd : Percent.decode? text = some s) (hq : quoted? s.toList = some content) :
    Json.readQuoted content ≠ .ok text := by
  intro ht
  have hshort := Json.readQuoted_size ht
  have hlong : Json.size s.toList ≤ Json.size text.toList := by
    have := Percent.length_bytes_le text.toList
    rwa [Percent.decode?_eq_some_iff.1 hd] at this
  have hquote : Char.utf8Size '\'' = 1 := by decide
  rw [quoted?_eq_some hq] at hlong
  simp only [List.cons_append, Json.size_cons, Json.size_append, Json.size_nil, hquote] at hlong
  omega

/-- A text reads as itself only by way of its decoding. -/
theorem auto_eq_self {s : String} (h : auto s = .ok (.string s)) :
    word? s = none ∧ Numeral.read? s.toList = none ∧ Percent.decode? s = some s ∧
      quoted? s.toList = none := by
  cases isAuto_of_auto h with
  | word hw => exact absurd hw word?_ne_string
  | string hw hn hd hq => exact ⟨hw, hn, hd, hq⟩
  | quoted hd hq ht => exact absurd ht (readQuoted_ne_ok hd hq)

theorem word?_eq_none_of_mem {s : String} {c : Char} (hc : ¬Numeral.isMark c)
    (h : c ∈ s.toList) : word? s = none := by
  have absent {w : List Char} (hw : ∀ d ∈ w, Numeral.isMark d) (h : c ∈ w) : False := hc (hw c h)
  unfold word?
  split
  all_goals first
    | rfl
    | exact (absent (by decide) h).elim

theorem auto_encode {s : String} (h : auto s = .ok (.string s)) :
    auto (Percent.encode s) = .ok (.string s) := by
  obtain ⟨-, -, -, hq⟩ := auto_eq_self h
  by_cases hp : ∀ c ∈ s.toList, Percent.isPlain c
  · rw [Percent.encode_eq_self hp, h]
  · have hpc : '%' ∈ (Percent.encode s).toList := by
      refine Decidable.by_contra fun hno => hp ?_
      have he := Percent.decode?_encode s
      rw [Percent.decode?_eq_self (fun c hc e => hno (e ▸ hc)), Option.some.injEq] at he
      intro c hc
      rw [← he] at hc
      exact (Percent.isPlain_or_percent_of_mem_encode hc).resolve_right fun e => hno (e ▸ hc)
    have hw : word? (Percent.encode s) = none := word?_eq_none_of_mem (by decide) hpc
    have hn : Numeral.read? (Percent.encode s).toList = none :=
      Numeral.read?_eq_none_of_mem (by decide) hpc
    simp only [auto, hw, hn, decoded, Percent.decode?_encode, ok_bind, hq, pure_eq]

end Leaf

namespace TagTable

theorem standard_auto : standard.auto = Leaf.auto := rfl

theorem unescapeColons_eq {s : List Char} (h : '\\' ∉ s) : unescapeColons s = String.ofList s := by
  rw [unescapeColons, Text.replace_eq_of_absent fun hi => h (hi.subset (by simp))]

theorem read_untagged {t : TagTable} {text : String} (hc : ':' ∉ text.toList)
    (hb : '\\' ∉ text.toList) : t.read text = (t.auto text).mapError .conversion := by
  have hs : splitTag text.toList = none := by
    simp only [splitTag]
    split
    · rename_i hd
      exact absurd (List.mem_of_mem_drop (hd ▸ List.mem_cons_self)) hc
    · rfl
  rw [read, hs]
  simp only [unescapeColons_eq hb, String.ofList_toList]

theorem splitTag_append {tag rest : List Char} (hw : ∀ c ∈ tag, Text.isWord c) (hne : tag ≠ []) :
    splitTag (tag ++ ':' :: rest) = some (tag, rest) := by
  have ht : (tag ++ ':' :: rest).takeWhile Text.isWord = tag := by
    rw [List.takeWhile_append_of_pos hw, List.takeWhile_cons_of_neg (by decide), List.append_nil]
  simp only [splitTag, ht, List.drop_left]
  cases tag with
  | nil => exact absurd rfl hne
  | cons c tag => rfl

theorem read_tagged {t : TagTable} {tag text : String} {r : Leaf.Reader}
    (hw : ∀ c ∈ tag.toList, Text.isWord c) (hne : tag.toList ≠ []) (hr : t.get? tag = some r)
    (hb : '\\' ∉ text.toList) : t.read (tag ++ ":" ++ text) = (r text).mapError .conversion := by
  have hs : splitTag (tag ++ ":" ++ text).toList = some (tag.toList, text.toList) := by
    rw [String.toList_append, String.toList_append]
    simpa using splitTag_append hw hne
  rw [read, hs]
  simp only [String.ofList_toList, hr, unescapeColons_eq hb]

theorem colon_notMem_encode (s : String) : ':' ∉ (Percent.encode s).toList := fun h =>
  (Percent.isPlain_or_percent_of_mem_encode h).elim (by decide) (by decide)

theorem backslash_notMem_encode (s : String) : '\\' ∉ (Percent.encode s).toList := fun h =>
  (Percent.isPlain_or_percent_of_mem_encode h).elim (by decide) (by decide)

theorem read_tagged_encode (tag : String) (r : Leaf.Reader)
    (hw : ∀ c ∈ tag.toList, Text.isWord c) (hne : tag.toList ≠ [])
    (hr : standard.get? tag = some r) (s : String) :
    standard.read (tag ++ ":" ++ Percent.encode s) =
      (r (Percent.encode s)).mapError .conversion :=
  read_tagged hw hne hr (backslash_notMem_encode s)

theorem isUntagged_of_same {v w : Value} (h : v.same w) (hv : Leaf.IsUntagged v) :
    Leaf.IsUntagged w := by
  cases v <;> cases w <;> simp_all [Value.same, Leaf.IsUntagged]

theorem isUntagged_of_readsBack {v : Value} (h : standard.readsBack v) : Leaf.IsUntagged v := by
  unfold readsBack at h
  rw [standard_auto] at h
  split at h
  · rename_i w hw
    exact isUntagged_of_same h (Leaf.isUntagged_of_auto hw)
  · simp at h

theorem read_writeValue_string (s : String) :
    standard.read (standard.writeValue (.string s)) = .ok (.string s) := by
  simp only [writeValue]
  split
  · rename_i he
    rw [String.isEmpty_iff.1 he]
    exact read_tagged_encode "string" Leaf.string (by decide) (by decide) rfl ""
  · split
    · rename_i hr
      have ha : Leaf.auto s = .ok (.string s) := by
        unfold readsBack at hr
        rw [standard_auto] at hr
        split at hr
        · rename_i w hw
          cases w <;> simp [Value.same] at hr
          exact hr ▸ hw
        · simp at hr
      rw [read_untagged (colon_notMem_encode s) (backslash_notMem_encode s), standard_auto,
        Leaf.auto_encode ha]
      rfl
    · have ht := read_tagged_encode "string" Leaf.string (by decide) (by decide) rfl s
      refine ht.trans ?_
      simp only [Leaf.string, Leaf.decoded, Percent.decode?_encode]
      rfl

end TagTable

theorem Pattern.ofSource_source (p : Pattern) : ofSource p.source p.caseSensitive = .ok p := by
  unfold ofSource
  split
  · rename_i e h
    exact congrArg Except.ok (ext_source rfl rfl)
  · rename_i f h
    exact absurd (p.reads.symm.trans h) (by simp)

theorem Pattern.source_of_ofSource {source : String} {caseSensitive : Bool} {p : Pattern}
    (h : ofSource source caseSensitive = .ok p) :
    p.source = source ∧ p.caseSensitive = caseSensitive := by
  unfold ofSource at h
  split at h
  · rw [Except.ok.injEq] at h
    exact h ▸ ⟨rfl, rfl⟩
  · simp at h

namespace TagTable

theorem read_writeValue_pattern (p : Pattern) :
    standard.read (standard.writeValue (.pattern p)) = .ok (.pattern p) := by
  have hr {b : Bool} (h : p.caseSensitive = b) :
      Leaf.pattern b (Percent.encode p.source) = .ok (.pattern p) := by
    simp only [Leaf.pattern, Leaf.decoded, Percent.decode?_encode, ok_bind, ← h,
      Pattern.ofSource_source]
    rfl
  have hf : standard.readsBack (.pattern p) = false :=
    Bool.eq_false_iff.2 fun h => isUntagged_of_readsBack h
  have ht : standard.writeValue (.pattern p) =
      (Value.pattern p).typeName ++ ":" ++ Percent.encode p.source := by
    simp only [writeValue, hf]
    rfl
  rw [ht, Value.typeName]
  split
  · rename_i hc
    rw [read_tagged_encode "RE" (Leaf.pattern true) (by decide) (by decide) rfl, hr hc]
    rfl
  · rename_i hc
    rw [read_tagged_encode "re" (Leaf.pattern false) (by decide) (by decide) rfl,
      hr (Bool.eq_false_iff.2 hc)]
    rfl

/-- Whatever a string looks like and whatever a pattern says, it is read back as it was written. -/
theorem read_writeValue_text :
    (∀ s, standard.read (standard.writeValue (.string s)) = .ok (.string s)) ∧
      ∀ source caseSensitive p, Pattern.ofSource source caseSensitive = .ok p →
        p.source = source ∧ p.caseSensitive = caseSensitive ∧
          standard.read (standard.writeValue (.pattern p)) = .ok (.pattern p) := by
  refine ⟨read_writeValue_string, fun source caseSensitive p h => ?_⟩
  obtain ⟨hs, hc⟩ := Pattern.source_of_ofSource h
  exact ⟨hs, hc, read_writeValue_pattern p⟩

theorem read_writeValue_text_pattern : ∃ p, Pattern.ofSource "[a-c]+%" true = .ok p ∧
    p.source = "[a-c]+%" ∧ standard.read (standard.writeValue (.pattern p)) = .ok (.pattern p) := by
  have hok : (Pattern.ofSource "[a-c]+%" true).isOk = true := by decide +kernel
  obtain ⟨p, hp⟩ := isOk_iff.1 hok
  obtain ⟨hs, -, hr⟩ := read_writeValue_text.2 _ _ p hp
  exact ⟨p, hp, hs, hr⟩

end TagTable

end ResourceQuery
