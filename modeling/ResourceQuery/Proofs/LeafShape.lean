import ResourceQuery.Proofs.Expansion
import ResourceQuery.Proofs.LeafText

namespace ResourceQuery

open Percent Shorthand

theorem isPlain_of_isDigit {c : Char} (h : c.isDigit) : isPlain c := by
  simp [isPlain, Char.isAlphanum, h]

theorem isPlain_of_isWord {c : Char} (h : Text.isWord c) : isPlain c := by
  simp only [Text.isWord, Bool.or_eq_true, beq_iff_eq] at h
  rcases h with h | rfl
  · simp [isPlain, h]
  · rfl

theorem isPlain_digits {n : Nat} {c : Char} (h : c ∈ Decimal.digits n) : isPlain c :=
  isPlain_of_isDigit (Nat.isDigit_of_mem_toDigits (by decide) (by decide) h)

namespace Binary64.Layout

variable {l : Layout} {digits : List Char}

theorem isPlain_positional (hi : ∀ c ∈ l.integral.toList, isPlain c)
    (hd : ∀ c ∈ digits, isPlain c) (order : Int) :
    ∀ c ∈ l.positional digits order, isPlain c := by
  intro c hc
  simp only [positional] at hc
  split at hc
  · simp only [List.mem_cons, List.mem_append, List.mem_replicate] at hc
    rcases hc with (rfl | rfl | ⟨-, rfl⟩) | hc
    · rfl
    · rfl
    · rfl
    · exact hd c hc
  · split at hc
    · simp only [List.mem_cons, List.mem_append] at hc
      rcases hc with hc | rfl | hc
      · exact hd c (List.mem_of_mem_take hc)
      · rfl
      · exact hd c (List.mem_of_mem_drop hc)
    · simp only [List.mem_append, List.mem_replicate] at hc
      rcases hc with (hc | ⟨-, rfl⟩) | hc
      · exact hd c hc
      · rfl
      · exact hi c hc

theorem isPlain_scientific (hp : ∀ c ∈ l.plus.toList, isPlain c)
    (hd : ∀ c ∈ digits, isPlain c) (order : Int) :
    ∀ c ∈ l.scientific digits order, isPlain c := by
  intro c hc
  simp only [scientific, List.mem_cons, List.mem_append] at hc
  rcases hc with (hc | rfl | hc) | hc
  · split at hc
    · simp at hc
    · exact hd c hc
    · simp only [List.mem_cons] at hc hd
      rcases hc with rfl | rfl | hc
      · exact hd _ (.inl rfl)
      · rfl
      · exact hd c (.inr hc)
  · rfl
  · split at hc
    · rw [List.mem_singleton.1 hc]
      rfl
    · exact hp c hc
  · exact isPlain_digits hc

theorem finite_ne_nil (l : Layout) (x : Binary64) : l.finite x ≠ [] := by
  have hd (d : Decimal) : l.decimal d ≠ [] := by
    simp only [decimal]
    split
    · simp only [positional]
      split
      · simp
      · split <;> simp [Decimal.digits]
    · simp [scientific]
  simp only [finite]
  split
  · simp
  · exact hd _

theorem isPlain_finite (hi : ∀ c ∈ l.integral.toList, isPlain c)
    (hp : ∀ c ∈ l.plus.toList, isPlain c) (x : Binary64) : ∀ c ∈ l.finite x, isPlain c := by
  have hd (d : Decimal) : ∀ c ∈ l.decimal d, isPlain c := by
    simp only [decimal]
    split
    · exact isPlain_positional hi (fun c hc => isPlain_digits hc) _
    · exact isPlain_scientific hp (fun c hc => isPlain_digits hc) _
  intro c hc
  simp only [finite] at hc
  split at hc
  · rcases List.mem_cons.1 hc with rfl | hc
    · rfl
    · exact hd _ c hc
  · exact hd _ c hc

end Binary64.Layout

theorem Numeral.isPlain_write (x : Binary64) : ∀ c ∈ (write x).toList, isPlain c := by
  unfold write
  split
  · decide
  · split
    · split <;> decide
    · rw [String.toList_ofList]
      exact Binary64.Layout.isPlain_finite (by decide) (by decide) x

theorem Numeral.write_ne_nil (x : Binary64) : (write x).toList ≠ [] := by
  unfold write
  split
  · decide
  · split
    · split <;> decide
    · rw [String.toList_ofList]
      exact Binary64.Layout.finite_ne_nil layout x

def isLeafChar (c : Char) : Bool := isPlain c || c == '%' || c == ':' || c == '+'

theorem isLeafChar_of_isPlain {c : Char} (h : isPlain c) : isLeafChar c := by
  simp [isLeafChar, h]

theorem isLeafChar_of_mem_encode {s : String} {c : Char} (h : c ∈ (encode s).toList) :
    isLeafChar c := by
  rcases isPlain_or_percent_of_mem_encode h with h | rfl
  · exact isLeafChar_of_isPlain h
  · rfl

namespace Calendar

theorem isPlain_pad {width n : Nat} : ∀ c ∈ pad width n, isPlain c := by
  intro c hc
  simp only [pad, List.mem_append, List.mem_replicate] at hc
  rcases hc with ⟨-, rfl⟩ | hc
  · rfl
  · exact isPlain_digits hc

theorem isLeafChar_writeYear {year : Int} : ∀ c ∈ writeYear year, isLeafChar c := by
  intro c hc
  simp only [writeYear] at hc
  split at hc
  · exact isLeafChar_of_isPlain (isPlain_pad c hc)
  · rcases List.mem_cons.1 hc with rfl | hc
    · split <;> rfl
    · exact isLeafChar_of_isPlain (isPlain_pad c hc)

theorem Instant.isLeafChar_write (t : Instant) : ∀ c ∈ t.write, isLeafChar c := by
  have hp {width n : Nat} {c : Char} (h : c ∈ pad width n) : isLeafChar c :=
    isLeafChar_of_isPlain (isPlain_pad c h)
  intro c hc
  simp only [write, List.mem_append, List.mem_cons, List.not_mem_nil, or_false] at hc
  rcases hc with
    ((((((hc | rfl | hc) | rfl | hc) | rfl | hc) | rfl | hc) | rfl | hc) | rfl | hc) | rfl
  · exact isLeafChar_writeYear c hc
  all_goals first
    | rfl
    | exact hp hc

theorem Instant.percent_notMem_write (t : Instant) : '%' ∉ t.write := by
  have hp {width n : Nat} : '%' ∉ pad width n := fun h =>
    ne_percent_of_isPlain (isPlain_pad _ h) rfl
  have hy : '%' ∉ writeYear t.civil.year := by
    simp only [writeYear]
    split
    · exact hp
    · simp only [List.mem_cons, not_or]
      refine ⟨?_, hp⟩
      split <;> decide
  simp [write, hp, hy]

end Calendar

/-- The texts that leaves are written as. -/
inductive LeafText : List Char → Prop
  | bare {s : List Char} (hne : s ≠ []) (h : ∀ c ∈ s, isLeafChar c) (hb : NoBracket s) : LeafText s
  | quoted {s : List Char} (h : ∀ c ∈ s, isLeafChar c) (hb : NoBracket s) :
      LeafText (['j', 's', 'o', 'n', ':'] ++ ('\'' :: s ++ ['\'']))

theorem noBracket_of_isPlain {s : List Char} (h : ∀ c ∈ s, isPlain c) : NoBracket s :=
  noBracket_of_notMem fun hm => ne_percent_of_isPlain (h _ hm) rfl

theorem noBracket_encode (s : String) : NoBracket (encode s).toList :=
  ⟨not_bracket_infix_encode (.inl rfl) s, not_bracket_infix_encode (.inr rfl) s⟩

theorem leafText_of_isPlain {s : List Char} (hne : s ≠ []) (h : ∀ c ∈ s, isPlain c) : LeafText s :=
  .bare hne (fun c hc => isLeafChar_of_isPlain (h c hc)) (noBracket_of_isPlain h)

namespace TagTable

theorem leafText_tagged_encode {w : String} (hw : ∀ c ∈ w.toList, isPlain c) (s : String) :
    LeafText (w ++ ":" ++ encode s).toList := by
  have ht : (w ++ ":" ++ encode s).toList = w.toList ++ ':' :: (encode s).toList := by
    simp only [String.toList_append, List.append_assoc]
    rfl
  rw [ht]
  refine .bare (by simp) ?_ ((noBracket_of_isPlain hw).append_cons (by decide) (noBracket_encode s))
  intro c hc
  rcases List.mem_append.1 hc with hc | hc
  · exact isLeafChar_of_isPlain (hw c hc)
  · rcases List.mem_cons.1 hc with rfl | hc
    · rfl
    · exact isLeafChar_of_mem_encode hc

theorem encode_toList_ne_nil {s : String} (h : s.isEmpty = false) : (encode s).toList ≠ [] := by
  intro he
  have hd := decode?_encode s
  rw [String.toList_eq_nil_iff.1 he, decode?_eq_self (by simp), Option.some.injEq] at hd
  simp [← hd] at h

theorem isPlain_typeName (v : Value) : ∀ c ∈ v.typeName.toList, isPlain c := by
  cases v with
  | pattern p =>
      simp only [Value.typeName]
      split <;> decide
  | _ => simp only [Value.typeName]; decide

theorem leafText_plain {v : Value} (h : Leaf.IsUntagged v) (hs : ∀ s, v ≠ .string s) :
    LeafText v.plain.toList := by
  cases v with
  | null | undefined => exact leafText_of_isPlain (by decide) (by decide)
  | boolean b => cases b <;> exact leafText_of_isPlain (by decide) (by decide)
  | number x => exact leafText_of_isPlain (Numeral.write_ne_nil x) (Numeral.isPlain_write x)
  | string s => exact absurd rfl (hs s)
  | date _ | pattern _ | json _ => exact absurd h id

theorem leafText_tagged (v : Value) : LeafText v.tagged.toList := by
  cases v with
  | string s => exact leafText_tagged_encode (w := "string") (by decide) s
  | date t =>
      have ht : (Value.date t).tagged.toList = ['d', 'a', 't', 'e'] ++ ':' :: t.write := by
        simp only [Value.tagged, Value.plain, String.toList_append, String.toList_ofList]
        rfl
      rw [ht]
      refine .bare (by simp) ?_ ((noBracket_of_isPlain (by decide)).append_cons (by decide)
        (noBracket_of_notMem t.percent_notMem_write))
      intro c hc
      rcases List.mem_append.1 hc with hc | hc
      · exact (show ∀ c ∈ ['d', 'a', 't', 'e'], isLeafChar c by decide) c hc
      · rcases List.mem_cons.1 hc with rfl | hc
        · rfl
        · exact t.isLeafChar_write c hc
  | json j =>
      have ht : (Value.json j).tagged.toList = ['j', 's', 'o', 'n', ':'] ++
          ('\'' :: (encode (Value.json j).plain).toList ++ ['\'']) := by
        simp only [Value.tagged, String.toList_append]
        rfl
      exact ht ▸ .quoted (fun c hc => isLeafChar_of_mem_encode hc) (noBracket_encode _)
  | null | undefined | boolean _ | number _ | pattern _ =>
      exact leafText_tagged_encode (isPlain_typeName _) _

/-- Every leaf is written in a form that keeps clear of the syntax around it. -/
theorem leafText_writeValue (v : Value) : LeafText (standard.writeValue v).toList := by
  have choose {v : Value} (hs : ∀ s, v ≠ .string s) :
      LeafText (if standard.readsBack v then v.plain else v.tagged).toList := by
    split
    · rename_i h
      exact leafText_plain (isUntagged_of_readsBack h) hs
    · exact leafText_tagged v
  cases v with
  | null => exact leafText_of_isPlain (by decide) (by decide)
  | string s =>
      simp only [writeValue]
      split
      · exact .bare (by decide) (by decide) (noBracket_of_notMem (by decide))
      · split
        · rename_i he _
          exact .bare (encode_toList_ne_nil (Bool.eq_false_iff.2 he))
            (fun c hc => isLeafChar_of_mem_encode hc) (noBracket_encode s)
        · exact leafText_tagged _
  | undefined | boolean _ | number _ | date _ | pattern _ | json _ =>
      exact choose (by simp)

end TagTable

end ResourceQuery
