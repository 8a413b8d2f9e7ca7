import ResourceQuery.Proofs.Rereading

namespace ResourceQuery.Percent

open Text

def isUnreserved (c : Char) : Bool :=
  c.isAlphanum || c == '-' || c == '_' || c == '.' || c == '~'

def capitalCode (c : Char) : List Char :=
  if isUnreserved c then [c] else (String.utf8EncodeChar c).flatMap encodeByte

def amended : List Char := ['!', '*', '<', '>']

/-- Takes back the codes of two marks and puts those of the angle brackets in small digits. -/
def amend (s : List Char) : List Char :=
  replace "%3E".toList "%3e".toList <|
  replace "%3C".toList "%3c".toList <|
  replace "%2A".toList "*".toList <|
  replace "%21".toList "!".toList s

theorem isPlain_iff {c : Char} : isPlain c ↔ isUnreserved c ∨ c = '!' ∨ c = '*' := by
  simp [isPlain, isUnreserved, or_assoc]

-- What one replacement puts in is a symbol again, so that the next one finds no pair of digits
-- that straddles two codes either.
theorem isSymbolwise_amend : IsSymbolwise '%' 2 amend := by
  have mark : IsSymbolwise '%' 2 (replace "%21".toList "!".toList) :=
    isSymbolwise_replace rfl (.single (by decide))
  have star : IsSymbolwise '%' 2 (replace "%2A".toList "*".toList) :=
    isSymbolwise_replace rfl (.single (by decide))
  have less : IsSymbolwise '%' 2 (replace "%3C".toList "%3c".toList) :=
    isSymbolwise_replace rfl (.marked (by decide) rfl)
  have greater : IsSymbolwise '%' 2 (replace "%3E".toList "%3e".toList) :=
    isSymbolwise_replace rfl (.marked (by decide) rfl)
  exact greater.comp (less.comp (star.comp mark))

theorem amend_eq_self {s : List Char} (h : '%' ∉ s) : amend s = s := by
  have absent {old : List Char} (ho : '%' ∈ old) : ¬old <:+: s := fun hi => h (hi.subset ho)
  unfold amend
  rw [replace_eq_of_absent (absent (by decide)), replace_eq_of_absent (absent (by decide)),
    replace_eq_of_absent (absent (by decide)), replace_eq_of_absent (absent (by decide))]

theorem amend_encodeByte {b : UInt8} (hb : ∀ a ∈ amended, UInt8.ofNat a.toNat ≠ b) :
    amend (encodeByte b) = encodeByte b := by
  have other {a : Char} (ha : a ∈ amended) (new : List Char) :
      replace (encodeByte (UInt8.ofNat a.toNat)) new (encodeByte b) = encodeByte b := by
    rw [encodeByte, replace_symbol (isSymbol_encodeByte b) rfl, if_neg]
    intro he
    exact hb a ha (encodeByte_injective he.symm)
  have mark : "%21".toList = encodeByte (UInt8.ofNat '!'.toNat) := by decide
  have star : "%2A".toList = encodeByte (UInt8.ofNat '*'.toNat) := by decide
  have less : "%3C".toList = encodeByte (UInt8.ofNat '<'.toNat) := by decide
  have greater : "%3E".toList = encodeByte (UInt8.ofNat '>'.toNat) := by decide
  unfold amend
  rw [mark, star, less, greater, other (by decide), other (by decide), other (by decide),
    other (by decide)]

theorem flatMap_amend_encodeByte {c : Char} (h : ¬isUnreserved c) :
    (String.utf8EncodeChar c).flatMap (fun b => amend (encodeByte b)) = encodeChar c := by
  by_cases hc : c ∈ amended
  · simp only [amended, List.mem_cons, List.not_mem_nil, or_false] at hc
    rcases hc with rfl | rfl | rfl | rfl <;> decide
  · have hb : ∀ b ∈ String.utf8EncodeChar c, amend (encodeByte b) = encodeByte b := by
      intro b hb
      apply amend_encodeByte
      rintro a ha rfl
      have hascii : ∀ a ∈ amended, a.toNat < 128 := by decide
      exact hc (eq_of_mem_utf8EncodeChar (hascii a ha) hb ▸ ha)
    simp only [amended, List.mem_cons, List.not_mem_nil, or_false, not_or] at hc
    obtain ⟨hmark, hstar, hless, hgreater⟩ := hc
    have hp : ¬isPlain c := by simp [isPlain_iff, h, hmark, hstar]
    rw [encodeChar, if_neg hp, if_neg hless, if_neg hgreater, List.flatMap_def, List.flatMap_def,
      List.map_congr_left hb]

theorem amend_capitalCode_append (c : Char) (s : List Char) :
    amend (capitalCode c ++ s) = encodeChar c ++ amend s := by
  unfold capitalCode
  split
  · rename_i h
    have hp : isPlain c := isPlain_iff.2 (.inl h)
    have hc := ne_percent_of_isPlain hp
    rw [isSymbolwise_amend.append (.single hc), amend_eq_self (by simpa using Ne.symm hc),
      encodeChar, if_pos hp]
  · rename_i h
    rw [isSymbolwise_amend.flatMap isSymbol_encodeByte, flatMap_amend_encodeByte h]

theorem amend_flatMap_capitalCode (l : List Char) :
    amend (l.flatMap capitalCode) = l.flatMap encodeChar := by
  induction l with
  | nil => rfl
  | cons c l ih => rw [List.flatMap_cons, amend_capitalCode_append, ih, List.flatMap_cons]

example : amend ("%21".toList.flatMap capitalCode) = "%2521".toList := by decide

theorem isStill_encode (s : String) : Shorthand.IsStill (encode s).toList where
  sign _ hc := (isInert_of_isLeafChar (isLeafChar_of_mem_encode hc)).sign
  bracket := noBracket_encode s

theorem leafText_encode {s : String} (h : s ≠ "") : LeafText (encode s).toList := by
  have he : s.isEmpty = false := by simpa using h
  exact .bare (TagTable.encode_toList_ne_nil he) (fun c hc => isLeafChar_of_mem_encode hc)
    (noBracket_encode s)

/-- The code of a text is made of its bytes in capital digits by replacing the codes of four
characters. It stands for the text and for no other, the expansion of comparisons leaves it as it
is, the splitter takes it for one argument, and no character in it means anything to a reader. -/
theorem inert_encode (s : String) :
    encode s = String.ofList (amend (s.toList.flatMap capitalCode)) ∧
      Leaf.decoded (encode s) = .ok s ∧
      Shorthand.expand (encode s) = .ok (encode s) ∧
      (s ≠ "" → ∀ limit,
        Chunk.ofBody '\\' limit (encode s).toList = .ok [.text (encode s)]) ∧
      ∀ c ∈ (encode s).toList, c ≠ ':' ∧ c ≠ '\\' ∧ ¬isQuote c ∧ c ≠ '(' ∧ c ≠ ')' ∧
        Joiner.ofChar? c = none ∧ ¬isBlank c := by
  refine ⟨?_, ?_, Shorthand.expand_eq_self (isStill_encode s), fun h limit => ?_, fun c hc => ?_⟩
  · rw [encode, amend_flatMap_capitalCode]
  · rw [Leaf.decoded, decode?_encode]
  · rw [Chunk.ofBody_leafText (leafText_encode h), String.ofList_toList]
  · have hl := isLeafChar_of_mem_encode hc
    have hi := isInert_of_isLeafChar hl
    have colon : c ≠ ':' := by
      rintro rfl
      exact TagTable.colon_notMem_encode s hc
    exact ⟨colon, hi.mark, hi.quote, hi.opening, hi.closing, (isNameChar_of_isLeafChar hl).1,
      hi.blank⟩

theorem inert_encode_percent :
    "%3C<:é" ≠ "" ∧ encode "%3C<:é" = "%253C%3c%3A%C3%A9" ∧
      Leaf.decoded "%253C%3c%3A%C3%A9" = .ok "%3C<:é" ∧
      Shorthand.expand "%253C%3c%3A%C3%A9" = .ok "%253C%3c%3A%C3%A9" ∧
      Chunk.ofBody '\\' 128 "%253C%3c%3A%C3%A9".toList = .ok [.text "%253C%3c%3A%C3%A9"] ∧
      '%' ∈ "%253C%3c%3A%C3%A9".toList ∧ '%' ≠ ':' ∧ '%' ≠ '\\' ∧ ¬isQuote '%' ∧ '%' ≠ '(' ∧
      '%' ≠ ')' ∧ Joiner.ofChar? '%' = none ∧ ¬isBlank '%' := by
  have hne : "%3C<:é" ≠ "" := by decide
  have hs : encode "%3C<:é" = "%253C%3c%3A%C3%A9" := by decide
  have hm : '%' ∈ "%253C%3c%3A%C3%A9".toList := by decide
  obtain ⟨-, hd, he, hb, hc⟩ := inert_encode "%3C<:é"
  rw [hs] at hd he hb hc
  exact ⟨hne, hs, hd, he, hb hne 128, hm, hc _ hm⟩

end ResourceQuery.Percent
