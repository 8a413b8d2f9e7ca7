import ResourceQuery.Proofs.NumeralSpelling

namespace ResourceQuery

namespace Text

theorem mem_dropWhile_or {p : Char → Bool} {c : Char} {s : List Char} (h : c ∈ s) :
    p c ∨ c ∈ s.dropWhile p := by
  rw [← List.takeWhile_append_dropWhile (p := p) (l := s), List.mem_append] at h
  rcases h with h | h
  · exact .inl (List.all_eq_true.1 List.all_takeWhile c h)
  · exact .inr h

theorem mem_trim_or {c : Char} {s : List Char} (h : c ∈ s) : isBlank c ∨ c ∈ trim s := by
  rcases mem_dropWhile_or (p := isBlank) h with hb | hd
  · exact .inl hb
  · rcases mem_dropWhile_or (p := isBlank) (List.mem_reverse.2 hd) with hb | hr
    · exact .inl hb
    · exact .inr (List.mem_reverse.2 hr)

theorem trim_eq_self {s : List Char} (h : ∀ c ∈ s, ¬isBlank c) : trim s = s := by
  have hd {t : List Char} (ht : ∀ c ∈ t, ¬isBlank c) : t.dropWhile isBlank = t := by
    cases t with
    | nil => rfl
    | cons c t => exact List.dropWhile_cons_of_neg (ht c List.mem_cons_self)
  rw [trim, hd h, trimEnd, hd fun c hc => h c (List.mem_reverse.1 hc), List.reverse_reverse]

theorem isAlphanum_iff {c : Char} :
    c.isAlphanum ↔ (('A' ≤ c ∧ c ≤ 'Z') ∨ ('a' ≤ c ∧ c ≤ 'z')) ∨ c.isDigit := by
  change ((decide ('A' ≤ c ∧ c ≤ 'Z') || (decide ('a' ≤ c) && decide (c ≤ 'z'))) ||
    c.isDigit) = true ↔ _
  simp only [Bool.or_eq_true, Bool.and_eq_true, decide_eq_true_eq]

end Text

namespace Numeral

open Text

def isMark (c : Char) : Bool := c.isAlphanum || c == '+' || c == '-' || c == '.'

theorem isMark_of_isDecimalMark {c : Char} (h : isDecimalMark c) : isMark c := by
  simp only [isDecimalMark, Bool.or_eq_true, beq_iff_eq] at h
  rcases h with ((((h | rfl) | rfl) | rfl) | rfl) | rfl
  · simp [isMark, Char.isAlphanum, h]
  all_goals rfl

theorem not_isBlank_of_isDecimalMark {c : Char} (h : isDecimalMark c) : ¬isBlank c := by
  simp only [isDecimalMark, Bool.or_eq_true, beq_iff_eq] at h
  rcases h with ((((h | rfl) | rfl) | rfl) | rfl) | rfl
  · simp only [Char.isDigit, Bool.and_eq_true, decide_eq_true_eq, UInt32.le_iff_toNat_le,
      ge_iff_le] at h
    have hl : 48 ≤ c.toNat := h.1
    have hu : c.toNat ≤ 57 := h.2
    simp only [isBlank, Bool.or_eq_true, Bool.and_eq_true, decide_eq_true_eq, beq_iff_eq]
    omega
  all_goals decide

theorem isMark_char {base : Nat} (hb : base ≤ 16) (d : Digit base) : isMark d.char := by
  obtain ⟨⟨n, hn⟩, capital⟩ := d
  have h : ∀ n < 16, ∀ capital,
      isMark (if capital = true then (Nat.digitChar n).toUpper else Nat.digitChar n) := by
    decide
  exact h n (Nat.lt_of_lt_of_le hn hb) capital

theorem Spelling.isMark_of_mem_text {w : Spelling} : ∀ c ∈ w.text, isMark c := by
  cases w with
  | infinity sign =>
      cases sign
      all_goals
        simp only [Spelling.text, Sign.text]
        decide
  | word base capital digits digits_ne lt =>
      simp only [Spelling.text, List.mem_cons, forall_eq_or_imp]
      refine ⟨rfl, ?_, fun c hc => ?_⟩
      · cases base <;> cases capital <;> rfl
      · obtain ⟨d, -, rfl⟩ := List.mem_map.1 hc
        exact isMark_char base.size_le d
  | decimal sign mantissa exponent =>
      exact fun c hc => isMark_of_isDecimalMark (isDecimalMark_of_mem_decimal hc)

theorem isMark_of_read? {s : List Char} {x : Binary64} (h : read? s = some x) :
    ∀ c ∈ s, isBlank c ∨ isMark c := by
  obtain ⟨w, hw, -⟩ := read?_eq_some_iff.1 h
  intro c hc
  exact (mem_trim_or hc).imp_right fun ht => w.isMark_of_mem_text c (hw ▸ ht)

theorem read?_eq_none_of_mem {s : List Char} {c : Char} (hc : ¬(isBlank c ∨ isMark c))
    (h : c ∈ s) : read? s = none := by
  cases hr : read? s with
  | none => rfl
  | some x => exact absurd (isMark_of_read? hr c h) hc

end Numeral

end ResourceQuery
