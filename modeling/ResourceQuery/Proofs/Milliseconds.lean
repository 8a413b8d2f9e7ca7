import ResourceQuery.Proofs.LeafRoundTrip

namespace ResourceQuery

namespace Numeral

open Decimal Text

/-- An integer in decimal digits, which may have zeros in front. -/
structure Integral where
  sign : Sign
  digits : Row 10
  digits_ne : digits ≠ []

namespace Integral

variable (w : Integral)

def text : List Char := w.sign.text ++ w.digits.text

def value : Int := w.sign.apply w.digits.number

def spelling : Spelling :=
  .decimal w.sign ⟨w.digits, none, by simpa using w.digits_ne⟩ none

theorem text_spelling : w.spelling.text = w.text := by
  simp [spelling, Spelling.text, Mantissa.text, Mantissa.pointed, Exponent.textOf, text]

theorem value_spelling :
    w.spelling.value = Binary64.ofRatio w.sign.isNegative ⟨w.digits.number, 1⟩ := by
  rw [← toBinary64_integer]
  simp [spelling, Spelling.value, Mantissa.digits, Mantissa.places, Exponent.valueOf]

theorem read?_text :
    read? w.text = some (Binary64.ofRatio w.sign.isNegative ⟨w.digits.number, 1⟩) := by
  have hblank : ∀ c ∈ w.text, ¬isBlank c := fun c hc =>
    not_isBlank_of_isDecimalMark (isDecimalMark_of_mem_decimal (w.text_spelling ▸ hc))
  refine read?_eq_some_iff.2 ⟨w.spelling, ?_, w.value_spelling⟩
  rw [text_spelling, trim_eq_self hblank]

theorem exists_text_eq_toString (n : Int) :
    ∃ w : Integral, w.value = n ∧ String.ofList w.text = toString n := by
  have row (m : Nat) : ∃ r : Row 10, r ≠ [] ∧ r.number = m ∧ r.text = Nat.toDigits 10 m := by
    obtain ⟨r, hr⟩ := Row.exists_of_isDigit fun c hc => isDigit_of_mem_digits (n := m) hc
    refine ⟨r, ?_, ?_, hr⟩
    · rintro rfl
      exact digits_ne_nil m hr.symm
    · rw [← r.natOfDigits_text, hr, natOfDigits_digits]
  cases n with
  | ofNat m =>
      obtain ⟨r, hne, rfl, ht⟩ := row m
      refine ⟨⟨.none, r, hne⟩, rfl, ?_⟩
      rw [text, Sign.text, List.nil_append, ht]
      rfl
  | negSucc m =>
      obtain ⟨r, hne, hr, ht⟩ := row (m + 1)
      refine ⟨⟨.minus, r, hne⟩, ?_, ?_⟩
      · rw [value, Sign.apply, hr]
        rfl
      · rw [text, Sign.text, ht, String.ofList_append]
        rfl

end Integral

end Numeral

namespace Calendar.Instant

theorem ofMillis?_eq_none {n : Int} (h : 8334601228800000 < n.natAbs) : ofMillis? n = none :=
  dif_neg (by omega)

/-- The calendar ends before a bound that is wider is reached. -/
theorem le_bound_of_ofMillis? {x : Binary64} {t : Instant} {bound : Nat}
    (hb : 8334601228800000 < bound) (h : ofMillis? x.truncate = some t) :
    x.ratio.num ≤ bound * x.ratio.den := by
  by_contra hfar
  have hfloor : bound ≤ x.ratio.floor :=
    (Nat.le_div_iff_mul_le x.ratio_den_pos).2 (Nat.le_of_lt (Nat.not_le.1 hfar))
  have hnone : ofMillis? x.truncate = none := by
    refine ofMillis?_eq_none ?_
    rw [x.natAbs_truncate]
    omega
  simp [hnone] at h

end Calendar.Instant

namespace Leaf

open Calendar Numeral

section

variable {text : String} {x : Binary64} {t : Instant}

theorem epoch_of_ofMillis? (hr : read? text.toList = some x) (hf : x.isFinite)
    (ht : Instant.ofMillis? x.truncate = some t) : epoch text = .ok (.date t) := by
  have hb : x.ratio.num ≤ epochBound * x.ratio.den :=
    Instant.le_bound_of_ofMillis? (by decide) ht
  simp [epoch, hr, hf, hb, ht, guard]

theorem epoch_eq_error (hr : read? text.toList = some x)
    (ht : Instant.ofMillis? x.truncate = none) : epoch text = .error (.date text) := by
  simp [epoch, hr, ht]

end

theorem epoch_text (w : Integral) :
    epoch (String.ofList w.text) =
      if h : -8334601228800000 ≤ w.value ∧ w.value ≤ 8210266876799999 then
        .ok (.date ⟨w.value, h.1, h.2⟩)
      else .error (.date (String.ofList w.text)) := by
  have hread := w.read?_text
  rw [← String.toList_ofList (l := w.text)] at hread
  have habs : w.value.natAbs = w.digits.number := by
    rw [Integral.value]
    cases w.sign <;> simp [Sign.apply]
  by_cases hsmall : w.digits.number < 2 ^ 53
  · obtain ⟨hfinite, htruncate⟩ := Binary64.ofRatio_small w.sign.isNegative hsmall
    have hvalue : (if w.sign.isNegative then -(w.digits.number : Int) else w.digits.number) =
        w.value := by
      rw [Integral.value]
      cases w.sign <;> rfl
    rw [hvalue] at htruncate
    by_cases h : -8334601228800000 ≤ w.value ∧ w.value ≤ 8210266876799999
    · rw [dif_pos h]
      exact epoch_of_ofMillis? hread hfinite (by rw [htruncate]; exact dif_pos h)
    · rw [dif_neg h]
      exact epoch_eq_error hread (htruncate ▸ dif_neg h)
  · -- the number may be rounded, but not as far as into the calendar
    have hlarge := Binary64.le_truncate_ofRatio w.sign.isNegative (Nat.not_lt.1 hsmall)
    rw [dif_neg (by omega)]
    exact epoch_eq_error hread (Instant.ofMillis?_eq_none (by omega))

/-- The integers that are read as milliseconds are those of the instants in the calendar, and each
is read as the instant that the ISO form of it is read as. -/
theorem epoch_integral :
    (∀ n : Int, ∃ w : Integral, w.value = n ∧ String.ofList w.text = toString n) ∧
    (∀ w : Integral, epoch (String.ofList w.text) =
      if h : -8334601228800000 ≤ w.value ∧ w.value ≤ 8210266876799999 then
        .ok (.date ⟨w.value, h.1, h.2⟩)
      else .error (.date (String.ofList w.text))) ∧
    ∀ w : Integral, ∀ t : Instant, t.millis = w.value →
      epoch (String.ofList w.text) = date (String.ofList t.write) := by
  refine ⟨Integral.exists_text_eq_toString, epoch_text, fun w t ht => ?_⟩
  obtain ⟨n, hl, hg⟩ := t
  simp only at ht
  subst ht
  rw [date_write, epoch_text, dif_pos ⟨hl, hg⟩]

theorem epoch_integral_limits :
    epoch "8210266876799999" = date "+262142-12-31T23:59:59.999Z" ∧
      epoch "-8334601228800001" = .error (.date "-8334601228800001") ∧
      epoch "9007199254740993" = .error (.date "9007199254740993") := by
  obtain ⟨htext, hepoch, hdate⟩ := epoch_integral
  obtain ⟨last, hlast, hlastText⟩ := htext 8210266876799999
  obtain ⟨early, hearly, hearlyText⟩ := htext (-8334601228800001)
  obtain ⟨late, hlate, hlateText⟩ := htext 9007199254740993
  refine ⟨?_, ?_, ?_⟩
  · have h := hdate last ⟨8210266876799999, by decide, by decide⟩ hlast.symm
    have hw : (Instant.mk 8210266876799999 (by decide) (by decide)).write =
        "+262142-12-31T23:59:59.999Z".toList := by decide
    rw [hlastText, hw] at h
    exact h
  · have h := hepoch early
    rw [hearlyText, dif_neg (by rw [hearly]; decide)] at h
    exact h
  · have h := hepoch late
    rw [hlateText, dif_neg (by rw [hlate]; decide)] at h
    exact h

end Leaf

end ResourceQuery
