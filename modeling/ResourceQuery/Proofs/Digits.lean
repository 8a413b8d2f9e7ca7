import Mathlib.Algebra.Group.Nat.Defs
import ResourceQuery.Decimal

namespace ResourceQuery.Decimal

theorem natOfDigits_eq (s : List Char) : natOfDigits s = Nat.ofDigitChars 10 s 0 := rfl

theorem natOfDigits_digits (n : Nat) : natOfDigits (digits n) = n :=
  Nat.ofDigitChars_ten_toDigits

theorem natOfDigits_zeros (k : Nat) (s : List Char) :
    natOfDigits (List.replicate k '0' ++ s) = natOfDigits s := by
  rw [natOfDigits_eq, Nat.ofDigitChars_append, Nat.ofDigitChars_replicate_zero, Nat.mul_zero]
  rfl

theorem natOfDigits_append (s t : List Char) :
    natOfDigits (s ++ t) = natOfDigits s * 10 ^ t.length + natOfDigits t := by
  rw [natOfDigits_eq, Nat.ofDigitChars_append, Nat.ofDigitChars_eq_ofDigitChars_zero, Nat.mul_comm]
  rfl

theorem natOfDigits_append_zeros (s : List Char) (k : Nat) :
    natOfDigits (s ++ List.replicate k '0') = natOfDigits s * 10 ^ k := by
  rw [natOfDigits_eq, Nat.ofDigitChars_append, Nat.ofDigitChars_replicate_zero, Nat.mul_comm]
  rfl

theorem isDigit_of_mem_digits {n : Nat} {c : Char} (h : c ∈ digits n) : c.isDigit :=
  Nat.isDigit_of_mem_toDigits (by decide) (by decide) h

theorem digits_ne_nil (n : Nat) : digits n ≠ [] := Nat.toDigits_ne_nil

theorem length_digits_le {n w : Nat} (hw : 0 < w) (h : n < 10 ^ w) : (digits n).length ≤ w :=
  (Nat.length_toDigits_le_iff (by decide) hw).2 h

theorem span_digits {ds rest : List Char} (hd : ∀ c ∈ ds, c.isDigit)
    (hr : ∀ c ∈ rest.head?, ¬c.isDigit) :
    (ds ++ rest).takeWhile Char.isDigit = ds ∧ (ds ++ rest).dropWhile Char.isDigit = rest := by
  have hstop : rest.takeWhile Char.isDigit = [] ∧ rest.dropWhile Char.isDigit = rest := by
    cases rest with
    | nil => exact ⟨rfl, rfl⟩
    | cons d r =>
        have hd := hr d rfl
        exact ⟨List.takeWhile_cons_of_neg hd, List.dropWhile_cons_of_neg hd⟩
  constructor
  · rw [List.takeWhile_append_of_pos hd, hstop.1, List.append_nil]
  · rw [List.dropWhile_append_of_pos hd, hstop.2]

theorem natOfDigits_lt {s : List Char} (h : ∀ c ∈ s, c.isDigit) :
    natOfDigits s < 10 ^ s.length := by
  have digit {c : Char} (h : c.isDigit) : c.toNat - 48 ≤ 9 := by
    simp only [Char.isDigit, Bool.and_eq_true, decide_eq_true_eq, UInt32.le_iff_toNat_le,
      ge_iff_le] at h
    have : c.toNat ≤ 57 := h.2
    omega
  have main (a : Nat) : Nat.ofDigitChars 10 s a < 10 ^ s.length * (a + 1) := by
    induction s generalizing a with
    | nil => simp
    | cons c s ih =>
        simp only [List.mem_cons, forall_eq_or_imp] at h
        rw [Nat.ofDigitChars_cons, List.length_cons, Nat.pow_succ]
        have hd := digit h.1
        calc Nat.ofDigitChars 10 s (10 * a + (c.toNat - '0'.toNat))
            < 10 ^ s.length * (10 * a + (c.toNat - '0'.toNat) + 1) := ih h.2 _
          _ ≤ 10 ^ s.length * (10 * (a + 1)) := Nat.mul_le_mul_left _ (by
            change 10 * a + (c.toNat - 48) + 1 ≤ 10 * (a + 1)
            omega)
          _ = 10 ^ s.length * 10 * (a + 1) := by rw [Nat.mul_assoc]
  simpa [natOfDigits_eq] using main 0

theorem natOfDigits_take {s : List Char} (h : ∀ c ∈ s, c.isDigit) (k : Nat) :
    natOfDigits (s.take k) = natOfDigits s / 10 ^ (s.length - k) := by
  have happend := natOfDigits_append (s.take k) (s.drop k)
  have hlt := natOfDigits_lt fun c hc => h c (List.mem_of_mem_drop (i := k) hc)
  rw [List.length_drop] at happend hlt
  rw [List.take_append_drop] at happend
  rw [happend, Nat.mul_comm, Nat.mul_add_div (Nat.pow_pos (by decide)), Nat.div_eq_of_lt hlt,
    Nat.add_zero]

theorem le_ofDigitChars (s : List Char) (a : Nat) : a ≤ Nat.ofDigitChars 10 s a := by
  induction s generalizing a with
  | nil => simp
  | cons c s ih =>
      rw [Nat.ofDigitChars_cons]
      have := ih (10 * a + (c.toNat - '0'.toNat))
      omega

theorem digits_ne_zero_cons {n : Nat} (hn : n ≠ 0) (t : List Char) : digits n ≠ '0' :: t := by
  intro h
  have hd : ∀ c ∈ t, c.isDigit := fun c hc =>
    isDigit_of_mem_digits (h ▸ List.mem_cons_of_mem _ hc)
  have hv : natOfDigits t = n := by
    have hz := natOfDigits_zeros 1 t
    rw [← natOfDigits_digits n, h, ← hz]
    rfl
  cases t with
  | nil => exact hn hv.symm
  | cons c t =>
      have hlt := hv ▸ natOfDigits_lt hd
      have hl := length_digits_le (Nat.succ_pos _) hlt
      simp only [h, List.length_cons] at hl
      omega

end ResourceQuery.Decimal
