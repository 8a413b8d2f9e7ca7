import Mathlib.Data.List.TakeWhile
import Mathlib.Data.Option.Basic
import ResourceQuery.Leaf
import ResourceQuery.Proofs.Digits
import ResourceQuery.Proofs.Magnitude

namespace ResourceQuery.Numeral

open Decimal Text

/-- A digit of a base up to sixteen. From ten on it is a letter, small or capital. -/
structure Digit (base : Nat) where
  value : Fin base
  capital : Bool

def Digit.char {base : Nat} (d : Digit base) : Char :=
  if d.capital then (Nat.digitChar d.value).toUpper else Nat.digitChar d.value

abbrev Row (base : Nat) := List (Digit base)

namespace Row

variable {base : Nat}

def text (r : Row base) : List Char := r.map Digit.char

def after (n : Nat) (r : Row base) : Nat := r.foldl (fun n d => base * n + d.value) n

def number (r : Row base) : Nat := r.after 0

end Row

inductive Sign
  | none
  | plus
  | minus
  deriving DecidableEq

namespace Sign

def text : Sign → List Char
  | none => []
  | plus => ['+']
  | minus => ['-']

def isNegative : Sign → Bool
  | minus => true
  | _ => false

def apply : Sign → Nat → Int
  | minus, n => -n
  | _, n => n

end Sign

inductive Base
  | sixteen
  | eight
  | two

namespace Base

def size : Base → Nat
  | sixteen => 16
  | eight => 8
  | two => 2

def letter : Base → (capital : Bool) → Char
  | sixteen, false => 'x'
  | sixteen, true => 'X'
  | eight, false => 'o'
  | eight, true => 'O'
  | two, false => 'b'
  | two, true => 'B'

end Base

/-- Digits with a point before, among or after them, or with none. -/
structure Mantissa where
  whole : Row 10
  fraction : Option (Row 10)
  digits_ne : whole ++ fraction.getD [] ≠ []

namespace Mantissa

def pointed : Option (Row 10) → List Char
  | none => []
  | some r => '.' :: r.text

def text (m : Mantissa) : List Char := m.whole.text ++ pointed m.fraction

def digits (m : Mantissa) : Row 10 := m.whole ++ m.fraction.getD []

def places (m : Mantissa) : Nat := (m.fraction.getD []).length

end Mantissa

structure Exponent where
  capital : Bool
  sign : Sign
  digits : Row 10
  digits_ne : digits ≠ []

namespace Exponent

def textOf : Option Exponent → List Char
  | none => []
  | some e => (if e.capital then 'E' else 'e') :: (e.sign.text ++ e.digits.text)

def valueOf : Option Exponent → Int
  | none => 0
  | some e => e.sign.apply e.digits.number

end Exponent

/-- A number as a text: an infinity, an integer in base 16, 8 or 2 that fits in a word, or a decimal
number. -/
inductive Spelling
  | infinity (sign : Sign)
  | word (base : Base) (capital : Bool) (digits : Row base.size) (digits_ne : digits ≠ [])
      (lt : digits.number < 2 ^ 64)
  | decimal (sign : Sign) (mantissa : Mantissa) (exponent : Option Exponent)

namespace Spelling

def text : Spelling → List Char
  | infinity sign => sign.text ++ "Infinity".toList
  | word base capital digits _ _ => '0' :: base.letter capital :: digits.text
  | decimal sign mantissa exponent => sign.text ++ (mantissa.text ++ Exponent.textOf exponent)

def value : Spelling → Binary64
  | infinity sign => .infinity sign.isNegative
  | word _ _ digits _ _ => .ofNat digits.number
  | decimal sign mantissa exponent =>
      Decimal.toBinary64 sign.isNegative
        ⟨mantissa.digits.number, Exponent.valueOf exponent - mantissa.places⟩

end Spelling

section

variable {base : Nat} {c : Char} {s : List Char} {n k : Nat}

namespace Digit

theorem char_zero_to_nine : ∀ n < 10, Nat.digitChar n = Char.ofNat ('0'.toNat + n) := by
  decide

theorem char_a_to_f : ∀ n < 6, Nat.digitChar (n + 10) = Char.ofNat ('a'.toNat + n) ∧
    (Nat.digitChar (n + 10)).toUpper = Char.ofNat ('A'.toNat + n) := by
  decide

theorem ofNat_offset (low high : Char) (hl : low ≤ c) (hh : c ≤ high) :
    c.toNat - low.toNat ≤ high.toNat - low.toNat ∧
      Char.ofNat (low.toNat + (c.toNat - low.toNat)) = c := by
  have hl : low.toNat ≤ c.toNat := hl
  have hh : c.toNat ≤ high.toNat := hh
  exact ⟨Nat.sub_le_sub_right hh _, by rw [Nat.add_sub_cancel' hl, Char.ofNat_toNat]⟩

theorem char_of_isDigit (h : c.isDigit) :
    c.toNat - '0'.toNat < 10 ∧ Nat.digitChar (c.toNat - '0'.toNat) = c := by
  simp only [Char.isDigit, Bool.and_eq_true, decide_eq_true_eq] at h
  obtain ⟨ho, hc⟩ := ofNat_offset '0' '9' h.1 h.2
  have hlt : c.toNat - '0'.toNat < 10 := Nat.lt_succ_of_le ho
  exact ⟨hlt, (char_zero_to_nine _ hlt).trans hc⟩

theorem exists_of_digitValue? (h : digitValue? base c = some n) :
    ∃ d : Digit base, d.char = c ∧ d.value = n := by
  simp only [digitValue?, Option.ite_none_right_eq_some, Option.some.injEq] at h
  obtain ⟨hlt, hn⟩ := h
  rw [hn] at hlt
  by_cases hd : c.isDigit
  · rw [if_pos hd] at hn
    have hc := (char_of_isDigit hd).2
    rw [hn] at hc
    exact ⟨⟨⟨n, hlt⟩, false⟩, hc, rfl⟩
  · rw [if_neg hd] at hn
    by_cases ha : 'a' ≤ c ∧ c ≤ 'f'
    · rw [if_pos ha] at hn
      obtain ⟨ho, hc⟩ := ofNat_offset 'a' 'f' ha.1 ha.2
      have hchar := (char_a_to_f _ (Nat.lt_succ_of_le ho)).1
      rw [hn] at hchar
      exact ⟨⟨⟨n, hlt⟩, false⟩, hchar.trans hc, rfl⟩
    · rw [if_neg ha] at hn
      by_cases hA : 'A' ≤ c ∧ c ≤ 'F'
      · rw [if_pos hA] at hn
        obtain ⟨ho, hc⟩ := ofNat_offset 'A' 'F' hA.1 hA.2
        have hchar := (char_a_to_f _ (Nat.lt_succ_of_le ho)).2
        rw [hn] at hchar
        exact ⟨⟨⟨n, hlt⟩, true⟩, hchar.trans hc, rfl⟩
      · rw [if_neg hA] at hn
        exact absurd hlt (hn ▸ Nat.lt_irrefl base)

theorem digitValue?_of_lt {large : Nat} (h : digitValue? large c = some n) (hn : n < base) :
    digitValue? base c = some n := by
  simp only [digitValue?, Option.ite_none_right_eq_some, Option.some.injEq] at h ⊢
  obtain ⟨hlt, hv⟩ := h
  grind

theorem digitValue?_char (hb : base ≤ 16) (d : Digit base) :
    digitValue? base d.char = some (d.value : Nat) := by
  obtain ⟨⟨n, hn⟩, capital⟩ := d
  have h : ∀ n < 16, ∀ capital, digitValue? 16
      (if capital = true then (Nat.digitChar n).toUpper else Nat.digitChar n) = some n := by
    decide
  exact digitValue?_of_lt (h n (Nat.lt_of_lt_of_le hn hb) capital) hn

theorem exists_of_isDigit (h : c.isDigit) : ∃ d : Digit 10, d.char = c :=
  ⟨⟨⟨_, (char_of_isDigit h).1⟩, false⟩, (char_of_isDigit h).2⟩

theorem isDigit_char (d : Digit 10) : d.char.isDigit ∧ digitValue d.char = d.value := by
  obtain ⟨⟨n, hn⟩, capital⟩ := d
  have h : ∀ n < 10, ∀ capital,
      let c := if capital = true then (Nat.digitChar n).toUpper else Nat.digitChar n
      c.isDigit ∧ digitValue c = n := by
    decide
  exact h n hn capital

end Digit

namespace Row

theorem text_append (r t : Row base) : text (r ++ t) = r.text ++ t.text := List.map_append

theorem text_eq_nil_iff {r : Row base} : r.text = [] ↔ r = [] := List.map_eq_nil_iff

theorem length_text (r : Row base) : r.text.length = r.length := List.length_map _

theorem foldlM_eq_some_iff (hb : base ≤ 16) :
    s.foldlM (fun n c => (digitValue? base c).map (base * n + ·)) k = some n ↔
      ∃ r : Row base, r.text = s ∧ r.after k = n := by
  constructor
  · intro h
    induction s generalizing k with
    | nil => exact ⟨[], rfl, Option.some.inj h⟩
    | cons c s ih =>
        rw [List.foldlM_cons] at h
        obtain ⟨j, hj, hs⟩ := Option.bind_eq_some_iff.1 h
        obtain ⟨i, hi, rfl⟩ := Option.map_eq_some_iff.1 hj
        obtain ⟨d, hd, rfl⟩ := Digit.exists_of_digitValue? hi
        obtain ⟨r, hr, rfl⟩ := ih hs
        exact ⟨d :: r, by rw [← hd, ← hr]; rfl, rfl⟩
  · rintro ⟨r, rfl, rfl⟩
    induction r generalizing k with
    | nil => rfl
    | cons d r ih =>
        rw [text, List.map_cons, List.foldlM_cons, Digit.digitValue?_char hb]
        exact ih

theorem exists_of_isDigit (h : ∀ c ∈ s, c.isDigit) : ∃ r : Row 10, r.text = s := by
  induction s with
  | nil => exact ⟨[], rfl⟩
  | cons c s ih =>
      simp only [List.mem_cons, forall_eq_or_imp] at h
      obtain ⟨d, rfl⟩ := Digit.exists_of_isDigit h.1
      obtain ⟨r, rfl⟩ := ih h.2
      exact ⟨d :: r, rfl⟩

theorem isDigit_of_mem_text {r : Row 10} (h : c ∈ r.text) : c.isDigit := by
  obtain ⟨d, -, rfl⟩ := List.mem_map.1 h
  exact d.isDigit_char.1

theorem span_text (r : Row 10) (hs : ∀ c ∈ s.head?, ¬c.isDigit) :
    (r.text ++ s).takeWhile Char.isDigit = r.text ∧ (r.text ++ s).dropWhile Char.isDigit = s :=
  span_digits (fun _ hc => isDigit_of_mem_text hc) hs

theorem exists_span (s : List Char) : ∃ (r : Row 10) (t : List Char), r.text ++ t = s ∧
    s.takeWhile Char.isDigit = r.text ∧ s.dropWhile Char.isDigit = t := by
  obtain ⟨r, hr⟩ := exists_of_isDigit fun _ hc => List.mem_takeWhile_imp hc
  exact ⟨r, _, by rw [hr, List.takeWhile_append_dropWhile], hr.symm, rfl⟩

theorem natOfDigits_text (r : Row 10) : natOfDigits r.text = r.number := by
  rw [natOfDigits, text, List.foldl_map]
  simp only [Digit.isDigit_char]
  rfl

end Row

theorem word?_eq_some_iff (hb : base ≤ 16) :
    word? base s = some n ↔
      ∃ r : Row base, r ≠ [] ∧ r.number < 2 ^ 64 ∧ r.text = s ∧ r.number = n := by
  simp only [word?, Option.bind_eq_bind, Option.bind_eq_some_iff, Option.pure_def,
    Option.guard_eq_some', Option.some.injEq, exists_and_left, exists_const,
    Row.foldlM_eq_some_iff hb]
  rw [show wordBound = 2 ^ 64 from rfl]
  constructor
  · rintro ⟨hs, _, ⟨r, rfl, rfl⟩, hlt, rfl⟩
    refine ⟨r, ?_, hlt, rfl, rfl⟩
    rintro rfl
    simp [Row.text] at hs
  · rintro ⟨r, hr, hlt, rfl, rfl⟩
    exact ⟨by simpa [Row.text_eq_nil_iff] using hr, _, ⟨r, rfl, rfl⟩, hlt, rfl⟩

theorem digits?_eq_some_iff :
    (if !s.isEmpty && s.all Char.isDigit then some (natOfDigits s) else none) = some n ↔
      ∃ r : Row 10, r ≠ [] ∧ r.text = s ∧ r.number = n := by
  constructor
  · intro h
    split at h
    · rename_i hs
      rw [Bool.and_eq_true, List.all_eq_true] at hs
      obtain ⟨r, rfl⟩ := Row.exists_of_isDigit hs.2
      refine ⟨r, ?_, rfl, r.natOfDigits_text.symm.trans (Option.some.inj h)⟩
      rintro rfl
      simp [Row.text] at hs
    · simp at h
  · rintro ⟨r, hr, rfl, rfl⟩
    have hall : r.text.all Char.isDigit :=
      List.all_eq_true.2 fun _ hc => Row.isDigit_of_mem_text hc
    have hne : r.text.isEmpty = false := by simpa [Row.text_eq_nil_iff] using hr
    rw [hall, hne, Row.natOfDigits_text]
    rfl

theorem not_isDigit_sign : ∀ c ∈ ['+', '-'], ¬c.isDigit := by
  decide

theorem Row.sign_append_text {r : Row 10} (hr : r ≠ []) {sign : Sign} :
    (∀ t, sign.text ++ r.text = '+' :: t ↔ sign = .plus ∧ r.text = t) ∧
      (∀ t, sign.text ++ r.text = '-' :: t ↔ sign = .minus ∧ r.text = t) := by
  obtain ⟨d, r, rfl⟩ := List.exists_cons_of_ne_nil hr
  have hd := d.isDigit_char.1
  have hsign : d.char ∉ ['+', '-'] := fun h => not_isDigit_sign _ h hd
  have hplus : d.char ≠ '+' := fun h => hsign (by simp [h])
  have hminus : d.char ≠ '-' := fun h => hsign (by simp [h])
  cases sign <;> simp [Sign.text, text, hplus, hminus]

theorem exponent?_cons {m : Char} (hm : m = 'e' ∨ m = 'E') {e : Int} :
    exponent? (m :: s) = some e ↔
      ∃ sign : Sign, ∃ r : Row 10, r ≠ [] ∧ sign.text ++ r.text = s ∧ sign.apply r.number = e := by
  have signed {g : Int → Int} {digits : List Char} :
      Option.map g ((if !digits.isEmpty && digits.all Char.isDigit then
        some (natOfDigits digits) else none) >>= fun n : Nat => pure (n : Int)) = some e ↔
      ∃ r : Row 10, r ≠ [] ∧ r.text = digits ∧ g r.number = e := by
    simp only [Option.map_eq_some_iff, Option.bind_eq_bind, Option.bind_eq_some_iff,
      digits?_eq_some_iff, Option.pure_def, Option.some.injEq]
    constructor
    · rintro ⟨_, ⟨_, ⟨r, hr, ht, rfl⟩, rfl⟩, rfl⟩
      exact ⟨r, hr, ht, rfl⟩
    · rintro ⟨r, hr, ht, rfl⟩
      exact ⟨_, ⟨_, ⟨r, hr, ht, rfl⟩, rfl⟩, rfl⟩
  unfold exponent?
  simp only [if_pos hm]
  split
  · rw [signed]
    constructor
    · rintro ⟨r, hr, rfl, he⟩
      exact ⟨.plus, r, hr, rfl, he⟩
    · rintro ⟨sign, r, hr, hs, he⟩
      obtain ⟨rfl, rfl⟩ := ((Row.sign_append_text hr).1 _).1 hs
      exact ⟨r, hr, rfl, he⟩
  · rw [signed]
    constructor
    · rintro ⟨r, hr, rfl, he⟩
      exact ⟨.minus, r, hr, rfl, he⟩
    · rintro ⟨sign, r, hr, hs, he⟩
      obtain ⟨rfl, rfl⟩ := ((Row.sign_append_text hr).2 _).1 hs
      exact ⟨r, hr, rfl, he⟩
  · rename_i hplus hminus
    rw [signed]
    constructor
    · rintro ⟨r, hr, rfl, he⟩
      exact ⟨.none, r, hr, rfl, he⟩
    · rintro ⟨sign, r, hr, rfl, he⟩
      cases sign with
      | none => exact ⟨r, hr, rfl, he⟩
      | plus => exact absurd rfl (hplus r.text)
      | minus => exact absurd rfl (hminus r.text)

theorem exponent?_eq_some_iff {e : Int} : exponent? s = some e ↔
    ∃ w, Exponent.textOf w = s ∧ Exponent.valueOf w = e := by
  constructor
  · intro h
    cases s with
    | nil => exact ⟨none, rfl, Option.some.inj h⟩
    | cons m s =>
        by_cases hm : m = 'e' ∨ m = 'E'
        · obtain ⟨sign, r, hr, rfl, rfl⟩ := (exponent?_cons hm).1 h
          refine ⟨some ⟨m == 'E', sign, r, hr⟩, ?_, rfl⟩
          rcases hm with rfl | rfl <;> rfl
        · simp [exponent?, hm] at h
  · rintro ⟨w, rfl, rfl⟩
    cases w with
    | none => rfl
    | some w =>
        refine (exponent?_cons ?_).2 ⟨w.sign, w.digits, w.digits_ne, rfl, rfl⟩
        cases w.capital
        · exact .inl rfl
        · exact .inr rfl

theorem Exponent.head?_textOf (w : Option Exponent) :
    ∀ c ∈ (textOf w).head?, ¬c.isDigit ∧ c ≠ '.' := by
  cases w with
  | none => simp [textOf]
  | some w =>
      intro c hc
      obtain rfl := Option.some.inj hc
      cases w.capital <;> decide

theorem ofText?_text (m : Mantissa) (w : Option Exponent) :
    ofText? (m.text ++ Exponent.textOf w) =
      some ⟨m.digits.number, Exponent.valueOf w - m.places⟩ := by
  obtain ⟨whole, fraction, hne⟩ := m
  have hexponent : exponent? (Exponent.textOf w) = some (Exponent.valueOf w) :=
    exponent?_eq_some_iff.2 ⟨w, rfl, rfl⟩
  have hstop : ∀ c ∈ (Exponent.textOf w).head?, ¬c.isDigit := fun c hc =>
    (Exponent.head?_textOf w c hc).1
  unfold ofText?
  cases fraction with
  | none =>
      obtain ⟨htake, hdrop⟩ := whole.span_text hstop
      have hwhole : whole.text ≠ [] := by simpa [Row.text_eq_nil_iff] using hne
      simp only [Mantissa.text, Mantissa.pointed, List.append_nil, htake, hdrop]
      split
      · rename_i t ht
        exact absurd rfl (Exponent.head?_textOf w '.' (by rw [ht]; rfl)).2
      · simp [hwhole, hexponent, Row.natOfDigits_text, Mantissa.digits, Mantissa.places]
  | some fraction =>
      have hpoint : ∀ c ∈ ('.' :: (fraction.text ++ Exponent.textOf w)).head?, ¬c.isDigit := by
        simp
      obtain ⟨htake, hdrop⟩ := whole.span_text hpoint
      obtain ⟨htake', hdrop'⟩ := fraction.span_text hstop
      have hdigits : ¬(whole.text = [] ∧ fraction.text = []) := by
        simpa [Row.text_eq_nil_iff] using hne
      simp only [Mantissa.text, Mantissa.pointed, List.append_assoc, List.cons_append, htake,
        hdrop, htake', hdrop', hexponent, Bool.and_eq_true, List.isEmpty_iff]
      rw [if_neg hdigits, ← Row.text_append, Row.natOfDigits_text, Row.length_text]
      rfl

theorem exists_of_ofText? {d : Decimal} (h : ofText? s = some d) :
    ∃ m : Mantissa, ∃ w, m.text ++ Exponent.textOf w = s ∧
      ⟨m.digits.number, Exponent.valueOf w - m.places⟩ = d := by
  obtain ⟨whole, rest, hs, hwhole, hrest⟩ := Row.exists_span s
  unfold ofText? at h
  simp only [hwhole, hrest] at h
  split at h
  · rename_i t
    obtain ⟨fraction, after, ht, hfraction, hafter⟩ := Row.exists_span t
    simp only [hfraction, hafter, Option.ite_none_left_eq_some, Option.map_eq_some_iff,
      exponent?_eq_some_iff, Bool.and_eq_true, List.isEmpty_iff] at h
    obtain ⟨hne, _, ⟨w, rfl, rfl⟩, rfl⟩ := h
    refine ⟨⟨whole, some fraction, by simpa [Row.text_eq_nil_iff] using hne⟩, w, ?_, ?_⟩
    · simp [← hs, ← ht, Mantissa.text, Mantissa.pointed]
    · rw [← Row.text_append, Row.natOfDigits_text, Row.length_text]
      rfl
  · simp only [Option.ite_none_left_eq_some, Option.map_eq_some_iff, exponent?_eq_some_iff,
      Bool.and_eq_true, List.isEmpty_iff] at h
    obtain ⟨hne, _, ⟨w, rfl, rfl⟩, rfl⟩ := h
    refine ⟨⟨whole, none, by simpa [Row.text_eq_nil_iff] using hne⟩, w, ?_, ?_⟩
    · simp [← hs, Mantissa.text, Mantissa.pointed]
    · simp [Row.natOfDigits_text, Mantissa.digits, Mantissa.places]

theorem ofText?_eq_some_iff {d : Decimal} : ofText? s = some d ↔
    ∃ m : Mantissa, ∃ w, m.text ++ Exponent.textOf w = s ∧
      ⟨m.digits.number, Exponent.valueOf w - m.places⟩ = d := by
  constructor
  · exact exists_of_ofText?
  · rintro ⟨m, w, rfl, rfl⟩
    exact ofText?_text m w

theorem Mantissa.exists_text_eq_cons (m : Mantissa) :
    ∃ c t, m.text = c :: t ∧ (c.isDigit ∨ c = '.') := by
  obtain ⟨whole, fraction, hne⟩ := m
  cases whole with
  | cons d whole => exact ⟨d.char, _, rfl, .inl d.isDigit_char.1⟩
  | nil =>
      cases fraction with
      | some fraction => exact ⟨'.', fraction.text, rfl, .inr rfl⟩
      | none => exact absurd rfl hne

theorem signed?_eq_some_iff {x : Binary64} : signed? s = some x ↔
    ∃ sign m w, Spelling.text (.decimal sign m w) = s ∧ Spelling.value (.decimal sign m w) = x := by
  have unsigned (negative : Bool) {t : List Char} :
      (Decimal.ofText? t).map (Decimal.toBinary64 negative) = some x ↔
        ∃ m w, Mantissa.text m ++ Exponent.textOf w = t ∧
          Decimal.toBinary64 negative ⟨m.digits.number, Exponent.valueOf w - m.places⟩ = x := by
    simp only [Option.map_eq_some_iff, ofText?_eq_some_iff]
    constructor
    · rintro ⟨_, ⟨m, w, ht, rfl⟩, rfl⟩
      exact ⟨m, w, ht, rfl⟩
    · rintro ⟨m, w, ht, rfl⟩
      exact ⟨_, ⟨m, w, ht, rfl⟩, rfl⟩
  constructor
  · intro h
    unfold signed? at h
    split at h
    all_goals
      obtain ⟨m, w, rfl, hx⟩ := (unsigned _).1 h
    · exact ⟨.plus, m, w, rfl, hx⟩
    · exact ⟨.minus, m, w, rfl, hx⟩
    · exact ⟨.none, m, w, rfl, hx⟩
  · rintro ⟨sign, m, w, rfl, rfl⟩
    cases sign with
    | plus | minus => exact (unsigned _).2 ⟨m, w, rfl, rfl⟩
    | none =>
        -- a digit or a point comes first, so there is no sign to be taken off
        obtain ⟨c, t, ht, hc⟩ := m.exists_text_eq_cons
        have hplus : c ≠ '+' := by
          rintro rfl
          exact absurd hc (by decide)
        have hminus : c ≠ '-' := by
          rintro rfl
          exact absurd hc (by decide)
        have hread := (unsigned false).2 ⟨m, w, rfl, rfl⟩
        simp only [Spelling.text, Sign.text, List.nil_append, ht, List.cons_append] at hread ⊢
        rw [signed?.eq_3 _ (fun _ h => hplus (List.cons.inj h).1)
          (fun _ h => hminus (List.cons.inj h).1)]
        exact hread

theorem based?_eq_some_iff {b : Nat} {t : List Char} : based? s = some (b, t) ↔
    ∃ base : Base, ∃ capital, '0' :: base.letter capital :: t = s ∧ base.size = b := by
  constructor
  · intro h
    unfold based? at h
    split at h <;> simp only [Option.some.injEq, Prod.mk.injEq, reduceCtorEq] at h
    all_goals obtain ⟨rfl, rfl⟩ := h
    · exact ⟨.sixteen, false, rfl, rfl⟩
    · exact ⟨.sixteen, true, rfl, rfl⟩
    · exact ⟨.eight, false, rfl, rfl⟩
    · exact ⟨.eight, true, rfl, rfl⟩
    · exact ⟨.two, false, rfl, rfl⟩
    · exact ⟨.two, true, rfl, rfl⟩
  · rintro ⟨base, capital, rfl, rfl⟩
    cases base <;> cases capital <;> rfl

def isDecimalMark (c : Char) : Bool :=
  c.isDigit || c == '+' || c == '-' || c == '.' || c == 'e' || c == 'E'

theorem isDecimalMark_of_mem_text {r : Row 10} (h : c ∈ r.text) : isDecimalMark c := by
  simp [isDecimalMark, Row.isDigit_of_mem_text h]

theorem isDecimalMark_of_mem_sign {sign : Sign} (h : c ∈ sign.text) : isDecimalMark c := by
  cases sign <;> simp only [Sign.text, List.mem_singleton, List.not_mem_nil] at h <;> subst h <;>
    rfl

theorem isDecimalMark_of_mem_decimal {sign : Sign} {m : Mantissa} {w : Option Exponent}
    (h : c ∈ Spelling.text (.decimal sign m w)) : isDecimalMark c := by
  simp only [Spelling.text, Mantissa.text, List.mem_append] at h
  rcases h with h | (h | h) | h
  · exact isDecimalMark_of_mem_sign h
  · exact isDecimalMark_of_mem_text h
  · cases hf : m.fraction with
    | none => simp [hf, Mantissa.pointed] at h
    | some r =>
        rw [hf, Mantissa.pointed, List.mem_cons] at h
        rcases h with rfl | h
        · rfl
        · exact isDecimalMark_of_mem_text h
  · cases w with
    | none => simp [Exponent.textOf] at h
    | some w =>
        rw [Exponent.textOf, List.mem_cons, List.mem_append] at h
        rcases h with rfl | h | h
        · cases w.capital <;> rfl
        · exact isDecimalMark_of_mem_sign h
        · exact isDecimalMark_of_mem_text h

theorem based?_decimal (sign : Sign) (m : Mantissa) (w : Option Exponent) :
    based? (Spelling.text (.decimal sign m w)) = none := by
  rw [Option.eq_none_iff_forall_ne_some]
  rintro ⟨b, t⟩ h
  obtain ⟨base, capital, ht, -⟩ := based?_eq_some_iff.1 h
  have hm : isDecimalMark (base.letter capital) :=
    isDecimalMark_of_mem_decimal (ht ▸ List.mem_cons_of_mem _ List.mem_cons_self)
  cases base <;> cases capital <;> exact absurd hm (by decide)

theorem Base.size_le (base : Base) : base.size ≤ 16 := by
  cases base <;> decide

theorem read?_eq_some_iff {x : Binary64} :
    read? s = some x ↔ ∃ w : Spelling, w.text = trim s ∧ w.value = x := by
  constructor
  · intro h
    unfold read? at h
    simp only at h
    split at h
    · rename_i hs
      obtain rfl := Option.some.inj h
      rcases hs with hs | hs
      · exact ⟨.infinity .none, hs.symm, rfl⟩
      · exact ⟨.infinity .plus, hs.symm, rfl⟩
    · split at h
      · rename_i hs
        obtain rfl := Option.some.inj h
        exact ⟨.infinity .minus, hs.symm, rfl⟩
      · split at h
        · rename_i b t hb
          obtain ⟨base, capital, ht, rfl⟩ := based?_eq_some_iff.1 hb
          obtain ⟨n, hn, rfl⟩ := Option.map_eq_some_iff.1 h
          obtain ⟨r, hr, hlt, rfl, rfl⟩ := (word?_eq_some_iff base.size_le).1 hn
          exact ⟨.word base capital r hr hlt, ht, rfl⟩
        · obtain ⟨sign, m, w, ht, hx⟩ := signed?_eq_some_iff.1 h
          exact ⟨.decimal sign m w, ht, hx⟩
  · rintro ⟨w, hw, rfl⟩
    unfold read?
    simp only [← hw]
    cases w with
    | infinity sign => cases sign <;> rfl
    | word base capital r hr hlt =>
        have hb : based? ('0' :: base.letter capital :: r.text) = some (base.size, r.text) :=
          based?_eq_some_iff.2 ⟨base, capital, rfl, rfl⟩
        have hn : word? base.size r.text = some r.number :=
          (word?_eq_some_iff base.size_le).2 ⟨r, hr, hlt, rfl, rfl⟩
        simp [Spelling.text, hb, hn, Spelling.value]
    | decimal sign m w =>
        -- the letter of an infinity is in no decimal number
        have hi {t : List Char} (ht : 'I' ∈ t) : Spelling.text (.decimal sign m w) ≠ t := by
          rintro rfl
          exact absurd (isDecimalMark_of_mem_decimal ht) (by decide)
        rw [if_neg (not_or.2 ⟨hi (by decide), hi (by decide)⟩), if_neg (hi (by decide)),
          based?_decimal]
        exact signed?_eq_some_iff.2 ⟨sign, m, w, rfl, rfl⟩

theorem Spelling.isNaN_value (w : Spelling) : w.value.isNaN = false := by
  cases w with
  | infinity sign => exact Binary64.isNaN_infinity _
  | word base capital digits digits_ne lt => exact Binary64.isNaN_ofRatio _ _
  | decimal sign mantissa exponent => exact Decimal.isNaN_toBinary64 _ _

theorem isNaN_of_read? {x : Binary64} (h : read? s = some x) : x.isNaN = false := by
  obtain ⟨w, -, rfl⟩ := read?_eq_some_iff.1 h
  exact w.isNaN_value

end

end ResourceQuery.Numeral

namespace ResourceQuery.Leaf

open Numeral Text

/-- A text is read as a number just where it is the spelling of one, blanks around it apart. -/
theorem numeral_spelled (text : String) :
    ((∃ x, numeral text = .ok x) ↔ ∃ w : Spelling, w.text = trim text.toList) ∧
    (numeral text = .error (.number text) ↔ ∀ w : Spelling, w.text ≠ trim text.toList) ∧
    ∀ w : Spelling, w.text = trim text.toList →
      numeral text = .ok w.value ∧ w.value.isNaN = false := by
  have spelled {w : Spelling} (hw : w.text = trim text.toList) : numeral text = .ok w.value := by
    rw [numeral, read?_eq_some_iff.2 ⟨w, hw, rfl⟩]
  have unspelled (h : ¬∃ w : Spelling, w.text = trim text.toList) :
      numeral text = .error (.number text) := by
    have hread : read? text.toList = none := by
      rw [Option.eq_none_iff_forall_ne_some]
      intro x hx
      obtain ⟨w, hw, -⟩ := read?_eq_some_iff.1 hx
      exact h ⟨w, hw⟩
    rw [numeral, hread]
  refine ⟨⟨fun ⟨x, hx⟩ => ?_, fun ⟨w, hw⟩ => ⟨_, spelled hw⟩⟩, ⟨fun h w hw => ?_, fun h => ?_⟩,
    fun w hw => ⟨spelled hw, w.isNaN_value⟩⟩
  · by_contra h
    simp [unspelled h] at hx
  · simp [spelled hw] at h
  · exact unspelled fun ⟨w, hw⟩ => h w hw

theorem numeral_spelled_blanks_and_prefix :
    numeral "\u2003-.5e+1 " = .ok (Decimal.toBinary64 true ⟨5, 0⟩) ∧
      (Decimal.toBinary64 true ⟨5, 0⟩).isNaN = false ∧
    ∀ w : Spelling, w.text ≠ "0b1e5".toList :=
  have read := (numeral_spelled "\u2003-.5e+1 ").2.2
    (.decimal .minus ⟨[], some [⟨5, false⟩], by decide⟩
      (some ⟨false, .plus, [⟨1, false⟩], by decide⟩)) (by decide)
  ⟨read.1, read.2, (numeral_spelled "0b1e5").2.1.1 (by decide)⟩

end ResourceQuery.Leaf
