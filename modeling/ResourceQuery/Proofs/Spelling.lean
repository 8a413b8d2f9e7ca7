import Mathlib.Data.List.TakeWhile
import Mathlib.Data.Option.Basic
import ResourceQuery.Leaf
import ResourceQuery.Proofs.Digits

namespace ResourceQuery.Calendar

open Decimal Unicode

/-- So many decimal digits, which may be of any script. -/
structure DigitRow (count : Nat) where
  chars : List Char
  length_eq : chars.length = count
  decimal : ∀ c ∈ chars, isDecimalDigit c

/-- A year has four digits, or a sign and six. -/
inductive YearSpelling
  | plain (row : DigitRow 4)
  | signed (negative : Bool) (row : DigitRow 6)

namespace YearSpelling

def digits : YearSpelling → List Char
  | plain row => row.chars
  | signed _ row => row.chars

def text : YearSpelling → List Char
  | plain row => row.chars
  | signed negative row => (if negative then '-' else '+') :: row.chars

def apply : YearSpelling → Nat → Int
  | signed true _, n => -n
  | _, n => n

end YearSpelling

structure Fraction where
  digits : List Char
  decimal : ∀ c ∈ digits, isDecimalDigit c

namespace Fraction

def digitsOf : Option Fraction → List Char
  | none => []
  | some f => f.digits

def textOf : Option Fraction → List Char
  | none => []
  | some f => '.' :: f.digits

end Fraction

structure Spelling where
  year : YearSpelling
  month : DigitRow 2
  day : DigitRow 2
  hour : DigitRow 2
  minute : DigitRow 2
  second : DigitRow 2
  fraction : Option Fraction

namespace Spelling

def fractionDigits (w : Spelling) : List Char := Fraction.digitsOf w.fraction

def text (w : Spelling) : List Char :=
  w.year.text ++ '-' :: (w.month.chars ++ '-' :: (w.day.chars ++ 'T' :: (w.hour.chars ++
    ':' :: (w.minute.chars ++ ':' :: (w.second.chars ++
      (Fraction.textOf w.fraction ++ ['Z']))))))

def timestamp (w : Spelling) : Timestamp :=
  ⟨w.year.apply (Timestamp.field w.year.digits), Timestamp.field w.month.chars,
    Timestamp.field w.day.chars, Timestamp.field w.hour.chars, Timestamp.field w.minute.chars,
    Timestamp.field w.second.chars, Timestamp.milliseconds w.fractionDigits⟩

end Spelling

namespace Timestamp

variable {count : Nat} {s rest d : List Char} {c : Char}

theorem digits?_eq_some_iff :
    digits? count s = some (d, rest) ↔ ∃ row : DigitRow count, row.chars = d ∧
      s = row.chars ++ rest := by
  simp only [digits?, List.splitAt_eq]
  constructor
  · intro h
    split at h
    · rename_i hd
      obtain ⟨rfl, rfl⟩ := Prod.mk.inj (Option.some.inj h)
      exact ⟨⟨_, hd.1, List.all_eq_true.1 hd.2⟩, rfl, (List.take_append_drop _ _).symm⟩
    · simp at h
  · rintro ⟨row, rfl, rfl⟩
    have hall : row.chars.all isDecimalDigit := List.all_eq_true.2 row.decimal
    rw [List.take_left' row.length_eq, List.drop_left' row.length_eq,
      if_pos ⟨row.length_eq, hall⟩]

theorem mark?_eq_some_iff : mark? c s = some rest ↔ s = c :: rest := by
  cases s with
  | nil => simp [mark?]
  | cons d s => simp [mark?]

theorem mark?_digits?_iff :
    (∃ t, mark? c s = some t ∧ digits? count t = some (d, rest)) ↔
      ∃ row : DigitRow count, row.chars = d ∧ s = c :: (row.chars ++ rest) := by
  simp only [mark?_eq_some_iff, digits?_eq_some_iff]
  constructor
  · rintro ⟨_, rfl, row, hd, rfl⟩
    exact ⟨row, hd, rfl⟩
  · rintro ⟨row, hd, rfl⟩
    exact ⟨_, rfl, row, hd, rfl⟩

theorem not_isDecimalDigit_mark :
    isDecimalDigit '+' = false ∧ isDecimalDigit '-' = false ∧ isDecimalDigit 'Z' = false := by
  decide +kernel

theorem year?_eq_some_iff {year : Int} :
    year? s = some (year, rest) ↔ ∃ y : YearSpelling, y.apply (field y.digits) = year ∧
      s = y.text ++ rest := by
  constructor
  · intro h
    unfold year? at h
    split at h
    all_goals
      obtain ⟨⟨d, r⟩, hd, he⟩ := Option.map_eq_some_iff.1 h
      obtain ⟨row, rfl, rfl⟩ := digits?_eq_some_iff.1 hd
      obtain ⟨rfl, rfl⟩ := Prod.mk.inj he
    · exact ⟨.signed false row, rfl, rfl⟩
    · exact ⟨.signed true row, rfl, rfl⟩
    · exact ⟨.plain row, rfl, rfl⟩
  · rintro ⟨y, rfl, rfl⟩
    match y with
    | .signed false row | .signed true row =>
        exact Option.map_eq_some_iff.2 ⟨_, digits?_eq_some_iff.2 ⟨row, rfl, rfl⟩, rfl⟩
    | .plain row =>
        obtain ⟨c, t, ht⟩ := List.exists_cons_of_length_pos (l := row.chars)
          (by rw [row.length_eq]; decide)
        have hc : isDecimalDigit c := row.decimal c (ht ▸ List.mem_cons_self)
        have hhead {x : Char} (hx : isDecimalDigit x = false) (u : List Char)
            (he : row.chars ++ rest = x :: u) : False := by
          rw [ht, List.cons_append, List.cons.injEq] at he
          rw [he.1, hx] at hc
          exact Bool.false_ne_true hc
        obtain ⟨hplus, hminus, -⟩ := not_isDecimalDigit_mark
        exact (year?.eq_3 _ (hhead hplus) (hhead hminus)).trans
          (Option.map_eq_some_iff.2 ⟨_, digits?_eq_some_iff.2 ⟨row, rfl, rfl⟩, rfl⟩)

theorem fraction?_eq_some_iff : fraction? s = some (d, ['Z']) ↔
    ∃ f, Fraction.digitsOf f = d ∧ s = Fraction.textOf f ++ ['Z'] := by
  constructor
  · intro h
    unfold fraction? at h
    split at h
    · rename_i s
      obtain ⟨rfl, hrest⟩ := Prod.mk.inj (Option.some.inj h)
      refine ⟨some ⟨_, fun c hc => List.mem_takeWhile_imp hc⟩, rfl, ?_⟩
      rw [Fraction.textOf, List.cons_append, ← hrest, List.takeWhile_append_dropWhile]
    · obtain ⟨rfl, rfl⟩ := Prod.mk.inj (Option.some.inj h)
      exact ⟨none, rfl, rfl⟩
  · rintro ⟨f, rfl, rfl⟩
    cases f with
    | none => rfl
    | some f =>
        rw [Fraction.textOf, List.cons_append, fraction?,
          List.takeWhile_append_of_pos f.decimal, List.dropWhile_append_of_pos f.decimal]
        simp [Fraction.digitsOf, not_isDecimalDigit_mark.2.2]

theorem ofText?_eq_some_iff {t : Timestamp} :
    ofText? s = some t ↔ ∃ w : Spelling, w.text = s ∧ w.timestamp = t := by
  simp only [ofText?, Option.bind_eq_bind, Option.bind_eq_some_iff]
  constructor
  · rintro ⟨⟨_, _⟩, hyear, ⟨_, _⟩, hmonth, ⟨_, _⟩, hday, ⟨_, _⟩, hhour, ⟨_, _⟩, hminute, ⟨_, _⟩,
      hsecond, ⟨_, z⟩, hfraction, _, hz, ht⟩
    obtain rfl : z = ['Z'] := by simpa using hz
    obtain ⟨year, rfl, rfl⟩ := year?_eq_some_iff.1 hyear
    obtain ⟨month, rfl, rfl⟩ := mark?_digits?_iff.1 hmonth
    obtain ⟨day, rfl, rfl⟩ := mark?_digits?_iff.1 hday
    obtain ⟨hour, rfl, rfl⟩ := mark?_digits?_iff.1 hhour
    obtain ⟨minute, rfl, rfl⟩ := mark?_digits?_iff.1 hminute
    obtain ⟨second, rfl, rfl⟩ := mark?_digits?_iff.1 hsecond
    obtain ⟨fraction, rfl, rfl⟩ := fraction?_eq_some_iff.1 hfraction
    exact ⟨⟨year, month, day, hour, minute, second, fraction⟩, rfl, Option.some.inj ht⟩
  · rintro ⟨w, rfl, rfl⟩
    refine ⟨_, year?_eq_some_iff.2 ⟨w.year, rfl, rfl⟩,
      _, mark?_digits?_iff.2 ⟨w.month, rfl, rfl⟩,
      _, mark?_digits?_iff.2 ⟨w.day, rfl, rfl⟩,
      _, mark?_digits?_iff.2 ⟨w.hour, rfl, rfl⟩,
      _, mark?_digits?_iff.2 ⟨w.minute, rfl, rfl⟩,
      _, mark?_digits?_iff.2 ⟨w.second, rfl, rfl⟩,
      _, fraction?_eq_some_iff.2 ⟨w.fraction, rfl, rfl⟩, ?_⟩
    simp [Spelling.timestamp, Spelling.fractionDigits]

end Timestamp

end ResourceQuery.Calendar
