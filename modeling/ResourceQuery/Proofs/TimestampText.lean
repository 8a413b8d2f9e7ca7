import ResourceQuery.Proofs.CivilDay
import ResourceQuery.Proofs.Spelling

namespace ResourceQuery.Calendar

open Decimal Unicode

section

variable {w n : Nat} (hw : 0 < w) (h : n < 10 ^ w)

include hw h in
theorem length_pad : (pad w n).length = w := by
  have := length_digits_le hw h
  simp only [pad, List.length_append, List.length_replicate]
  omega

theorem isDigit_of_mem_pad {c : Char} (hc : c ∈ pad w n) : c.isDigit := by
  simp only [pad, List.mem_append, List.mem_replicate] at hc
  rcases hc with ⟨-, rfl⟩ | hc
  · rfl
  · exact isDigit_of_mem_digits hc

theorem field_pad : Timestamp.field (pad w n) = n := by
  rw [Timestamp.field, if_pos (List.all_eq_true.2 fun c hc => isDigit_of_mem_pad hc), pad,
    natOfDigits_zeros, natOfDigits_digits]

def DigitRow.ofNat (hw : 0 < w) (h : n < 10 ^ w) : DigitRow w where
  chars := pad w n
  length_eq := length_pad hw h
  decimal := fun _ hc => isDecimalDigit_of_isDigit (isDigit_of_mem_pad hc)

end

theorem milliseconds_pad {n : Nat} (h : n < 10 ^ 3) : Timestamp.milliseconds (pad 3 n) = n := by
  rw [Timestamp.milliseconds, List.take_left' (length_pad (by decide) h), field_pad]

def YearSpelling.ofInt {year : Int} (h : year.natAbs < 10 ^ 6) : YearSpelling :=
  if hy : 0 ≤ year ∧ year ≤ 9999 then .plain (.ofNat (n := year.toNat) (by decide) (by omega))
  else .signed (year < 0) (.ofNat (n := year.natAbs) (by decide) h)

section

variable {year : Int} (h : year.natAbs < 10 ^ 6)

theorem YearSpelling.text_ofInt : (YearSpelling.ofInt h).text = writeYear year := by
  unfold YearSpelling.ofInt writeYear
  split
  · rfl
  · simp [YearSpelling.text, DigitRow.ofNat]

theorem YearSpelling.apply_ofInt :
    (YearSpelling.ofInt h).apply (Timestamp.field (YearSpelling.ofInt h).digits) = year := by
  unfold YearSpelling.ofInt
  split
  · simp only [YearSpelling.apply, YearSpelling.digits, DigitRow.ofNat, field_pad]
    omega
  · by_cases hneg : year < 0
    · simp only [YearSpelling.apply, YearSpelling.digits, DigitRow.ofNat, field_pad, hneg,
        decide_true]
      omega
    · simp only [YearSpelling.apply, YearSpelling.digits, DigitRow.ofNat, field_pad, hneg,
        decide_false]
      omega

end

theorem Timestamp.monthStart_eq {t : Timestamp} (h1 : 1 ≤ t.month) (h12 : t.month ≤ 12) :
    t.monthStart = ⟨t.year, t.month, 1⟩ := by
  simp only [monthStart, Civil.mk.injEq, and_true]
  omega

theorem Timestamp.millis_of_month {t : Timestamp} (h1 : 1 ≤ t.month) (h12 : t.month ≤ 12) :
    t.millis = (Civil.mk t.year t.month t.day).toDays * dayMillis +
      (((t.hour : Int) * 60 + t.minute) * 60 + t.second) * 1000 + t.milli := by
  rw [millis, monthStart_eq h1 h12, Civil.toDays_day t.year t.month t.day]

def Instant.timestamp (t : Instant) : Timestamp :=
  ⟨t.civil.year, t.civil.month, t.civil.day, t.timeOfDay / 3600000, t.timeOfDay / 60000 % 60,
    t.timeOfDay / 1000 % 60, t.timeOfDay % 1000⟩

namespace Instant

variable (t : Instant)

theorem ofText?_write_timestamp : Timestamp.ofText? t.write = some t.timestamp := by
  have hyear := t.year_civil
  have hmonth := Civil.month_ofDays (t.millis / dayMillis)
  have hday := Civil.day_ofDays (t.millis / dayMillis)
  have htime := t.timeOfDay_lt
  have hy6 : t.civil.year.natAbs < 10 ^ 6 := by
    rw [leastYear, greatestYear] at hyear
    omega
  have hm2 : t.civil.month < 10 ^ 2 := Nat.lt_of_le_of_lt hmonth.2 (by decide)
  have hd2 : t.civil.day < 10 ^ 2 := Nat.lt_of_le_of_lt hday.2 (by decide)
  have hms : t.timeOfDay % 1000 < 10 ^ 3 := by omega
  refine Timestamp.ofText?_eq_some_iff.2 ⟨⟨.ofInt hy6, .ofNat (by decide) hm2,
    .ofNat (by decide) hd2, .ofNat (n := t.timeOfDay / 3600000) (by decide) (by omega),
    .ofNat (n := t.timeOfDay / 60000 % 60) (by decide) (by omega),
    .ofNat (n := t.timeOfDay / 1000 % 60) (by decide) (by omega),
    some ⟨_, (DigitRow.ofNat (by decide) hms).decimal⟩⟩, ?_, ?_⟩
  · simp [Spelling.text, Fraction.textOf, YearSpelling.text_ofInt, DigitRow.ofNat, write]
  · simp only [Spelling.timestamp, Spelling.fractionDigits, Fraction.digitsOf,
      YearSpelling.apply_ofInt, DigitRow.ofNat, field_pad, milliseconds_pad hms]
    rfl

theorem month_timestamp : 1 ≤ t.timestamp.month ∧ t.timestamp.month ≤ 12 :=
  Civil.month_ofDays (t.millis / dayMillis)

theorem monthStart_timestamp :
    t.timestamp.monthStart = ⟨t.civil.year, t.civil.month, 1⟩ :=
  Timestamp.monthStart_eq t.month_timestamp.1 t.month_timestamp.2

theorem millis_timestamp : t.timestamp.millis = t.millis := by
  have ht := t.timeOfDay_lt
  have hcivil : Civil.mk t.timestamp.year t.timestamp.month t.timestamp.day = t.civil := rfl
  rw [Timestamp.millis_of_month t.month_timestamp.1 t.month_timestamp.2, t.millis_eq, hcivil]
  simp only [timestamp]
  omega

theorem instant?_timestamp : t.timestamp.instant? = some t := by
  rw [Timestamp.instant?, monthStart_timestamp, if_pos t.year_civil, millis_timestamp, ofMillis?,
    dif_pos ⟨t.least_le, t.le_greatest⟩]

theorem ofText?_write : ofText? t.write = some t := by
  rw [ofText?, ofText?_write_timestamp]
  exact t.instant?_timestamp

end Instant

end ResourceQuery.Calendar
