import ResourceQuery.Proofs.CivilDay
import ResourceQuery.Proofs.Spelling

namespace ResourceQuery.Calendar

open Decimal Unicode

namespace Timestamp

variable (t : Timestamp)

theorem month_monthStart : 1 ≤ t.monthStart.month ∧ t.monthStart.month ≤ 12 := by
  simp only [monthStart]
  omega

theorem counted_monthStart : Civil.Counted t.monthStart.toDays t.monthStart := by
  have hlength := (Civil.monthLength_bounds t.monthStart.year t.monthStart.month).1
  have hday : 1 ≤ monthLength t.monthStart.year t.monthStart.month := by omega
  exact Civil.counted_iff.2
    ⟨⟨t.month_monthStart.1, t.month_monthStart.2, Nat.le_refl 1, hday⟩, rfl⟩

/-- The start of the month and the instant are both in the calendar. -/
structure IsInRange : Prop where
  leastYear_le : leastYear ≤ t.monthStart.year
  le_greatestYear : t.monthStart.year ≤ greatestYear
  least_le : -8334601228800000 ≤ t.millis
  le_greatest : t.millis ≤ 8210266876799999

theorem isInRange_iff : t.IsInRange ↔
    (leastYear ≤ t.monthStart.year ∧ t.monthStart.year ≤ greatestYear) ∧
      -8334601228800000 ≤ t.millis ∧ t.millis ≤ 8210266876799999 := by
  constructor
  · rintro ⟨hleast, hgreatest, hl, hg⟩
    exact ⟨⟨hleast, hgreatest⟩, hl, hg⟩
  · rintro ⟨⟨hleast, hgreatest⟩, hl, hg⟩
    exact ⟨hleast, hgreatest, hl, hg⟩

instance : Decidable t.IsInRange := decidable_of_iff' _ t.isInRange_iff

theorem instant?_eq : t.instant? =
    if h : t.IsInRange then some ⟨t.millis, h.least_le, h.le_greatest⟩ else none := by
  unfold instant? Instant.ofMillis?
  by_cases h : t.IsInRange
  · rw [dif_pos h, if_pos (t.isInRange_iff.1 h).1, dif_pos (t.isInRange_iff.1 h).2]
  · rw [dif_neg h]
    split
    · rename_i hyear
      exact dif_neg fun hmillis => h (t.isInRange_iff.2 ⟨hyear, hmillis⟩)
    · rfl

structure Fits : Prop where
  month : t.month < 100
  day : t.day < 100
  hour : t.hour < 100
  minute : t.minute < 100
  second : t.second < 100
  milli : t.milli < 1000

section

variable {t} (h : t.Fits) (hy : 0 ≤ t.year ∧ t.year ≤ 9999)

include h hy

theorem year_monthStart : -1 ≤ t.monthStart.year ∧ t.monthStart.year ≤ 10007 := by
  have hmonth := h.month
  simp only [monthStart]
  omega

theorem millis_bounds : -100000000000000 ≤ t.millis ∧ t.millis ≤ 300000000000000 := by
  have hmonth : Civil.daysBeforeMonth ((t.monthStart.month + 9) % 12) ≤ 337 := by
    simp only [Civil.daysBeforeMonth]
    omega
  have hdays : -1000000 ≤ t.monthStart.toDays ∧ t.monthStart.toDays ≤ 3000000 := by
    have hyear := year_monthStart h hy
    rw [Civil.toDays_eq t.monthStart.year t.monthStart.day t.month_monthStart.2]
    rw [show t.monthStart.day = 1 from rfl]
    generalize t.monthStart.year = year at *
    simp only [Civil.daysBeforeYear]
    split <;> omega
  obtain ⟨_, _, _, _, _, _⟩ := h
  simp only [millis, dayMillis]
  omega

/-- Years of four digits are so far from the ends of the calendar that no field leads out of it. -/
theorem Fits.isInRange : t.IsInRange := by
  obtain ⟨hleast, hgreatest⟩ := year_monthStart h hy
  obtain ⟨hl, hg⟩ := millis_bounds h hy
  exact ⟨Int.le_trans (by decide) hleast, Int.le_trans hgreatest (by decide),
    Int.le_trans (by decide) hl, Int.le_trans hg (by decide)⟩

end

end Timestamp

theorem field_of_isDigit {s : List Char} (h : ∀ c ∈ s, c.isDigit) :
    Timestamp.field s = natOfDigits s :=
  if_pos (List.all_eq_true.2 h)

theorem field_lt {s : List Char} {count : Nat} (h : s.length = count) :
    Timestamp.field s < 10 ^ count := by
  unfold Timestamp.field
  split
  · rename_i hd
    exact h ▸ natOfDigits_lt (List.all_eq_true.1 hd)
  · exact Nat.pow_pos (by decide)

theorem milliseconds_lt (s : List Char) : Timestamp.milliseconds s < 10 ^ 3 :=
  field_lt (by simp)

namespace Spelling

theorem fits_timestamp (w : Spelling) : w.timestamp.Fits where
  month := field_lt w.month.length_eq
  day := field_lt w.day.length_eq
  hour := field_lt w.hour.length_eq
  minute := field_lt w.minute.length_eq
  second := field_lt w.second.length_eq
  milli := milliseconds_lt w.fractionDigits

theorem isInRange_of_plain {w : Spelling} {row : DigitRow 4} (h : w.year = .plain row) :
    w.timestamp.IsInRange := by
  have hlt : Timestamp.field row.chars < 10 ^ 4 := field_lt row.length_eq
  have hyear : w.timestamp.year = Timestamp.field row.chars := by
    simp only [timestamp, h]
    rfl
  exact w.fits_timestamp.isInRange (by omega)

end Spelling

/-- What is read of a spelling has the digits from 0 to 9 only. -/
structure Spelling.IsLegible (w : Spelling) : Prop where
  year : ∀ c ∈ w.year.digits, c.isDigit
  month : ∀ c ∈ w.month.chars, c.isDigit
  day : ∀ c ∈ w.day.chars, c.isDigit
  hour : ∀ c ∈ w.hour.chars, c.isDigit
  minute : ∀ c ∈ w.minute.chars, c.isDigit
  second : ∀ c ∈ w.second.chars, c.isDigit
  fraction : ∀ c ∈ w.fractionDigits.take 3, c.isDigit

theorem Spelling.IsLegible.timestamp {w : Spelling} (h : w.IsLegible) : w.timestamp =
    ⟨w.year.apply (natOfDigits w.year.digits), natOfDigits w.month.chars,
      natOfDigits w.day.chars, natOfDigits w.hour.chars, natOfDigits w.minute.chars,
      natOfDigits w.second.chars, natOfDigits ((w.fractionDigits ++ ['0', '0', '0']).take 3)⟩ := by
  have hfraction : ∀ c ∈ (w.fractionDigits ++ ['0', '0', '0']).take 3, c.isDigit := by
    intro c hc
    rw [List.take_append, List.mem_append] at hc
    rcases hc with hc | hc
    · exact h.fraction c hc
    · have hzeros : ∀ d ∈ ['0', '0', '0'], d.isDigit := by decide
      exact hzeros c (List.mem_of_mem_take hc)
  simp only [Spelling.timestamp, Timestamp.milliseconds, field_of_isDigit h.year,
    field_of_isDigit h.month, field_of_isDigit h.day, field_of_isDigit h.hour,
    field_of_isDigit h.minute, field_of_isDigit h.second, field_of_isDigit hfraction]

end ResourceQuery.Calendar

namespace ResourceQuery.Leaf

open Calendar Decimal

theorem date_text (w : Spelling) : date (String.ofList w.text) =
    if h : w.timestamp.IsInRange then .ok (.date ⟨w.timestamp.millis, h.least_le, h.le_greatest⟩)
    else .error (.date (String.ofList w.text)) := by
  have hread : Instant.ofText? w.text = w.timestamp.instant? := by
    rw [Instant.ofText?, Timestamp.ofText?_eq_some_iff.2 ⟨w, rfl, rfl⟩]
  rw [date, String.toList_ofList, hread, Timestamp.instant?_eq]
  by_cases h : w.timestamp.IsInRange
  · rw [dif_pos h, dif_pos h]
  · rw [dif_neg h, dif_neg h]

/-- A field that exceeds its unit is carried on into the next one. The first of the month that the
other fields are counted from has to be in the calendar, and so has what comes of them. -/
theorem date_rolls_over {w : Spelling} (h : w.IsLegible) :
    let month : Int := natOfDigits w.month.chars - 1
    let year : Int := w.year.apply (natOfDigits w.year.digits) + month / 12
    ∃ start : Int, Civil.Counted start ⟨year, (month % 12).toNat + 1, 1⟩ ∧
      let n : Int := start * 86400000 + (natOfDigits w.day.chars - 1) * 86400000 +
        natOfDigits w.hour.chars * 3600000 + natOfDigits w.minute.chars * 60000 +
        natOfDigits w.second.chars * 1000 +
        natOfDigits ((w.fractionDigits ++ ['0', '0', '0']).take 3)
      date (String.ofList w.text) =
        if hn : (-262143 ≤ year ∧ year ≤ 262142) ∧ -8334601228800000 ≤ n ∧ n ≤ 8210266876799999
        then .ok (.date ⟨n, hn.2.1, hn.2.2⟩)
        else .error (.date (String.ofList w.text)) := by
  intro month year
  have hstart : w.timestamp.monthStart = ⟨year, (month % 12).toNat + 1, 1⟩ := by
    rw [h.timestamp]
    rfl
  refine ⟨w.timestamp.monthStart.toDays, hstart ▸ w.timestamp.counted_monthStart, ?_⟩
  intro n
  have hn : w.timestamp.millis = n := by
    simp only [n, Timestamp.millis, dayMillis]
    rw [h.timestamp]
    simp only
    omega
  have hrange : w.timestamp.IsInRange ↔
      (-262143 ≤ year ∧ year ≤ 262142) ∧ -8334601228800000 ≤ n ∧ n ≤ 8210266876799999 := by
    rw [Timestamp.isInRange_iff, hstart, hn]
    rfl
  rw [date_text]
  by_cases hc : w.timestamp.IsInRange
  · simp only [dif_pos hc, dif_pos (hrange.1 hc), hn]
  · rw [dif_neg hc, dif_neg fun h => hc (hrange.2 h)]

theorem date_rolls_over_back :
    ∃ w : Spelling, w.text = "-000001-00-00T99:99:99.9Z".toList ∧ w.IsLegible ∧
      ∃ t : Instant, t.civil = ⟨-2, 12, 4⟩ ∧ t.timeOfDay = ((4 * 60 + 40) * 60 + 39) * 1000 + 900 ∧
        date (String.ofList w.text) = .ok (.date t) := by
  let w : Spelling :=
    ⟨.signed true ⟨"000001".toList, rfl, by decide⟩, ⟨"00".toList, rfl, by decide⟩,
      ⟨"00".toList, rfl, by decide⟩, ⟨"99".toList, rfl, by decide⟩, ⟨"99".toList, rfl, by decide⟩,
      ⟨"99".toList, rfl, by decide⟩, some ⟨['9'], by decide⟩⟩
  have hw : w.IsLegible :=
    ⟨by decide, by decide, by decide, by decide, by decide, by decide, by decide⟩
  obtain ⟨start, hstart, hdate⟩ := date_rolls_over hw
  obtain rfl : (Civil.mk (-2) 12 1).toDays = start := (Civil.counted_iff.1 hstart).2
  have hread := hdate.trans (dif_pos (by decide))
  exact ⟨w, rfl, hw, _, by decide, by decide, hread⟩

end ResourceQuery.Leaf

namespace ResourceQuery.Calendar

open Decimal Unicode

/-- The text itself, or zeros in its place if a digit of it is not read. -/
def zeroed (s : List Char) : List Char :=
  if s.all Char.isDigit then s else List.replicate s.length '0'

section

variable (s : List Char)

theorem length_zeroed : (zeroed s).length = s.length := by
  unfold zeroed
  split
  · rfl
  · exact List.length_replicate

theorem isDigit_of_mem_zeroed {c : Char} (h : c ∈ zeroed s) : c.isDigit := by
  unfold zeroed at h
  split at h
  · rename_i hd
    exact List.all_eq_true.1 hd c h
  · exact List.eq_of_mem_replicate h ▸ rfl

theorem zeroed_eq_self_iff : zeroed s = s ↔ ∀ c ∈ s, c.isDigit := by
  constructor
  · intro h c hc
    exact isDigit_of_mem_zeroed s (h.symm ▸ hc)
  · intro h
    exact if_pos (List.all_eq_true.2 h)

theorem natOfDigits_replicate (k : Nat) : natOfDigits (List.replicate k '0') = 0 := by
  have h := natOfDigits_zeros k []
  rwa [List.append_nil] at h

theorem field_zeroed_append (k : Nat) :
    Timestamp.field (zeroed s ++ List.replicate k '0') =
      Timestamp.field (s ++ List.replicate k '0') := by
  unfold zeroed
  split
  · rfl
  · rename_i hd
    rw [List.replicate_append_replicate]
    have hzeros : ∀ c ∈ List.replicate (s.length + k) '0', c.isDigit := by
      intro c hc
      rw [List.eq_of_mem_replicate hc]
      rfl
    rw [field_of_isDigit hzeros, natOfDigits_replicate, Timestamp.field, if_neg]
    intro hall
    rw [List.all_append, Bool.and_eq_true] at hall
    exact hd hall.1

theorem field_zeroed : Timestamp.field (zeroed s) = Timestamp.field s := by
  have h := field_zeroed_append s 0
  rwa [List.replicate_zero, List.append_nil, List.append_nil] at h

def zeroedFraction : List Char := zeroed (s.take 3) ++ s.drop 3

theorem length_zeroedFraction : (zeroedFraction s).length = s.length := by
  rw [zeroedFraction, List.length_append, length_zeroed, ← List.length_append,
    List.take_append_drop]

theorem take_zeroedFraction : (zeroedFraction s).take 3 = zeroed (s.take 3) := by
  have hl := length_zeroed (s.take 3)
  rw [List.length_take] at hl
  rw [zeroedFraction, List.take_append]
  by_cases h : s.length ≤ 3
  · rw [List.drop_eq_nil_of_le h, List.take_nil, List.append_nil,
      List.take_of_length_le (by omega)]
  · rw [show 3 - (zeroed (s.take 3)).length = 0 by omega, List.take_zero, List.append_nil,
      List.take_of_length_le (by omega)]

theorem milliseconds_eq :
    Timestamp.milliseconds s =
      Timestamp.field (s.take 3 ++ List.replicate (3 - s.length) '0') := by
  have hzeros : ['0', '0', '0'] = List.replicate 3 '0' := rfl
  rw [Timestamp.milliseconds, List.take_append, hzeros, List.take_replicate,
    Nat.min_eq_left (Nat.sub_le 3 s.length)]

theorem milliseconds_zeroedFraction :
    Timestamp.milliseconds (zeroedFraction s) = Timestamp.milliseconds s := by
  rw [milliseconds_eq, milliseconds_eq, take_zeroedFraction, length_zeroedFraction,
    field_zeroed_append]

theorem zeroedFraction_eq_self_iff : zeroedFraction s = s ↔ ∀ c ∈ s.take 3, c.isDigit := by
  rw [← zeroed_eq_self_iff]
  constructor
  · intro h
    rw [← take_zeroedFraction, h]
  · intro h
    rw [zeroedFraction, h, List.take_append_drop]

end

theorem isDecimalDigit_of_mem_zeroed {s : List Char} {c : Char} (h : c ∈ zeroed s) :
    isDecimalDigit c :=
  isDecimalDigit_of_isDigit (isDigit_of_mem_zeroed s h)

theorem isDecimalDigit_of_mem_zeroedFraction {s : List Char} (hs : ∀ c ∈ s, isDecimalDigit c)
    {c : Char} (h : c ∈ zeroedFraction s) : isDecimalDigit c := by
  rcases List.mem_append.1 h with h | h
  · exact isDecimalDigit_of_mem_zeroed h
  · exact hs c (List.mem_of_mem_drop h)

def DigitRow.zeroed {count : Nat} (row : DigitRow count) : DigitRow count where
  chars := Calendar.zeroed row.chars
  length_eq := (length_zeroed row.chars).trans row.length_eq
  decimal := fun _ h => isDecimalDigit_of_mem_zeroed h

theorem DigitRow.zeroed_eq_self_iff {count : Nat} {row : DigitRow count} :
    row.zeroed = row ↔ ∀ c ∈ row.chars, c.isDigit := by
  rw [← Calendar.zeroed_eq_self_iff]
  constructor
  · intro h
    exact congrArg DigitRow.chars h
  · intro h
    obtain ⟨chars, _, _⟩ := row
    exact DigitRow.mk.injEq .. |>.mpr h

def YearSpelling.zeroed : YearSpelling → YearSpelling
  | plain row => plain row.zeroed
  | signed negative row => signed negative row.zeroed

theorem YearSpelling.digits_zeroed (y : YearSpelling) :
    y.zeroed.digits = Calendar.zeroed y.digits := by
  cases y <;> rfl

theorem YearSpelling.apply_zeroed (y : YearSpelling) : y.zeroed.apply = y.apply := by
  cases y with
  | plain row => rfl
  | signed negative row => cases negative <;> rfl

theorem YearSpelling.zeroed_eq_self_iff {y : YearSpelling} :
    y.zeroed = y ↔ ∀ c ∈ y.digits, c.isDigit := by
  cases y with
  | plain row => rw [zeroed, plain.injEq, DigitRow.zeroed_eq_self_iff, digits]
  | signed negative row =>
      rw [zeroed, signed.injEq, DigitRow.zeroed_eq_self_iff, digits]
      simp

def Fraction.zeroed (f : Fraction) : Fraction where
  digits := zeroedFraction f.digits
  decimal := fun _ h => isDecimalDigit_of_mem_zeroedFraction f.decimal h

theorem Fraction.digitsOf_zeroed (f : Option Fraction) :
    digitsOf (f.map zeroed) = zeroedFraction (digitsOf f) := by
  cases f <;> rfl

theorem Fraction.zeroed_eq_self_iff {f : Option Fraction} :
    f.map zeroed = f ↔ ∀ c ∈ (digitsOf f).take 3, c.isDigit := by
  rw [← zeroedFraction_eq_self_iff, ← digitsOf_zeroed]
  cases f with
  | none => simp
  | some f =>
      obtain ⟨digits, _⟩ := f
      simp [digitsOf, zeroed]

namespace Spelling

def zeroed (w : Spelling) : Spelling where
  year := w.year.zeroed
  month := w.month.zeroed
  day := w.day.zeroed
  hour := w.hour.zeroed
  minute := w.minute.zeroed
  second := w.second.zeroed
  fraction := w.fraction.map Fraction.zeroed

variable (w : Spelling)

theorem fractionDigits_zeroed : w.zeroed.fractionDigits = zeroedFraction w.fractionDigits :=
  Fraction.digitsOf_zeroed w.fraction

theorem timestamp_zeroed : w.zeroed.timestamp = w.timestamp := by
  simp only [timestamp, zeroed, DigitRow.zeroed, YearSpelling.digits_zeroed,
    YearSpelling.apply_zeroed, field_zeroed]
  rw [← milliseconds_zeroedFraction w.fractionDigits, ← fractionDigits_zeroed]
  rfl

theorem isLegible_zeroed : w.zeroed.IsLegible where
  year c h := isDigit_of_mem_zeroed _ (w.year.digits_zeroed ▸ h)
  month c h := isDigit_of_mem_zeroed _ h
  day c h := isDigit_of_mem_zeroed _ h
  hour c h := isDigit_of_mem_zeroed _ h
  minute c h := isDigit_of_mem_zeroed _ h
  second c h := isDigit_of_mem_zeroed _ h
  fraction c h := by
    rw [fractionDigits_zeroed, take_zeroedFraction] at h
    exact isDigit_of_mem_zeroed _ h

theorem zeroed_eq_self_iff : w.zeroed = w ↔ w.IsLegible := by
  constructor
  · intro h
    exact h ▸ w.isLegible_zeroed
  · intro h
    obtain ⟨year, month, day, hour, minute, second, fraction⟩ := w
    rw [zeroed, Spelling.mk.injEq]
    exact ⟨YearSpelling.zeroed_eq_self_iff.2 h.year, DigitRow.zeroed_eq_self_iff.2 h.month,
      DigitRow.zeroed_eq_self_iff.2 h.day, DigitRow.zeroed_eq_self_iff.2 h.hour,
      DigitRow.zeroed_eq_self_iff.2 h.minute, DigitRow.zeroed_eq_self_iff.2 h.second,
      Fraction.zeroed_eq_self_iff.2 h.fraction⟩

end Spelling

end ResourceQuery.Calendar

namespace ResourceQuery.Leaf

open Calendar

/-- A digit that is not read makes zeros of its field, and the timestamp is not rejected for it. -/
theorem date_zeroed (w : Spelling) :
    w.zeroed.IsLegible ∧ (w.zeroed = w ↔ w.IsLegible) ∧
      (∀ v, date (String.ofList w.text) = .ok v ↔ date (String.ofList w.zeroed.text) = .ok v) ∧
      (∀ f, date (String.ofList w.text) = .error f → f = .date (String.ofList w.text)) ∧
      ∀ row, w.year = .plain row → ∃ t, date (String.ofList w.text) = .ok (.date t) := by
  refine ⟨w.isLegible_zeroed, w.zeroed_eq_self_iff, fun v => ?_, fun f hf => ?_, fun row hrow => ?_⟩
  · rw [date_text, date_text, w.timestamp_zeroed]
    by_cases h : w.timestamp.IsInRange
    · rw [dif_pos h, dif_pos h]
    · simp [dif_neg h]
  · rw [date_text] at hf
    by_cases h : w.timestamp.IsInRange
    · simp [dif_pos h] at hf
    · rw [dif_neg h] at hf
      exact (Except.error.inj hf).symm
  · rw [date_text, dif_pos (Spelling.isInRange_of_plain hrow)]
    exact ⟨_, rfl⟩

/-- A month with a digit that is not read is month zero, which is that before January. -/
theorem date_zeroed_month :
    ∃ w : Spelling, w.text = "2020-0\uff11-05T00:00:00Z".toList ∧ ¬w.IsLegible ∧
      ∃ t : Instant, t.civil = ⟨2019, 12, 5⟩ ∧ date (String.ofList w.text) = .ok (.date t) := by
  let w : Spelling :=
    ⟨.plain ⟨"2020".toList, rfl, by decide⟩, ⟨"0\uff11".toList, rfl, by decide +kernel⟩,
      ⟨"05".toList, rfl, by decide⟩, ⟨"00".toList, rfl, by decide⟩, ⟨"00".toList, rfl, by decide⟩,
      ⟨"00".toList, rfl, by decide⟩, none⟩
  have hw : ¬w.IsLegible := fun h => absurd (h.month '\uff11' (by decide)) (by decide)
  have hread := (date_text w).trans (dif_pos (by decide))
  exact ⟨w, rfl, hw, _, by decide, hread⟩

theorem date_zeroed_fraction :
    ∃ w : Spelling, w.text = "2020-01-01T00:00:00.5\u0661Z".toList ∧ ¬w.IsLegible ∧
      w.zeroed.text = "2020-01-01T00:00:00.00Z".toList ∧
      ∃ t, date (String.ofList w.text) = .ok (.date t) ∧
        date (String.ofList w.zeroed.text) = .ok (.date t) := by
  let w : Spelling :=
    ⟨.plain ⟨"2020".toList, rfl, by decide⟩, ⟨"01".toList, rfl, by decide⟩,
      ⟨"01".toList, rfl, by decide⟩, ⟨"00".toList, rfl, by decide⟩, ⟨"00".toList, rfl, by decide⟩,
      ⟨"00".toList, rfl, by decide⟩, some ⟨"5\u0661".toList, by decide +kernel⟩⟩
  have hw : ¬w.IsLegible := fun h => absurd (h.fraction '\u0661' (by decide)) (by decide)
  obtain ⟨-, -, hok, -, hplain⟩ := date_zeroed w
  obtain ⟨t, ht⟩ := hplain _ rfl
  exact ⟨w, rfl, hw, by decide, t, ht, (hok _).1 ht⟩

end ResourceQuery.Leaf
