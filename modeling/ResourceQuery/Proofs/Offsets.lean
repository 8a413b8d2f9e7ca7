import Mathlib.Data.List.Basic
import ResourceQuery.Calendar.Reading
import ResourceQuery.Proofs.Moments

namespace ResourceQuery.Calendar

open Decimal Unicode

section

variable {w n : Nat} (hw : 0 < w) (h : n < 10 ^ w) (s : List Char)

include hw h

theorem number?_pad : number? w w (pad w n ++ s) = some (n, s) := by
  have hl := length_pad hw h
  have htake : (pad w n ++ s).take w = pad w n := List.take_left' hl
  have hdigits : (pad w n).takeWhile Char.isDigit = pad w n :=
    List.takeWhile_eq_self_iff.2 fun c hc => isDigit_of_mem_pad hc
  have hvalue : natOfDigits (pad w n) = n := by rw [pad, natOfDigits_zeros, natOfDigits_digits]
  simp only [number?, htake, hdigits, hl, Nat.le_refl, if_true, hvalue]
  rw [List.drop_left' hl]

theorem mark?_bind_number?_pad (c : Char) :
    (Timestamp.mark? c (c :: (pad w n ++ s))).bind (number? w w) = some (n, s) := by
  rw [Timestamp.mark?, if_pos rfl, Option.bind_some, number?_pad hw h]

end

/-- A time of a day, which may be a leap second, in a year of four digits. -/
structure LocalTime where
  civil : Civil
  hour : Nat
  minute : Nat
  second : Nat
  fraction : Option Fraction
  isValid : civil.IsValid
  year_bounds : 0 ≤ civil.year ∧ civil.year ≤ 9999
  hour_le : hour ≤ 23
  minute_le : minute ≤ 59
  second_le : second ≤ 60
  fraction_digits : ∀ f ∈ fraction, f.digits ≠ [] ∧ ∀ c ∈ f.digits, c.isDigit

structure Offset where
  isBehind : Bool
  hours : Nat
  minutes : Nat
  hours_le : hours ≤ 23
  minutes_le : minutes ≤ 59

namespace Offset

variable (o : Offset)

def text : List Char :=
  (if o.isBehind then '-' else '+') :: (pad 2 o.hours ++ ':' :: pad 2 o.minutes)

def minutesAhead : Int :=
  if o.isBehind then -(o.hours * 60 + o.minutes) else o.hours * 60 + o.minutes

theorem minutesAhead_bounds : -1440 < o.minutesAhead ∧ o.minutesAhead < 1440 := by
  have hh := o.hours_le
  have hm := o.minutes_le
  unfold minutesAhead
  split <;> omega

theorem signedOffset?_text :
    signedOffset? (Timestamp.mark? ':') o.text = some (o.minutesAhead, []) := by
  have hh := o.hours_le
  have hm := o.minutes_le
  have hhours := number?_pad (w := 2) (n := o.hours) (by decide) (by omega) (':' :: pad 2 o.minutes)
  have hminutes := number?_pad (w := 2) (n := o.minutes) (by decide) (by omega) []
  rw [List.append_nil] at hminutes
  have hguard : o.hours < 24 ∧ o.minutes < 60 := by omega
  unfold text minutesAhead
  cases o.isBehind <;>
    simp [signedOffset?, hhours, hminutes, Timestamp.mark?, hguard, guard]

theorem internetOffset?_text : Form.internetOffset? o.text = some (o.minutesAhead, []) := by
  rw [← o.signedOffset?_text]
  unfold text
  cases o.isBehind <;> rfl

theorem head?_text : ∀ c ∈ o.text.head?, c = '-' ∨ c = '+' := by
  unfold text
  cases o.isBehind <;> simp

theorem zulu_notMem_text : 'Z' ∉ o.text := by
  intro hz
  unfold text at hz
  rw [List.mem_cons, List.mem_append, List.mem_cons] at hz
  have hpad {n : Nat} (h : 'Z' ∈ pad 2 n) : False := absurd (isDigit_of_mem_pad h) (by decide)
  rcases hz with hsign | hhours | hcolon | hminutes
  · cases hb : o.isBehind <;> simp [hb] at hsign
  · exact hpad hhours
  · simp at hcolon
  · exact hpad hminutes

/-- A text that ends with an offset is no full timestamp, which ends with a `Z`. -/
theorem ofText?_eq_none (s : List Char) : Timestamp.ofText? (s ++ o.text) = none := by
  rw [Option.eq_none_iff_forall_ne_some]
  intro t ht
  obtain ⟨w, hw, -⟩ := Timestamp.ofText?_eq_some_iff.1 ht
  have hlast : (s ++ o.text).getLast? = some 'Z' := by
    rw [← hw]
    simp [Spelling.text, List.getLast?_append, List.getLast?_cons]
  rw [List.getLast?_append_of_ne_nil _ (by simp [text])] at hlast
  exact o.zulu_notMem_text (List.mem_of_getLast? hlast)

end Offset

namespace LocalTime

variable (m : LocalTime)

def text : List Char :=
  pad 4 m.civil.year.toNat ++ '-' :: (pad 2 m.civil.month ++ '-' :: (pad 2 m.civil.day ++
    'T' :: (pad 2 m.hour ++ ':' :: (pad 2 m.minute ++ ':' :: (pad 2 m.second ++
      Fraction.textOf m.fraction)))))

def timestamp : Timestamp :=
  ⟨m.civil.year, m.civil.month, m.civil.day, m.hour, m.minute, m.second,
    Timestamp.milliseconds (Fraction.digitsOf m.fraction)⟩

def fields : Fields :=
  ⟨m.civil.year, m.civil.month, m.civil.day, m.hour, m.minute, m.second,
    nanoseconds (Fraction.digitsOf m.fraction)⟩

theorem isDigit_of_mem_fraction : ∀ c ∈ Fraction.digitsOf m.fraction, c.isDigit := by
  intro c hc
  cases hf : m.fraction with
  | none => simp [hf, Fraction.digitsOf] at hc
  | some f => exact (m.fraction_digits f hf).2 c (by rwa [hf] at hc)

theorem pointFraction?_text {s : List Char} (hs : ∀ c ∈ s.head?, c = '-' ∨ c = '+') :
    pointFraction? (Fraction.textOf m.fraction ++ s) =
      some (nanoseconds (Fraction.digitsOf m.fraction), s) := by
  have hstop : ∀ c ∈ s.head?, ¬c.isDigit := by
    intro c hc
    rcases hs c hc with rfl | rfl <;> decide
  cases hf : m.fraction with
  | none =>
      rw [Fraction.textOf, List.nil_append]
      unfold pointFraction?
      split
      · rcases hs _ rfl with h | h <;> simp at h
      · rfl
  | some f =>
      obtain ⟨hne, hd⟩ := m.fraction_digits f hf
      obtain ⟨htake, -⟩ := span_digits hd hstop
      have hrun : digitRun? (f.digits ++ s) = some (f.digits, s) := by
        simp [digitRun?, htake, hne]
      rw [Fraction.textOf, List.cons_append, pointFraction?, hrun]
      rfl

theorem toNat_year : (m.civil.year.toNat : Int) = m.civil.year :=
  Int.toNat_of_nonneg m.year_bounds.1

theorem year_lt : m.civil.year.toNat < 10 ^ 4 := by
  have hyear := m.year_bounds
  omega

theorem fits_timestamp : m.timestamp.Fits := by
  obtain ⟨-, h12, -, hday⟩ := m.isValid
  have hlength := (Civil.monthLength_bounds m.civil.year m.civil.month).2
  have hh := m.hour_le
  have hmin := m.minute_le
  have hs := m.second_le
  have hmonth : m.civil.month < 100 := by omega
  have hdays : m.civil.day < 100 := by omega
  exact ⟨hmonth, hdays, Nat.lt_of_le_of_lt hh (by decide), Nat.lt_of_le_of_lt hmin (by decide),
    Nat.lt_of_le_of_lt hs (by decide), milliseconds_lt _⟩

theorem internet?_text (o : Offset) : Form.internet? (m.text ++ o.text) =
    m.fields.moment?.bind (·.universal? o.minutesAhead) := by
  obtain ⟨hmonth, hday, hhour, hminute, hsecond, -⟩ := m.fits_timestamp
  have hfraction := m.pointFraction?_text o.head?_text
  have htext : m.text ++ o.text = pad 4 m.civil.year.toNat ++ '-' :: (pad 2 m.civil.month ++
      '-' :: (pad 2 m.civil.day ++ 'T' :: (pad 2 m.hour ++ ':' :: (pad 2 m.minute ++
      ':' :: (pad 2 m.second ++ (Fraction.textOf m.fraction ++ o.text)))))) := by
    simp [text]
  rw [htext, Form.internet?, number?_pad (by decide) m.year_lt]
  simp only [Option.bind_eq_bind, Option.bind_some]
  rw [mark?_bind_number?_pad (by decide) hmonth, Option.bind_some,
    mark?_bind_number?_pad (by decide) hday, Option.bind_some]
  simp only
  rw [number?_pad (by decide) hhour, Option.bind_some,
    mark?_bind_number?_pad (by decide) hminute, Option.bind_some,
    mark?_bind_number?_pad (by decide) hsecond, Option.bind_some, hfraction, Option.bind_some,
    o.internetOffset?_text, Option.bind_some]
  rw [m.toNat_year]
  rfl

def spelling : Spelling where
  year := .plain (.ofNat (Nat.succ_pos 3) m.year_lt)
  month := .ofNat Nat.two_pos m.fits_timestamp.month
  day := .ofNat Nat.two_pos m.fits_timestamp.day
  hour := .ofNat Nat.two_pos m.fits_timestamp.hour
  minute := .ofNat Nat.two_pos m.fits_timestamp.minute
  second := .ofNat Nat.two_pos m.fits_timestamp.second
  fraction := m.fraction

theorem text_spelling : m.spelling.text = m.text ++ ['Z'] := by
  simp [text, timestamp, spelling, Spelling.text, YearSpelling.text, DigitRow.ofNat]

theorem timestamp_spelling : m.spelling.timestamp = m.timestamp := by
  simp [timestamp, spelling, Spelling.timestamp, Spelling.fractionDigits, YearSpelling.apply,
    YearSpelling.digits, DigitRow.ofNat, field_pad, m.toNat_year]

theorem millis_bounds :
    -100000000000000 ≤ m.timestamp.millis ∧ m.timestamp.millis ≤ 300000000000000 :=
  Timestamp.millis_bounds m.fits_timestamp m.year_bounds

theorem isValid_fields : m.fields.IsValid := by
  have hyear := m.year_bounds
  have hlow : leastYear ≤ m.civil.year := Int.le_trans (by decide) hyear.1
  have hhigh : m.civil.year ≤ greatestYear := Int.le_trans hyear.2 (by decide)
  exact ⟨hlow, hhigh, m.isValid, m.hour_le, m.minute_le, m.second_le,
    nanoseconds_lt m.isDigit_of_mem_fraction⟩

theorem timestamp_fields : m.fields.timestamp = m.timestamp := by
  simp only [Fields.timestamp, fields, timestamp, nanoseconds_div m.isDigit_of_mem_fraction]

theorem exists_internet? (o : Offset) : ∃ u, Form.internet? (m.text ++ o.text) = some u ∧
    u.millis = m.timestamp.millis - o.minutesAhead * 60000 := by
  obtain ⟨v, hv, hmillis⟩ := Fields.exists_moment? m.isValid_fields
  rw [m.timestamp_fields] at hmillis
  have hbounds := m.millis_bounds
  have hday := v.day_bounds
  have hlow : firstDay = -96465292 := by decide
  have hhigh : lastDay = 95026236 := by decide
  obtain ⟨u, hu⟩ := Moment.exists_universal? (m := v) (by omega) o.minutesAhead_bounds
  refine ⟨u, ?_, ?_⟩
  · rw [m.internet?_text, hv, Option.bind_some, hu]
  · rw [Moment.millis_universal? hu, hmillis]

theorem exists_ofText? (o : Offset) : ∃ u, Instant.ofText? (m.text ++ o.text) = some u ∧
    u.millis = m.timestamp.millis - o.minutesAhead * 60000 := by
  obtain ⟨v, hv, hmillis⟩ := m.exists_internet? o
  have hbounds := m.millis_bounds
  have hoffset := o.minutesAhead_bounds
  have hrange : -8334601228800000 ≤ v.millis ∧ v.millis ≤ 8210266876799999 := by omega
  refine ⟨⟨v.millis, hrange.1, hrange.2⟩, ?_, hmillis⟩
  rw [Instant.ofText?, o.ofText?_eq_none, Instant.ofLooseText?, hv]
  exact dif_pos hrange

end LocalTime

end ResourceQuery.Calendar

namespace ResourceQuery.Leaf

open Calendar

/-- A local time is read with its offset where it is read as a full timestamp in universal time,
and the instants are as far apart as the clocks. -/
theorem date_offset (m : LocalTime) (o : Offset) : ∃ t u : Instant,
    Timestamp.ofText? (m.text ++ ['Z']) = some m.timestamp ∧ t.millis = m.timestamp.millis ∧
      date (String.ofList (m.text ++ ['Z'])) = .ok (.date t) ∧
      Timestamp.ofText? (m.text ++ o.text) = none ∧
      date (String.ofList (m.text ++ o.text)) = .ok (.date u) ∧
      u.millis = t.millis - o.minutesAhead * 60000 := by
  have hfull : Timestamp.ofText? (m.text ++ ['Z']) = some m.timestamp :=
    Timestamp.ofText?_eq_some_iff.2 ⟨m.spelling, m.text_spelling, m.timestamp_spelling⟩
  have hrange : m.spelling.timestamp.IsInRange := Spelling.isInRange_of_plain rfl
  have hdate := date_text m.spelling
  rw [dif_pos hrange, m.text_spelling] at hdate
  have hstrict : m.spelling.timestamp.millis = m.timestamp.millis :=
    congrArg Timestamp.millis m.timestamp_spelling
  obtain ⟨u, hu, hmillis⟩ := m.exists_ofText? o
  rw [← hstrict] at hmillis
  refine ⟨_, u, hfull, hstrict, hdate, o.ofText?_eq_none m.text, ?_, hmillis⟩
  rw [date, String.toList_ofList, hu]

/-- A leap second before 1970, with a fraction of ten digits and an offset that leads into the next
year. -/
theorem date_offset_leap_second : ∃ (m : LocalTime) (o : Offset) (t u : Instant),
    m.text = "1960-12-31T23:59:60.9876543219".toList ∧ o.text = "-01:30".toList ∧
      date "1960-12-31T23:59:60.9876543219Z" = .ok (.date t) ∧ t.millis = -283996799013 ∧
      date "1960-12-31T23:59:60.9876543219-01:30" = .ok (.date u) ∧ u.millis = -283991399013 := by
  let m : LocalTime :=
    { civil := ⟨1960, 12, 31⟩, hour := 23, minute := 59, second := 60
      fraction := some ⟨"9876543219".toList, by decide⟩
      isValid := by decide, year_bounds := by decide, hour_le := by decide
      minute_le := by decide, second_le := by decide, fraction_digits := by decide }
  let o : Offset := ⟨true, 1, 30, by decide, by decide⟩
  have hm : m.text = "1960-12-31T23:59:60.9876543219".toList := by decide
  have ho : o.text = "-01:30".toList := by decide
  obtain ⟨t, u, -, ht, hz, -, hoffset, hu⟩ := date_offset m o
  have hmillis : t.millis = -283996799013 := ht.trans (by decide)
  rw [hm] at hz
  rw [hm, ho] at hoffset
  refine ⟨m, o, t, u, hm, ho, hz, hmillis, hoffset, ?_⟩
  rw [hu, hmillis]
  decide

end ResourceQuery.Leaf
