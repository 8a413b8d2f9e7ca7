import Mathlib.Data.Int.Init
import ResourceQuery.Calendar.Instant

namespace ResourceQuery.Calendar.Civil

theorem daysBeforeYear_succ (year : Int) :
    daysBeforeYear (year + 1) = daysBeforeYear year + if isLeap (year + 1) then 366 else 365 := by
  simp only [daysBeforeYear, isLeap, Bool.and_eq_true, Bool.or_eq_true, bne_iff_ne, ne_eq,
    beq_iff_eq]
  split <;> omega

theorem daysBeforeYear_mono {year year' : Int} (h : year ≤ year') :
    daysBeforeYear year ≤ daysBeforeYear year' := by
  simp only [daysBeforeYear]
  omega

theorem eq_of_daysBeforeYear {year year' : Int} {day day' : Nat}
    (h : daysBeforeYear year + day = daysBeforeYear year' + day')
    (hd : daysBeforeYear year + day < daysBeforeYear (year + 1))
    (hd' : daysBeforeYear year' + day' < daysBeforeYear (year' + 1)) :
    year = year' ∧ day = day' := by
  have hle : ¬year < year' := fun hlt => by
    have := daysBeforeYear_mono (show year + 1 ≤ year' from hlt)
    omega
  have hge : ¬year' < year := fun hlt => by
    have := daysBeforeYear_mono (show year' + 1 ≤ year from hlt)
    omega
  obtain rfl : year = year' := by omega
  exact ⟨rfl, by omega⟩

theorem le_of_lt_daysBeforeYear {year : Int} {day : Nat}
    (h : daysBeforeYear year + day < daysBeforeYear (year + 1)) :
    day ≤ if isLeap (year + 1) then 365 else 364 := by
  rw [daysBeforeYear_succ] at h
  by_cases hl : isLeap (year + 1)
  · rw [if_pos hl] at *
    omega
  · rw [if_neg hl] at *
    omega

theorem lt_daysBeforeYear (year : Int) {day : Nat} (h : day < 365) :
    daysBeforeYear year + day < daysBeforeYear (year + 1) := by
  rw [daysBeforeYear_succ]
  split <;> omega

theorem monthLength_bounds (year : Int) (month : Nat) :
    28 ≤ monthLength year month ∧ monthLength year month ≤ 31 := by
  unfold monthLength
  split
  · split <;> decide
  · split <;> decide

theorem daysBeforeMonth_succ (year : Int) {month : Nat} (h1 : 1 ≤ month) (h12 : month ≤ 12)
    (h2 : month ≠ 2) : daysBeforeMonth ((month + 9) % 12 + 1) =
      daysBeforeMonth ((month + 9) % 12) + monthLength year month := by
  have hcases : month = 1 ∨ month = 3 ∨ month = 4 ∨ month = 5 ∨ month = 6 ∨ month = 7 ∨
      month = 8 ∨ month = 9 ∨ month = 10 ∨ month = 11 ∨ month = 12 := by omega
  rcases hcases with rfl | rfl | rfl | rfl | rfl | rfl | rfl | rfl | rfl | rfl | rfl <;> rfl

theorem monthLength_february (year : Int) :
    monthLength year 2 = if isLeap year then 29 else 28 := rfl

theorem daysBeforeYear_february (year : Int) :
    daysBeforeYear year = daysBeforeYear (year - 1) + daysBeforeMonth 11 + monthLength year 2 := by
  have h := daysBeforeYear_succ (year - 1)
  rw [Int.sub_add_cancel] at h
  rw [h, monthLength_february, show daysBeforeMonth 11 = 337 from rfl]
  split <;> omega

theorem month_eq {month day : Nat} (h : daysBeforeMonth month ≤ day)
    (h' : day < daysBeforeMonth (month + 1)) : month = (5 * day + 2) / 153 := by
  simp only [daysBeforeMonth] at *
  omega

theorem toDays_eq (year : Int) {month : Nat} (day : Nat) (h : month ≤ 12) :
    (Civil.mk year month day).toDays =
      daysBeforeYear (if month ≤ 2 then year - 1 else year) +
        daysBeforeMonth ((month + 9) % 12) + day - 1 - 719468 := by
  have hm : (if month ≤ 2 then month + 9 else month - 3) = (month + 9) % 12 := by
    split <;> omega
  rw [toDays, hm]

theorem toDays_day (year : Int) (month day : Nat) :
    (Civil.mk year month day).toDays = (Civil.mk year month 1).toDays + day - 1 := by
  simp only [toDays]
  omega

/-- A day of the calendar has the number `n`. The number is taken apart into a year that begins in
March, a month of that year and a day of that month. -/
def HasNumber (c : Civil) (n : Int) : Prop :=
  ∃ year : Int, ∃ day month : Nat,
    month = (5 * day + 2) / 153 ∧ n + 719468 = daysBeforeYear year + day ∧
      daysBeforeYear year + day < daysBeforeYear (year + 1) ∧
      c = ⟨if month < 10 then year else year + 1, if month < 10 then month + 3 else month - 9,
        day - daysBeforeMonth month + 1⟩

section

variable {c d : Civil} {n : Int}

theorem HasNumber.eq (hc : c.HasNumber n) (hd : d.HasNumber n) : c = d := by
  obtain ⟨year, day, month, hm, hn, hlt, rfl⟩ := hc
  obtain ⟨year', day', month', hm', hn', hlt', rfl⟩ := hd
  obtain ⟨rfl, rfl⟩ := eq_of_daysBeforeYear (hn.symm.trans hn') hlt hlt'
  rw [hm, hm']

theorem HasNumber.isValid (h : c.HasNumber n) : c.IsValid := by
  obtain ⟨year, day, month, hm, -, hlt, rfl⟩ := h
  have hday := le_of_lt_daysBeforeYear hlt
  clear hlt
  by_cases hmarch : month < 10
  · have hd : day ≤ 365 := by split at hday <;> omega
    simp only [IsValid, monthLength, daysBeforeMonth, hmarch, if_true]
    split
    · omega
    · split <;> omega
  · simp only [IsValid, monthLength, daysBeforeMonth, hmarch, if_false]
    by_cases hl : isLeap (year + 1)
    · rw [if_pos hl] at *
      split
      · omega
      · split <;> omega
    · rw [if_neg hl] at *
      split
      · omega
      · split <;> omega

theorem HasNumber.toDays (h : c.HasNumber n) : c.toDays = n := by
  obtain ⟨year, day, month, hm, hn, hlt, rfl⟩ := h
  have hd : day ≤ 365 := Nat.le_trans (le_of_lt_daysBeforeYear hlt) (by split <;> decide)
  have hle : daysBeforeMonth month ≤ day := by
    simp only [daysBeforeMonth]
    omega
  by_cases hmarch : month < 10
  · simp only [Civil.toDays, hmarch, if_true]
    rw [if_neg (by omega), if_neg (by omega), Nat.add_sub_cancel]
    omega
  · simp only [Civil.toDays, hmarch, if_false]
    rw [if_pos (by omega), if_pos (by omega), Nat.sub_add_cancel (by omega), Int.add_sub_cancel]
    omega

theorem hasNumber_toDays (h : c.IsValid) : c.HasNumber c.toDays := by
  obtain ⟨year, month, day⟩ := c
  obtain ⟨h1, h12, hd, hl⟩ := h
  simp only at h1 h12 hd hl
  rw [toDays_eq year day h12]
  by_cases h2 : month = 2
  · subst h2
    have hfeb := daysBeforeYear_february year
    have hlen := monthLength_bounds year 2
    refine ⟨year - 1, daysBeforeMonth 11 + day - 1, 11, month_eq (by omega) ?_, ?_, ?_, ?_⟩
    · rw [monthLength_february] at hl
      simp only [daysBeforeMonth]
      split at hl <;> omega
    · rw [if_pos (by decide), show (2 + 9) % 12 = 11 from rfl]
      omega
    · rw [Int.sub_add_cancel]
      omega
    · rw [Civil.mk.injEq, if_neg (by decide), if_neg (by decide)]
      omega
  · have hm := daysBeforeMonth_succ year h1 h12 h2
    refine ⟨if month ≤ 2 then year - 1 else year, daysBeforeMonth ((month + 9) % 12) + day - 1,
      (month + 9) % 12, month_eq (by omega) (by omega), by omega, lt_daysBeforeYear _ ?_, ?_⟩
    · have : daysBeforeMonth ((month + 9) % 12 + 1) ≤ 337 := by
        simp only [daysBeforeMonth]
        omega
      omega
    · by_cases hle : month ≤ 2
      · obtain rfl : month = 1 := by omega
        rw [Civil.mk.injEq, if_neg (by decide), if_pos (by decide), if_neg (by decide)]
        omega
      · rw [Civil.mk.injEq, if_neg hle, if_pos (by omega), if_pos (by omega)]
        omega

end

/-- The year within four hundred that is found for a day begins no later than the day, and the
next one begins after it. -/
theorem yearOfEra_spec {day : Nat} (h : day < 146097) :
    let year := (day - day / 1460 + day / 36524 - day / 146096) / 365
    365 * year + year / 4 - year / 100 ≤ day ∧
      day < 365 * (year + 1) + (year + 1) / 4 - (year + 1) / 100 + (year + 1) / 400 ∧
      year ≤ 399 := by
  intro year
  have hle : day / 1460 ≤ day := Nat.div_le_self _ _
  have hyear : 365 * year ≤ day - day / 1460 + day / 36524 - day / 146096 ∧
      day - day / 1460 + day / 36524 - day / 146096 < 365 * year + 365 := by
    simp only [year]
    omega
  clear_value year
  have hlast : day / 146096 ≤ 1 := by omega
  have hfour : 1460 * (day / 1460) ≤ day ∧ day < 1460 * (day / 1460) + 1460 := by omega
  have hcenturies : 36524 * (day / 36524) ≤ day ∧ day < 36524 * (day / 36524) + 36524 := by omega
  have hlasts : 146096 * (day / 146096) ≤ day ∧ day < 146096 * (day / 146096) + 146096 := by omega
  generalize day / 1460 = four at *
  generalize day / 36524 = century at *
  generalize day / 146096 = last at *
  have hcases : century = 0 ∨ century = 1 ∨ century = 2 ∨ century = 3 ∨ century = 4 := by omega
  have hc : year / 100 = century - last := by
    rcases hcases with rfl | rfl | rfl | rfl | rfl <;> omega
  have hf : year / 4 ≤ four ∧ four ≤ (year + 1) / 4 := by omega
  refine ⟨by omega, ?_, by omega⟩
  -- The last year of a century has a leap day only where the four hundred years end with it.
  by_cases hend : (year + 1) / 100 = year / 100
  · omega
  · have hy : year + 1 = 100 * (century - last + 1) := by omega
    rw [hy]
    rcases hcases with rfl | rfl | rfl | rfl | rfl <;> omega

theorem daysBeforeYear_era (era : Int) {year : Nat} (h : year ≤ 400) :
    daysBeforeYear (year + era * 400) =
      era * 146097 + (365 * year + year / 4 - year / 100 + year / 400 : Nat) := by
  have h4 : ((year : Int) + era * 400) / 4 = year / 4 + era * 100 := by omega
  have h100 : ((year : Int) + era * 400) / 100 = year / 100 + era * 4 := by omega
  have h400 : ((year : Int) + era * 400) / 400 = year / 400 + era := by omega
  rw [daysBeforeYear, h4, h100, h400]
  omega

theorem hasNumber_ofDays (n : Int) : (ofDays n).HasNumber n := by
  have hday : ((n + 719468) % 146097).toNat < 146097 := by omega
  have hera : n + 719468 =
      (n + 719468) / 146097 * 146097 + ((n + 719468) % 146097).toNat := by omega
  obtain ⟨hle, hlt, hyear⟩ := yearOfEra_spec hday
  have hthis := daysBeforeYear_era ((n + 719468) / 146097) (Nat.le_succ_of_le hyear)
  have hnext := daysBeforeYear_era ((n + 719468) / 146097) (Nat.succ_le_succ hyear)
  rw [Nat.succ_eq_add_one, Int.natCast_add, Int.natCast_one, Int.add_right_comm] at hnext
  refine ⟨_, _, _, rfl, ?_, ?_, rfl⟩
  · rw [hthis]
    generalize (_ - _ + _ - _) / 365 = year at *
    omega
  · rw [hthis, hnext]
    generalize (_ - _ + _ - _) / 365 = year at *
    omega

theorem isValid_ofDays (n : Int) : (ofDays n).IsValid := (hasNumber_ofDays n).isValid

theorem toDays_ofDays (n : Int) : (ofDays n).toDays = n := (hasNumber_ofDays n).toDays

theorem ofDays_toDays {c : Civil} (h : c.IsValid) : ofDays c.toDays = c :=
  (hasNumber_ofDays _).eq (hasNumber_toDays h)

theorem month_ofDays (n : Int) : 1 ≤ (ofDays n).month ∧ (ofDays n).month ≤ 12 :=
  ⟨(isValid_ofDays n).1, (isValid_ofDays n).2.1⟩

theorem day_ofDays (n : Int) : 1 ≤ (ofDays n).day ∧ (ofDays n).day ≤ 31 :=
  have h := (isValid_ofDays n).2.2
  ⟨h.1, Nat.le_trans h.2 (monthLength_bounds _ _).2⟩

def next (c : Civil) : Civil :=
  if c.day < monthLength c.year c.month then ⟨c.year, c.month, c.day + 1⟩
  else if c.month < 12 then ⟨c.year, c.month + 1, 1⟩
  else ⟨c.year + 1, 1, 1⟩

theorem isValid_next {c : Civil} (h : c.IsValid) : c.next.IsValid := by
  have hfirst (year : Int) (month : Nat) : 1 ≤ monthLength year month :=
    Nat.le_trans (by decide) (monthLength_bounds year month).1
  obtain ⟨h1, h12, hd, hl⟩ := h
  unfold next
  split
  · exact ⟨h1, h12, Nat.le_add_left 1 c.day, ‹_›⟩
  · split
    · exact ⟨Nat.le_add_left 1 c.month, ‹_›, Nat.le_refl 1, hfirst _ _⟩
    · exact ⟨Nat.le_refl 1, Nat.le_add_left 1 11, Nat.le_refl 1, hfirst _ _⟩

theorem toDays_next {c : Civil} (h : c.IsValid) : c.next.toDays = c.toDays + 1 := by
  obtain ⟨year, month, day⟩ := c
  obtain ⟨h1, h12, hd, hl⟩ := h
  simp only at h1 h12 hd hl
  by_cases hlast : day < monthLength year month
  · rw [next, if_pos hlast, toDays_day year month (day + 1), toDays_day year month day]
    omega
  · obtain rfl : day = monthLength year month := Nat.le_antisymm hl (Nat.le_of_not_lt hlast)
    rw [next, if_neg hlast, toDays_eq _ _ h12]
    simp only
    by_cases h2 : month = 2
    · subst h2
      have hfeb := daysBeforeYear_february year
      rw [if_pos (by decide), toDays_eq _ _ (by decide), if_neg (by decide), if_pos (by decide),
        show (2 + 1 + 9) % 12 = 0 from rfl, show (2 + 9) % 12 = 11 from rfl,
        show daysBeforeMonth 0 = 0 from rfl]
      omega
    · have hm := daysBeforeMonth_succ year h1 h12 h2
      by_cases hdec : month < 12
      · have hnext : (month + 1 + 9) % 12 = (month + 9) % 12 + 1 := by omega
        have hyear : (if month + 1 ≤ 2 then year - 1 else year) =
            if month ≤ 2 then year - 1 else year := by
          split <;> split <;> omega
        rw [if_pos hdec, toDays_eq _ _ hdec, hnext, hyear]
        omega
      · obtain rfl : month = 12 := by omega
        rw [if_neg hdec, toDays_eq _ _ (by decide), if_pos (by decide), if_neg (by decide),
          show (1 + 9) % 12 = (12 + 9) % 12 + 1 from rfl, hm, Int.add_sub_cancel]
        omega

theorem ofDays_succ (n : Int) : ofDays (n + 1) = (ofDays n).next := by
  have h := isValid_ofDays n
  rw [← ofDays_toDays (isValid_next h), toDays_next h, toDays_ofDays]

/-- The days of the calendar, counted on and back from the first of January 1970. -/
inductive Counted : Int → Civil → Prop
  | origin : Counted 0 ⟨1970, 1, 1⟩
  | on {n : Int} {c : Civil} (h : Counted n c) : Counted (n + 1) c.next
  | back {n : Int} {c : Civil} (hc : c.IsValid) (h : Counted (n + 1) c.next) : Counted n c

theorem counted_ofDays (n : Int) : Counted n (ofDays n) := by
  induction n with
  | zero => exact .origin
  | succ n ih =>
      rw [ofDays_succ]
      exact .on ih
  | pred n ih =>
      refine .back (isValid_ofDays _) ?_
      rw [← ofDays_succ, Int.sub_add_cancel]
      exact ih

theorem Counted.eq_ofDays {n : Int} {c : Civil} (h : Counted n c) : c = ofDays n := by
  induction h with
  | origin => decide
  | on _ ih => rw [ih, ← ofDays_succ]
  | @back n c hc _ ih =>
      have hn : c.toDays + 1 = n + 1 := by rw [← toDays_next hc, ih, toDays_ofDays]
      obtain rfl : c.toDays = n := by omega
      exact (ofDays_toDays hc).symm

theorem counted_iff {n : Int} {c : Civil} : Counted n c ↔ c.IsValid ∧ c.toDays = n := by
  constructor
  · intro h
    rw [h.eq_ofDays]
    exact ⟨isValid_ofDays n, toDays_ofDays n⟩
  · rintro ⟨hc, rfl⟩
    rw [← ofDays_toDays hc, toDays_ofDays]
    exact counted_ofDays _

end ResourceQuery.Calendar.Civil

namespace ResourceQuery.Calendar.Instant

variable (t : Instant)

theorem year_civil : leastYear ≤ t.civil.year ∧ t.civil.year ≤ greatestYear := by
  obtain ⟨year, day, month, hmonth, hn, hday, h⟩ := Civil.hasNumber_ofDays (t.millis / dayMillis)
  have hdays : -96465292 ≤ t.millis / dayMillis ∧ t.millis / dayMillis ≤ 95026236 := by
    have := t.least_le
    have := t.le_greatest
    simp only [dayMillis]
    omega
  rw [civil, h]
  clear h
  generalize t.millis / dayMillis = n at *
  have hfirst : Civil.daysBeforeYear (-262144) = -95746130 := by decide
  have hlast : Civil.daysBeforeYear 262142 = 95745399 := by decide
  have hlow : -262144 ≤ year := Int.not_lt.1 fun hlt => by
    have := Civil.daysBeforeYear_mono (show year + 1 ≤ -262144 from hlt)
    omega
  have hhigh : year ≤ 262142 := Int.not_lt.1 fun hlt => by
    have := Civil.daysBeforeYear_mono (show 262142 + 1 ≤ year from hlt)
    have := Civil.daysBeforeYear_succ 262142
    omega
  simp only [leastYear, greatestYear]
  -- January and February belong to the year after the one that is counted from March.
  by_cases hmarch : month < 10
  · rw [if_pos hmarch]
    refine ⟨?_, hhigh⟩
    by_cases hy : year = -262144
    · subst hy
      omega
    · omega
  · rw [if_neg hmarch]
    refine ⟨by omega, ?_⟩
    by_cases hy : year = 262142
    · subst hy
      omega
    · omega

theorem millis_eq : t.millis = t.civil.toDays * dayMillis + t.timeOfDay := by
  rw [civil, Civil.toDays_ofDays, timeOfDay]
  simp only [dayMillis]
  omega

theorem timeOfDay_lt : t.timeOfDay < 86400000 := by
  simp only [timeOfDay, dayMillis]
  omega

end ResourceQuery.Calendar.Instant
