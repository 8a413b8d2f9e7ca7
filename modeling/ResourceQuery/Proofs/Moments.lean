import ResourceQuery.Calendar.Field
import ResourceQuery.Proofs.FullTimestamp
import ResourceQuery.Proofs.TimestampText

namespace ResourceQuery.Calendar

open Decimal

section

variable {run : List Char}

def nineDigits (run : List Char) : List Char :=
  run.take 9 ++ List.replicate (9 - (run.take 9).length) '0'

theorem length_nineDigits : (nineDigits run).length = 9 := by
  simp only [nineDigits, List.length_append, List.length_take, List.length_replicate]
  omega

theorem natOfDigits_nineDigits : natOfDigits (nineDigits run) = nanoseconds run :=
  natOfDigits_append_zeros (run.take 9) _

theorem take_nineDigits : (nineDigits run).take 3 = (run ++ ['0', '0', '0']).take 3 := by
  have hzeros : ['0', '0', '0'] = List.replicate 3 '0' := rfl
  rw [nineDigits, hzeros, List.take_append, List.take_append, List.take_take, List.take_replicate,
    List.take_replicate, List.length_take]
  congr 2
  omega

variable (h : ∀ c ∈ run, c.isDigit)

include h

theorem isDigit_of_mem_nineDigits {c : Char} (hc : c ∈ nineDigits run) : c.isDigit := by
  rcases List.mem_append.1 hc with hc | hc
  · exact h c (List.mem_of_mem_take hc)
  · rw [List.eq_of_mem_replicate hc]
    rfl

theorem nanoseconds_lt : nanoseconds run < 1000000000 := by
  have hlt := natOfDigits_lt fun _ => isDigit_of_mem_nineDigits h
  rwa [length_nineDigits, natOfDigits_nineDigits] at hlt

/-- The digits after the third make no difference to the milliseconds. -/
theorem nanoseconds_div : nanoseconds run / 1000000 = Timestamp.milliseconds run := by
  have hdigits : ∀ c ∈ (run ++ ['0', '0', '0']).take 3, c.isDigit := by
    intro c hc
    rw [← take_nineDigits] at hc
    exact isDigit_of_mem_nineDigits h (List.mem_of_mem_take hc)
  have htake := natOfDigits_take (fun _ => isDigit_of_mem_nineDigits h) 3
  rw [length_nineDigits, natOfDigits_nineDigits, take_nineDigits] at htake
  rw [Timestamp.milliseconds, field_of_isDigit hdigits, htake]
  rfl

end

namespace Moment

variable {m u : Moment} {offset : Int}

theorem millis_universal? (h : m.universal? offset = some u) :
    u.millis = m.millis - offset * 60000 := by
  simp only [universal?] at h
  split at h
  · obtain rfl := Option.some.inj h
    simp only [millis]
    omega
  · simp at h

/-- An offset of less than a day leads no further than to the day before or after. -/
theorem exists_universal? (hday : firstDay < m.day ∧ m.day < lastDay)
    (hoffset : -1440 < offset ∧ offset < 1440) : ∃ u, m.universal? offset = some u := by
  have hsecond := m.second_lt
  have hneighbour : -1 ≤ (m.second - offset * 60) / 86400 ∧
      (m.second - offset * 60) / 86400 ≤ 1 := by omega
  exact ⟨_, if_pos (by omega)⟩

theorem day_bounds (m : Moment) :
    m.day * 86400000 ≤ m.millis ∧ m.millis < m.day * 86400000 + 86402000 := by
  have hsecond := m.second_lt
  have hnano := m.nano_lt
  simp only [millis]
  omega

end Moment

namespace Fields

variable {t : Fields}

def timestamp (t : Fields) : Timestamp :=
  ⟨t.year, t.month, t.day, t.hour, t.minute, t.second, t.nano / 1000000⟩

/-- Days, seconds and nanoseconds of valid fields come to what the fields add up to from the start
of their month. -/
theorem exists_moment? (h : t.IsValid) :
    ∃ m, t.moment? = some m ∧ m.millis = t.timestamp.millis := by
  obtain ⟨-, -, ⟨h1, h12, -⟩, -, -, hsecond, -⟩ := id h
  refine ⟨_, dif_pos h, ?_⟩
  rw [Timestamp.millis_of_month h1 h12]
  simp only [Moment.millis, timestamp, civil, dayMillis]
  -- Second 60 is second 59 here, with the missing one among the nanoseconds.
  by_cases hleap : t.second = 60
  · rw [if_pos hleap]
    omega
  · rw [if_neg hleap]
    omega

end Fields

end ResourceQuery.Calendar
