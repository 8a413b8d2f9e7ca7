import ResourceQuery.Calendar.Instant

namespace ResourceQuery.Calendar

def firstDay : Int := (Civil.mk leastYear 1 1).toDays

def lastDay : Int := (Civil.mk greatestYear 12 31).toDays

/-- A second of a numbered day and the nanoseconds since it began. A leap second is no second of
its own: the one before it goes on for another 10^9 nanoseconds. -/
structure Moment where
  day : Int
  second : Nat
  nano : Nat
  second_lt : second < 86400
  nano_lt : nano < 2000000000
  deriving DecidableEq, Repr

namespace Moment

def millis (m : Moment) : Int := (m.day * 86400 + m.second) * 1000 + (m.nano / 1000000 : Nat)

/-- The moment in universal time at which a clock that is `offset` minutes ahead shows `m`. -/
def universal? (m : Moment) (offset : Int) : Option Moment :=
  let second : Int := m.second - offset * 60
  let day := m.day + second / 86400
  if firstDay ≤ day ∧ day ≤ lastDay then
    some ⟨day, (second % 86400).toNat, m.nano, by omega, m.nano_lt⟩
  else none

end Moment

/-- The date and the time of a form whose fields may not exceed their units. -/
structure Fields where
  year : Int
  month : Nat
  day : Nat
  hour : Nat
  minute : Nat
  second : Nat
  nano : Nat
  deriving DecidableEq, Repr

namespace Fields

def civil (t : Fields) : Civil := ⟨t.year, t.month, t.day⟩

def IsValid (t : Fields) : Prop :=
  leastYear ≤ t.year ∧ t.year ≤ greatestYear ∧ t.civil.IsValid ∧
    t.hour ≤ 23 ∧ t.minute ≤ 59 ∧ t.second ≤ 60 ∧ t.nano < 1000000000

instance (t : Fields) : Decidable t.IsValid := by unfold IsValid; infer_instance

def moment? (t : Fields) : Option Moment :=
  if h : t.IsValid then
    some
      { day := t.civil.toDays
        second := t.hour * 3600 + t.minute * 60 + min t.second 59
        nano := if t.second = 60 then t.nano + 1000000000 else t.nano
        second_lt := by
          obtain ⟨-, -, -, hhour, hminute, -⟩ := h
          omega
        nano_lt := by
          have hnano := h.2.2.2.2.2.2
          split <;> omega }
  else none

end Fields

end ResourceQuery.Calendar
