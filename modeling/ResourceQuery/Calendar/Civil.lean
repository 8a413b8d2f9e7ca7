namespace ResourceQuery.Calendar

/-- A day of the Gregorian calendar, carried on before its introduction. The year before year one
is year zero. -/
structure Civil where
  year : Int
  month : Nat
  day : Nat
  deriving DecidableEq, Repr

def isLeap (year : Int) : Bool := year % 4 == 0 && (year % 100 != 0 || year % 400 == 0)

def monthLength (year : Int) (month : Nat) : Nat :=
  if month = 2 then (if isLeap year then 29 else 28)
  else if month = 4 ∨ month = 6 ∨ month = 9 ∨ month = 11 then 30
  else 31

namespace Civil

def IsValid (c : Civil) : Prop :=
  1 ≤ c.month ∧ c.month ≤ 12 ∧ 1 ≤ c.day ∧ c.day ≤ monthLength c.year c.month

instance (c : Civil) : Decidable c.IsValid := by unfold IsValid; infer_instance

/-- The number of days before the first of March of a year, counted from year zero. In years that
begin in March the leap day comes last. -/
def daysBeforeYear (year : Int) : Int := 365 * year + year / 4 - year / 100 + year / 400

def daysBeforeMonth (month : Nat) : Nat := (153 * month + 2) / 5

def toDays (c : Civil) : Int :=
  let year := if c.month ≤ 2 then c.year - 1 else c.year
  let month := if c.month ≤ 2 then c.month + 9 else c.month - 3
  daysBeforeYear year + daysBeforeMonth month + c.day - 1 - 719468

/-- The day with the given number. Four hundred years have 146097 days, and the year is found
within them by taking out the leap days before it. -/
def ofDays (n : Int) : Civil :=
  let n := n + 719468
  let era := n / 146097
  let day := (n % 146097).toNat
  let yearOfEra := (day - day / 1460 + day / 36524 - day / 146096) / 365
  let dayOfYear := day - (365 * yearOfEra + yearOfEra / 4 - yearOfEra / 100)
  let month := (5 * dayOfYear + 2) / 153
  let year : Int := yearOfEra + era * 400
  ⟨if month < 10 then year else year + 1, if month < 10 then month + 3 else month - 9,
    dayOfYear - daysBeforeMonth month + 1⟩

end Civil

def weekday (days : Int) : Nat := ((days + 3) % 7).toNat

end ResourceQuery.Calendar
