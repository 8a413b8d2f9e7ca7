import ResourceQuery.Calendar.Civil

namespace ResourceQuery.Calendar

def leastYear : Int := -262143

def greatestYear : Int := 262142

def dayMillis : Int := 86400000

structure Instant where
  millis : Int
  least_le : -8334601228800000 ≤ millis
  le_greatest : millis ≤ 8210266876799999
  deriving DecidableEq

namespace Instant

/-- The instants are those of the years from `leastYear` to `greatestYear`. -/
theorem range_eq :
    (Civil.mk leastYear 1 1).toDays * dayMillis = -8334601228800000 ∧
      (Civil.mk (greatestYear + 1) 1 1).toDays * dayMillis - 1 = 8210266876799999 := by
  decide

def ofMillis? (n : Int) : Option Instant :=
  if h : -8334601228800000 ≤ n ∧ n ≤ 8210266876799999 then some ⟨n, h.1, h.2⟩ else none

def civil (t : Instant) : Civil := Civil.ofDays (t.millis / dayMillis)

def timeOfDay (t : Instant) : Nat := (t.millis % dayMillis).toNat

end Instant

end ResourceQuery.Calendar
