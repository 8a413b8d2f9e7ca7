import ResourceQuery.Calendar.Instant
import ResourceQuery.Decimal
import ResourceQuery.Unicode.DecimalDigit

namespace ResourceQuery.Calendar

open Decimal Unicode

def pad (width n : Nat) : List Char :=
  let s := digits n
  List.replicate (width - s.length) '0' ++ s

/-- A year has four digits, or a sign and at least six where four without a sign do not do. -/
def writeYear (year : Int) : List Char :=
  if 0 ≤ year ∧ year ≤ 9999 then pad 4 year.toNat
  else (if year < 0 then '-' else '+') :: pad 6 year.natAbs

namespace Instant

/-- The ISO 8601 form of an instant, in universal time and with milliseconds. -/
def write (t : Instant) : List Char :=
  let date := t.civil
  let time := t.timeOfDay
  writeYear date.year ++ '-' :: pad 2 date.month ++ '-' :: pad 2 date.day ++
    'T' :: pad 2 (time / 3600000) ++ ':' :: pad 2 (time / 60000 % 60) ++
    ':' :: pad 2 (time / 1000 % 60) ++ '.' :: pad 3 (time % 1000) ++ ['Z']

end Instant

structure Timestamp where
  year : Int
  month : Nat
  day : Nat
  hour : Nat
  minute : Nat
  second : Nat
  milli : Nat
  deriving DecidableEq, Repr

namespace Timestamp

/-- A field counts as zero if a digit of it is no ASCII digit. -/
def field (s : List Char) : Nat := if s.all Char.isDigit then natOfDigits s else 0

def milliseconds (fraction : List Char) : Nat := field ((fraction ++ ['0', '0', '0']).take 3)

def digits? (count : Nat) (s : List Char) : Option (List Char × List Char) :=
  let (field, rest) := s.splitAt count
  if field.length = count ∧ field.all isDecimalDigit then some (field, rest) else none

def mark? (c : Char) : List Char → Option (List Char)
  | d :: s => if d = c then some s else none
  | [] => none

def year? : List Char → Option (Int × List Char)
  | '+' :: s => (digits? 6 s).map fun (y, s) => ((field y : Int), s)
  | '-' :: s => (digits? 6 s).map fun (y, s) => (-(field y : Int), s)
  | s => (digits? 4 s).map fun (y, s) => ((field y : Int), s)

def fraction? : List Char → Option (List Char × List Char)
  | '.' :: s => some (s.takeWhile isDecimalDigit, s.dropWhile isDecimalDigit)
  | s => some ([], s)

/-- Reads `YYYY-MM-DDThh:mm:ss` with an optional fraction and a `Z`. -/
def ofText? (s : List Char) : Option Timestamp := do
  let (year, s) ← year? s
  let (month, s) ← (mark? '-' s).bind (digits? 2)
  let (day, s) ← (mark? '-' s).bind (digits? 2)
  let (hour, s) ← (mark? 'T' s).bind (digits? 2)
  let (minute, s) ← (mark? ':' s).bind (digits? 2)
  let (second, s) ← (mark? ':' s).bind (digits? 2)
  let (fraction, s) ← fraction? s
  guard (s = ['Z'])
  return ⟨year, field month, field day, field hour, field minute, field second,
    milliseconds fraction⟩

def monthStart (t : Timestamp) : Civil :=
  let months : Int := t.month - 1
  ⟨t.year + months / 12, (months % 12).toNat + 1, 1⟩

/-- The milliseconds since the start of 1970, where each field may exceed its unit and then adds
to the next larger one. -/
def millis (t : Timestamp) : Int :=
  (t.monthStart.toDays + t.day - 1) * dayMillis +
    (((t.hour : Int) * 60 + t.minute) * 60 + t.second) * 1000 + t.milli

/-- The instant of a timestamp. The month it is counted from has to be in range too. -/
def instant? (t : Timestamp) : Option Instant :=
  if leastYear ≤ t.monthStart.year ∧ t.monthStart.year ≤ greatestYear then
    Instant.ofMillis? t.millis
  else none

end Timestamp

end ResourceQuery.Calendar
