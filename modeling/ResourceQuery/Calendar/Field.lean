import ResourceQuery.Calendar.Moment
import ResourceQuery.Calendar.Timestamp
import ResourceQuery.Text

namespace ResourceQuery.Calendar

open Decimal Text

def number? (least most : Nat) (s : List Char) : Option (Nat × List Char) :=
  let field := (s.take most).takeWhile Char.isDigit
  if least ≤ field.length then some (natOfDigits field, s.drop field.length) else none

def digitRun? (s : List Char) : Option (List Char × List Char) :=
  let run := s.takeWhile Char.isDigit
  if run.isEmpty then none else some (run, s.drop run.length)

def nanoseconds (run : List Char) : Nat :=
  let run := run.take 9
  natOfDigits run * Nat.pow 10 (9 - run.length)

def pointFraction? : List Char → Option (Nat × List Char)
  | '.' :: s => (digitRun? s).map fun (run, s) => (nanoseconds run, s)
  | s => some (0, s)

def skipBlanks (s : List Char) : List Char := s.dropWhile isBlank

def blanks? : List Char → Option (List Char)
  | c :: s => if isBlank c then some (skipBlanks s) else none
  | [] => none

/-- The offset from universal time in minutes that a sign, two digits for the hours, what
`between` reads, and two digits for the minutes write. It is less than a day. -/
def signedOffset? (between : List Char → Option (List Char)) (s : List Char) :
    Option (Int × List Char) := do
  let (negative, s) ←
    match s with
    | '+' :: s => some (false, s)
    | '-' :: s => some (true, s)
    | _ => none
  let (hours, s) ← number? 2 2 s
  let s ← between s
  let (minutes, s) ← number? 2 2 s
  guard (hours < 24 ∧ minutes < 60)
  let offset : Int := hours * 60 + minutes
  return (if negative then -offset else offset, s)

end ResourceQuery.Calendar
