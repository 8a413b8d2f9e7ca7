import ResourceQuery.Calendar.Field

namespace ResourceQuery.Calendar.Form

open Timestamp Text

def weekdayNames : List String := ["mon", "tue", "wed", "thu", "fri", "sat", "sun"]

def monthNames : List String :=
  ["jan", "feb", "mar", "apr", "may", "jun", "jul", "aug", "sep", "oct", "nov", "dec"]

def name? (names : List String) (s : List Char) : Option (Nat × List Char) :=
  (names.idxOf? (String.ofList ((s.take 3).map Char.toLower))).map fun i => (i, s.drop 3)

def weekday? (s : List Char) : Option (Option Nat × List Char) :=
  match name? weekdayNames s with
  | some (d, ',' :: s) => some (some d, s)
  | some _ => none
  | none => some (none, s)

def fullYear (digitCount year : Nat) : Nat :=
  if digitCount = 2 then (if year < 50 then year + 2000 else year + 1900)
  else if digitCount = 3 then year + 1900
  else year

def seconds? (s : List Char) : Option (Nat × List Char) :=
  match skipBlanks s with
  | ':' :: s => number? 2 2 s
  | _ => some (0, s)

/-- The offset in hours of a zone that has a name. The single letters other than `Z` never had an
agreed meaning and count as universal time, and `J` was none of them. -/
def zoneHours? (name : String) : Option Int :=
  match name with
  | "gmt" | "ut" | "z" => some 0
  | "edt" => some (-4)
  | "est" | "cdt" => some (-5)
  | "cst" | "mdt" => some (-6)
  | "mst" | "pdt" => some (-7)
  | "pst" => some (-8)
  | "j" => none
  | _ => if name.length = 1 then some 0 else none

def zone? (s : List Char) : Option (Int × List Char) :=
  let name := s.takeWhile Char.isAlpha
  if name.isEmpty then signedOffset? some s
  else
    (zoneHours? (String.ofList (name.map Char.toLower))).map fun h => (h * 60, s.drop name.length)

/-- What follows a comment in which `depth` parentheses are open besides the outermost. A
backslash takes its meaning from the character after it. -/
def afterComment? : Nat → List Char → Option (List Char)
  | depth, '\\' :: _ :: s => afterComment? depth s
  | depth, '(' :: s => afterComment? (depth + 1) s
  | 0, ')' :: s => some s
  | depth + 1, ')' :: s => afterComment? depth s
  | depth, _ :: s => afterComment? depth s
  | _, [] => none

def isComments : Nat → List Char → Bool
  | _, [] => true
  | 0, _ => false
  | fuel + 1, s =>
      match skipBlanks s with
      | '(' :: s =>
          match afterComment? 0 s with
          | some rest => isComments fuel rest
          | none => false
      | _ => false

/-- Reads the date form of RFC 2822, and with it the older zones. -/
def mail? (s : List Char) : Option Moment := do
  let (weekday, s) ← weekday? (skipBlanks s)
  let (day, s) ← number? 1 2 (skipBlanks s)
  let (month, s) ← (blanks? s).bind (name? monthNames)
  let (yearDigits, s) ← (blanks? s).bind digitRun?
  guard (2 ≤ yearDigits.length)
  let year := fullYear yearDigits.length (Decimal.natOfDigits yearDigits)
  let (hour, s) ← (blanks? s).bind (number? 2 2)
  let (minute, s) ← (mark? ':' (skipBlanks s)).bind fun s => number? 2 2 (skipBlanks s)
  let (second, s) ← seconds? s
  let (offset, s) ← (blanks? s).bind zone?
  guard (isComments s.length s)
  let days := (Civil.mk year (month + 1) day).toDays
  guard (weekday.all (· == Calendar.weekday days))
  let m ← Fields.moment? ⟨year, month + 1, day, hour, minute, second, 0⟩
  m.universal? offset

end ResourceQuery.Calendar.Form
