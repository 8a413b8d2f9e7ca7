import ResourceQuery.Calendar.Field

namespace ResourceQuery.Calendar.Form

open Timestamp

/-- A `Z`, or an offset in which hours and minutes have a colon between them. The sign may be the
character MINUS SIGN. -/
def internetOffset? : List Char → Option (Int × List Char)
  | 'Z' :: s | 'z' :: s => some (0, s)
  | '\u2212' :: s => signedOffset? (mark? ':') ('-' :: s)
  | s => signedOffset? (mark? ':') s

/-- Reads the date form of RFC 3339. -/
def internet? (s : List Char) : Option Moment := do
  let (year, s) ← number? 4 4 s
  let (month, s) ← (mark? '-' s).bind (number? 2 2)
  let (day, s) ← (mark? '-' s).bind (number? 2 2)
  let s ←
    match s with
    | 'T' :: s | 't' :: s | ' ' :: s => some s
    | _ => none
  let (hour, s) ← number? 2 2 s
  let (minute, s) ← (mark? ':' s).bind (number? 2 2)
  let (second, s) ← (mark? ':' s).bind (number? 2 2)
  let (nano, s) ← pointFraction? s
  let (offset, s) ← internetOffset? s
  guard s.isEmpty
  let m ← Fields.moment? ⟨year, month, day, hour, minute, second, nano⟩
  m.universal? offset

end ResourceQuery.Calendar.Form
