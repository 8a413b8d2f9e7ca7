import ResourceQuery.Calendar.Form.Internet
import ResourceQuery.Calendar.Form.Mail
import ResourceQuery.Calendar.Form.Template

namespace ResourceQuery.Calendar.Instant

def ofLooseText? (s : List Char) : Option Instant := do
  let m ← Form.internet? s <|> Form.mail? s <|> Form.template? s
  ofMillis? m.millis

/-- Reads a date. Fields of a full timestamp may exceed their units, and those of any other form
may not. -/
def ofText? (s : List Char) : Option Instant :=
  match Timestamp.ofText? s with
  | some t => t.instant?
  | none => ofLooseText? s

def least : List Char := "0000-01-01T00:00:00Z".toList

/-- Completes a timestamp: zeros go before a year of less than four digits, and what is
missing at the end is that of the start of year zero. -/
def complete (s : List Char) : List Char :=
  let s := List.replicate (4 - s.length) '0' ++ s
  s ++ least.drop s.length

end ResourceQuery.Calendar.Instant
