import ResourceQuery.Calendar.Field

namespace ResourceQuery.Calendar.Form

open Timestamp Text

inductive Element
  | year
  | month
  | day
  | hour
  | minute
  | second
  | fraction
  | blank
  | mark (c : Char)
  deriving DecidableEq, Repr

/-- A year has up to four digits, or a sign and any number of them. -/
def templateYear? : List Char → Option (Int × List Char)
  | '+' :: s => (digitRun? s).map fun (run, s) => ((Decimal.natOfDigits run : Int), s)
  | '-' :: s => (digitRun? s).map fun (run, s) => (-(Decimal.natOfDigits run : Int), s)
  | s => (number? 1 4 s).map fun (n, s) => ((n : Int), s)

/-- Reads one element into the fields. Blanks may stand before any number, and a blank in the
template takes any number of them, even none. -/
def Element.read? (t : Fields) (s : List Char) : Element → Option (Fields × List Char)
  | year => (templateYear? (skipBlanks s)).map fun (n, s) => ({ t with year := n }, s)
  | month => (number? 1 2 (skipBlanks s)).map fun (n, s) => ({ t with month := n }, s)
  | day => (number? 1 2 (skipBlanks s)).map fun (n, s) => ({ t with day := n }, s)
  | hour => (number? 1 2 (skipBlanks s)).map fun (n, s) => ({ t with hour := n }, s)
  | minute => (number? 1 2 (skipBlanks s)).map fun (n, s) => ({ t with minute := n }, s)
  | second => (number? 1 2 (skipBlanks s)).map fun (n, s) => ({ t with second := n }, s)
  | fraction => (pointFraction? s).map fun (n, s) => ({ t with nano := n }, s)
  | blank => some (t, skipBlanks s)
  | mark c => (mark? c s).map fun s => (t, s)

def fill? : List Element → Fields → List Char → Option Fields
  | [], t, s => if s.isEmpty then some t else none
  | e :: es, t, s => (e.read? t s).bind fun (t, s) => fill? es t s

def dashed : List Element := [.year, .mark '-', .month, .mark '-', .day]

def slashed : List Element := [.year, .mark '/', .month, .mark '/', .day]

def monthFirst : List Element := [.month, .mark '/', .day, .mark '/', .year]

def clock : List Element := [.hour, .mark ':', .minute]

def clockSeconds : List Element := clock ++ [.mark ':', .second]

def templates : List (List Element) :=
  [dashed ++ .mark 'T' :: clockSeconds ++ [.fraction],
   dashed ++ .mark 'T' :: clock,
   dashed ++ .blank :: clockSeconds ++ [.fraction],
   dashed ++ .blank :: clock,
   slashed ++ .blank :: clockSeconds,
   dashed,
   slashed,
   monthFirst]

def template? (s : List Char) : Option Moment :=
  templates.findSome? fun t => (fill? t ⟨0, 1, 1, 0, 0, 0, 0⟩ s).bind Fields.moment?

end ResourceQuery.Calendar.Form
