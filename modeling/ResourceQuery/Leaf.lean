import ResourceQuery.Calendar.Reading
import ResourceQuery.Fault
import ResourceQuery.Json.Reading
import ResourceQuery.Numeral
import ResourceQuery.Percent
import ResourceQuery.Unicode.LowerCase
import ResourceQuery.Value

namespace ResourceQuery.Leaf

open Calendar

abbrev Reader := String → Except LeafFault Value

def decoded (text : String) : Except LeafFault String :=
  match Percent.decode? text with
  | some s => .ok s
  | none => .error (.encoding text)

def numeral (text : String) : Except LeafFault Binary64 :=
  match Numeral.read? text.toList with
  | some x => .ok x
  | none => .error (.number text)

def number : Reader := fun text => (numeral text).map Value.number

/-- The largest distance of a date from the start of 1970, in milliseconds. The calendar does not
reach as far. -/
def epochBound : Nat := 8640000000000000

def epoch : Reader := fun text =>
  let found := do
    let x ← Numeral.read? text.toList
    guard (x.isFinite ∧ x.ratio.num ≤ epochBound * x.ratio.den)
    Instant.ofMillis? x.truncate
  match found with
  | some t => .ok (.date t)
  | none => .error (.date text)

def date : Reader := fun text =>
  match Instant.ofText? text.toList with
  | some t => .ok (.date t)
  | none => .error (.date text)

def incompleteDate : Reader := fun text => date (String.ofList (Instant.complete text.toList))

def boolean : Reader := fun text => .ok (.boolean (Unicode.toLower text == "true"))

def string : Reader := fun text => (decoded text).map Value.string

def pattern (caseSensitive : Bool) : Reader := fun text => do
  let source ← decoded text
  match Pattern.ofSource source caseSensitive with
  | .ok p => return .pattern p
  | .error f => throw (.pattern source f)

def quoted? : List Char → Option (List Char)
  | '\'' :: s => if s.getLast? = some '\'' then some s.dropLast else none
  | _ => none

def json : Reader := fun text => do
  let s ← decoded text
  match Json.read ((quoted? s.toList).getD s.toList) with
  | .ok j => return .json j
  | .error f => throw (.json s f)

def word? (text : String) : Option Value :=
  match text with
  | "true" => some (.boolean true)
  | "false" => some (.boolean false)
  | "null" => some .null
  | "undefined" => some .undefined
  | "Infinity" => some (.number (.infinity false))
  | "-Infinity" => some (.number (.infinity true))
  | _ => none

/-- Finds out the type of a text: a word that stands for a value, a number, or else a string. A
string in single quotes has the escapes of JSON. -/
def auto : Reader := fun text =>
  match word? text with
  | some v => .ok v
  | none =>
      match Numeral.read? text.toList with
      | some x => .ok (.number x)
      | none => do
          let s ← decoded text
          match quoted? s.toList with
          | none => return .string s
          | some content =>
              match Json.readQuoted content with
              | .ok t => return .string t
              | .error f => throw (.json s f)

end ResourceQuery.Leaf
