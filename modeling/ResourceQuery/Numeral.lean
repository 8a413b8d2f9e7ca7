import ResourceQuery.Text
import ResourceQuery.Binary64.Layout

namespace ResourceQuery.Numeral

open Binary64 Text

/-- Numbers are written out up to a thousandth of a thousandth and below 10 ^ 21, integers without
a point. -/
def layout : Layout := ⟨-5, 21, "", "", .up⟩

def write (x : Binary64) : String :=
  if x.isNaN then "NaN"
  else if x.isInfinite then (if x.isNegative then "-Infinity" else "Infinity")
  else String.ofList (layout.finite x)

def wordBound : Nat := 0x10000000000000000

def word? (base : Nat) (s : List Char) : Option Nat := do
  guard !s.isEmpty
  let n ← s.foldlM (fun n c => (digitValue? base c).map (base * n + ·)) 0
  guard (n < wordBound)
  return n

def based? : List Char → Option (Nat × List Char)
  | '0' :: 'x' :: s | '0' :: 'X' :: s => some (16, s)
  | '0' :: 'o' :: s | '0' :: 'O' :: s => some (8, s)
  | '0' :: 'b' :: s | '0' :: 'B' :: s => some (2, s)
  | _ => none

def signed? : List Char → Option Binary64
  | '+' :: s => (Decimal.ofText? s).map (Decimal.toBinary64 false)
  | '-' :: s => (Decimal.ofText? s).map (Decimal.toBinary64 true)
  | s => (Decimal.ofText? s).map (Decimal.toBinary64 false)

/-- Reads a text that is a number as a whole, blanks around it apart: an infinity, an integer in
base 16, 8 or 2 without sign, or a decimal number. -/
def read? (s : List Char) : Option Binary64 :=
  let s := trim s
  if s = "Infinity".toList ∨ s = "+Infinity".toList then some (infinity false)
  else if s = "-Infinity".toList then some (infinity true)
  else
    match based? s with
    | some (base, digits) => (word? base digits).map Binary64.ofNat
    | none => signed? s

end ResourceQuery.Numeral
