import ResourceQuery.Binary64.Basic

namespace ResourceQuery

structure Decimal where
  significand : Nat
  exponent : Int
  deriving DecidableEq, Repr

namespace Decimal

def digitValue (c : Char) : Nat := c.toNat - '0'.toNat

def natOfDigits (s : List Char) : Nat := s.foldl (fun n c => 10 * n + digitValue c) 0

def digits (n : Nat) : List Char := Nat.toDigits 10 n

/-- The number nearest to a decimal number. Where the result is out of range by the size of the
exponent alone, no power of ten is worked out: ten is more than the third power of two. -/
def toBinary64 (negative : Bool) (d : Decimal) : Binary64 :=
  if d.significand = 0 then .zero negative
  else
    let bits : Int := Nat.log2 d.significand
    if 0 < d.exponent ∧ 1024 < bits + 3 * d.exponent then .infinity negative
    else if d.exponent < 0 ∧ bits + 3 * d.exponent < -1080 then .zero negative
    else .ofRatio negative (Binary64.Ratio.scale 10 ⟨d.significand, 1⟩ d.exponent)

def exponent? : List Char → Option Int
  | [] => some 0
  | e :: s =>
      let digits? (s : List Char) : Option Nat :=
        if !s.isEmpty && s.all Char.isDigit then some (natOfDigits s) else none
      if e = 'e' ∨ e = 'E' then
        match s with
        | '+' :: s => (digits? s).map fun n => (n : Int)
        | '-' :: s => (digits? s).map fun n => -(n : Int)
        | s => (digits? s).map fun n => (n : Int)
      else none

/-- Reads digits with at most one point among them, at least one digit, and an exponent part. -/
def ofText? (s : List Char) : Option Decimal :=
  let whole := s.takeWhile Char.isDigit
  let s := s.dropWhile Char.isDigit
  let (fraction, s) :=
    match s with
    | '.' :: s => (s.takeWhile Char.isDigit, s.dropWhile Char.isDigit)
    | s => ([], s)
  if whole.isEmpty && fraction.isEmpty then none
  else
    (exponent? s).map fun e => ⟨natOfDigits (whole ++ fraction), e - fraction.length⟩

def stripZeros : Nat → Decimal → Decimal
  | 0, d => d
  | fuel + 1, d =>
      if d.significand % 10 = 0 then stripZeros fuel ⟨d.significand / 10, d.exponent + 1⟩ else d

end Decimal

end ResourceQuery
