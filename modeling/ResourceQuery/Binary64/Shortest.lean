import ResourceQuery.Decimal

namespace ResourceQuery.Binary64

/-- Which way the last digit goes when two decimal numbers are equally near. -/
inductive Tie
  | up
  | even
  deriving DecidableEq, Repr

def orderFrom (r : Ratio) : Nat → Int → Int
  | 0, start => start
  | fuel + 1, start =>
      let scaled := r.scale 10 (-start)
      if scaled.num < scaled.den then start else orderFrom r fuel (start + 1)

/-- The number of digits before the point, or less the number of zeros after it. The logarithm
of two starts the search at most three steps too low. -/
def order (r : Ratio) : Int :=
  orderFrom r 3 ((((Nat.log2 r.num : Int) - Nat.log2 r.den - 1) * 30103) / 100000)

def readsBack (x : Binary64) (d : Decimal) : Bool := d.toBinary64 x.isNegative == x

/-- The decimal number of at most `count` digits that is nearest to the number, if it reads back
as the number. Only the two neighbours on the grid of the last digit can do so. -/
def ofDigitCount? (tie : Tie) (x : Binary64) (count : Nat) : Option Decimal :=
  let exponent := order x.ratio - count
  let scaled := x.ratio.scale 10 (-exponent)
  let low := scaled.floor
  let twice := 2 * (scaled.num % scaled.den)
  let lowFirst := twice < scaled.den || (twice == scaled.den && tie == .even && low % 2 == 0)
  let near : Decimal := ⟨if lowFirst then low else low + 1, exponent⟩
  let far : Decimal := ⟨if lowFirst then low + 1 else low, exponent⟩
  if readsBack x near then some near
  else if readsBack x far then some far
  else none

def exactDecimal (x : Binary64) : Decimal :=
  let p := x.parts
  if 0 ≤ p.exponent then ⟨p.significand * Nat.pow 2 p.exponent.toNat, 0⟩
  else ⟨p.significand * Nat.pow 5 (-p.exponent).toNat, p.exponent⟩

/-- The decimal number with the fewest digits that reads back as the finite number, and the
nearest of those. Seventeen digits always do. -/
def shortest (tie : Tie) (x : Binary64) : Decimal :=
  match (List.range' 1 17).findSome? (ofDigitCount? tie x) with
  | some d => d.stripZeros 1
  | none => exactDecimal x

end ResourceQuery.Binary64
