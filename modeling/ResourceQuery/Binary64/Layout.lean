import ResourceQuery.Binary64.Shortest

namespace ResourceQuery.Binary64

structure Layout where
  /-- Numbers with `n` digits before the point, where `least ≤ n ≤ most`, have no exponent part. -/
  least : Int
  most : Int
  integral : String
  plus : String
  tie : Tie
  deriving Repr

namespace Layout

def positional (l : Layout) (digits : List Char) (order : Int) : List Char :=
  let count : Int := digits.length
  if order ≤ 0 then '0' :: '.' :: List.replicate (-order).toNat '0' ++ digits
  else if order < count then
    digits.take order.toNat ++ '.' :: digits.drop order.toNat
  else digits ++ List.replicate (order - count).toNat '0' ++ l.integral.toList

def scientific (l : Layout) (digits : List Char) (order : Int) : List Char :=
  let exponent := order - 1
  let significand :=
    match digits with
    | [] => []
    | [d] => [d]
    | d :: rest => d :: '.' :: rest
  let sign := if exponent < 0 then ['-'] else l.plus.toList
  significand ++ 'e' :: sign ++ Decimal.digits exponent.natAbs

def decimal (l : Layout) (d : Decimal) : List Char :=
  let digits := Decimal.digits d.significand
  let order := d.exponent + digits.length
  if l.least ≤ order ∧ order ≤ l.most then l.positional digits order
  else l.scientific digits order

def finite (l : Layout) (x : Binary64) : List Char :=
  let d := if x.isZero then ⟨0, 0⟩ else shortest l.tie x
  if x.isNegative then '-' :: l.decimal d else l.decimal d

end Layout

end ResourceQuery.Binary64
