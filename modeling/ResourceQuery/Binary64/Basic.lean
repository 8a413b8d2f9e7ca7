namespace ResourceQuery

/-- A number of the IEEE 754 format binary64, given by its bits. -/
structure Binary64 where
  bits : UInt64
  deriving DecidableEq, Repr, Inhabited

namespace Binary64

def signBit : Nat := 0x8000000000000000

def leadingBit : Nat := 0x10000000000000

def isNegative (x : Binary64) : Bool := signBit ≤ x.bits.toNat

def magnitude (x : Binary64) : Nat := x.bits.toNat % signBit

/-- The magnitude of the infinities. All greater ones belong to no number. -/
def infiniteMagnitude : Nat := 2047 * leadingBit

def isNaN (x : Binary64) : Bool := infiniteMagnitude < x.magnitude

def isInfinite (x : Binary64) : Bool := x.magnitude == infiniteMagnitude

def isFinite (x : Binary64) : Bool := x.magnitude < infiniteMagnitude

def isZero (x : Binary64) : Bool := x.magnitude == 0

def ofMagnitude (negative : Bool) (magnitude : Nat) : Binary64 :=
  ⟨UInt64.ofNat ((if negative then signBit else 0) + magnitude)⟩

def infinity (negative : Bool) : Binary64 := ofMagnitude negative infiniteMagnitude

def zero (negative : Bool) : Binary64 := ofMagnitude negative 0

def neg (x : Binary64) : Binary64 := ofMagnitude (!x.isNegative) x.magnitude

def numEq (x y : Binary64) : Bool :=
  !x.isNaN && !y.isNaN && (x == y || (x.isZero && y.isZero))

structure Parts where
  significand : Nat
  exponent : Int
  deriving DecidableEq, Repr

/-- A magnitude with a zero exponent field is as far apart from its neighbours as the next ones
above it, and lacks the leading bit of the others. -/
def parts (x : Binary64) : Parts :=
  let field : Nat := x.magnitude / leadingBit
  let fraction : Nat := x.magnitude % leadingBit
  if field = 0 then ⟨fraction, -1074⟩ else ⟨leadingBit + fraction, (field : Int) - 1075⟩

structure Ratio where
  num : Nat
  den : Nat
  deriving DecidableEq, Repr

namespace Ratio

def scale (base : Nat) (r : Ratio) (exponent : Int) : Ratio :=
  if 0 ≤ exponent then ⟨r.num * base.pow exponent.toNat, r.den⟩
  else ⟨r.num, r.den * base.pow (-exponent).toNat⟩

def floor (r : Ratio) : Nat := r.num / r.den

def round (r : Ratio) : Nat :=
  let low := r.floor
  let twice := 2 * (r.num % r.den)
  if twice < r.den ∨ (twice = r.den ∧ low % 2 = 0) then low else low + 1

end Ratio

def ratio (x : Binary64) : Ratio :=
  Ratio.scale 2 ⟨x.parts.significand, 1⟩ x.parts.exponent

/-- The exponent of the last bit when a ratio is written with 53 bits, or with as many as the
format has room for. -/
def lastExponent (r : Ratio) : Int :=
  let guess : Int := (Nat.log2 r.num : Int) - Nat.log2 r.den - 52
  let exponent := max guess (-1074)
  if -1074 < exponent ∧ (r.scale 2 (-exponent)).floor < leadingBit then exponent - 1 else exponent

/-- The magnitude nearest to a ratio, and of two the one with an even last bit. The leading bit of
the significand raises the exponent field by one, so a significand that rounds up to the next
power of two gives the right magnitude too. -/
def nearestMagnitude (r : Ratio) : Nat :=
  if r.num = 0 then 0
  else
    let exponent := lastExponent r
    min infiniteMagnitude ((exponent + 1074).toNat * leadingBit + (r.scale 2 (-exponent)).round)

def ofRatio (negative : Bool) (r : Ratio) : Binary64 := ofMagnitude negative (nearestMagnitude r)

def ofNat (n : Nat) : Binary64 := ofRatio false ⟨n, 1⟩

def ofInt (n : Int) : Binary64 := ofRatio (n < 0) ⟨n.natAbs, 1⟩

def truncate (x : Binary64) : Int :=
  if x.isNegative then -(x.ratio.floor : Int) else x.ratio.floor

def mulFinite (x y : Binary64) : Binary64 :=
  let negative := x.isNegative != y.isNegative
  if x.isNaN then x
  else if x.isInfinite then infinity negative
  else ofRatio negative ⟨x.ratio.num * y.ratio.num, x.ratio.den * y.ratio.den⟩

def divFinite (x y : Binary64) : Binary64 :=
  let negative := x.isNegative != y.isNegative
  if x.isNaN then x
  else if x.isInfinite then infinity negative
  else ofRatio negative ⟨x.ratio.num * y.ratio.den, x.ratio.den * y.ratio.num⟩

end Binary64

end ResourceQuery
