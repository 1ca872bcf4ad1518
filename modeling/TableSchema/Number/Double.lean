/-!
# Finite doubles

A finite binary64 number, held exactly. Arithmetic is on natural numbers, and every result is rounded to
the nearest double, a half to the even one.
-/

namespace TableSchema

/-- The number `± mantissa · 2 ^ exponent`. -/
structure Double where
  negative : Bool
  mantissa : Nat
  exponent : Int
deriving DecidableEq, Repr

/-- `num / den` to the nearest integer, a half to the even neighbour. -/
def roundDiv (num den : Nat) : Nat :=
  let q := num / den
  let r := num % den
  if 2 * r < den then q
  else if den < 2 * r then q + 1
  else q + q % 2

/-- Numerator and denominator of `num / den / 2 ^ e`. -/
def scaleDown (num den : Nat) (e : Int) : Nat × Nat :=
  (num * Nat.pow 2 (-e).toNat, den * Nat.pow 2 e.toNat)

def minInt64 : Int := -Nat.pow 2 63

def maxInt64 : Int := Nat.pow 2 63 - 1

namespace Double

/-- The exponent of the smallest doubles. -/
def minExponent : Int := -1074

/-- The exponent of the largest doubles. -/
def maxExponent : Int := 971

def zero (negative : Bool) : Double :=
  ⟨negative, 0, minExponent⟩

def largest (negative : Bool) : Double :=
  ⟨negative, Nat.pow 2 53 - 1, maxExponent⟩

def isZero (x : Double) : Bool :=
  x.mantissa == 0

/-- Minus zero is not below zero. -/
def isNonNegative (x : Double) : Bool :=
  !x.negative || x.isZero

def neg (x : Double) : Double :=
  { x with negative := !x.negative }

/-- The exponent at which `num / den` has 53 significant bits, or the least exponent there is. -/
def exponentOf (num den : Nat) : Int :=
  let e : Int := (num.log2 : Int) - den.log2 - 53
  let (n, d) := scaleDown num den e
  max minExponent (if Nat.pow 2 53 ≤ n / d then e + 1 else e)

/-- The double nearest to `± num / den`, none when that is beyond the largest. -/
def ofRatio? (negative : Bool) (num den : Nat) : Option Double :=
  if num = 0 then some (zero negative) else
  let e := exponentOf num den
  let (n, d) := scaleDown num den e
  let m := roundDiv n d
  let (m, e) := if m = Nat.pow 2 53 then (Nat.pow 2 52, e + 1) else (m, e)
  if maxExponent < e then none else some ⟨negative, m, e⟩

/-- The double nearest to an integer, the largest one for integers beyond it. -/
def ofInt (n : Int) : Double :=
  (ofRatio? (n < 0) n.natAbs 1).getD (largest (n < 0))

/-- Numerator and denominator of the absolute value. -/
def ratio (x : Double) : Nat × Nat :=
  scaleDown x.mantissa 1 (-x.exponent)

def mul? (x y : Double) : Option Double :=
  ofRatio? (x.negative != y.negative) (x.ratio.1 * y.ratio.1) (x.ratio.2 * y.ratio.2)

/-- The quotient by a number other than zero. -/
def div? (x y : Double) : Option Double :=
  ofRatio? (x.negative != y.negative) (x.ratio.1 * y.ratio.2) (x.ratio.2 * y.ratio.1)

def numerator (x : Double) : Int :=
  if x.negative then -(x.ratio.1 : Int) else x.ratio.1

def le (x y : Double) : Bool :=
  x.numerator * y.ratio.2 ≤ y.numerator * x.ratio.2

def lt (x y : Double) : Bool :=
  !y.le x

def isIntegral (x : Double) : Bool :=
  x.numerator % x.ratio.2 == 0

/-- Cuts the digits behind the point, and takes the nearest integer of 64 bits if there are too many before
it. -/
def toInt64 (x : Double) : Int :=
  max minInt64 (min maxInt64 (x.numerator.tdiv x.ratio.2))

/-- The integer that a double is, if 64 bits hold it. Both bounds are rounded to doubles themselves. -/
def int64? (x : Double) : Option Int :=
  if x.isIntegral && (ofInt minInt64).le x && x.lt (ofInt maxInt64) then some x.toInt64 else none

/-- The whole part of the double, zero for negative ones. -/
def floorNat (x : Double) : Nat :=
  if x.negative then 0 else x.ratio.1 / x.ratio.2

end Double

end TableSchema
