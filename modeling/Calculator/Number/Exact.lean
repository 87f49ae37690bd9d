import Calculator.Number

/-!
# The exact value of a number

A finite number is a dyadic rational. `numerator` and `denominator` give its absolute value as a
quotient of natural numbers, so that decimal text and integer parts are computed without rounding.
-/

namespace Calculator.Number

/-- The integer `m` of `|n| = m · 2 ^ q`: the fraction bits, with the implicit leading one unless
the number is subnormal. -/
def significand (n : Number) : Nat :=
  if n.exponentField = 0 then n.fractionField else powerOfTwo 52 + n.fractionField

/-- The power `q` of `|n| = m · 2 ^ q`. -/
def scale (n : Number) : Int :=
  if n.exponentField = 0 then -1074 else (n.exponentField : Int) - 1075

/-- `|n| = numerator / denominator` for a finite `n`. -/
def numerator (n : Number) : Nat := n.significand * powerOfTwo n.scale.toNat

/-- A power of two. -/
def denominator (n : Number) : Nat := powerOfTwo (-n.scale).toNat

/-- The integer part of a finite number: the fraction is dropped, toward zero. -/
def integerPart (n : Number) : Int :=
  let whole : Int := (n.numerator / n.denominator : Nat)
  if n.signed then -whole else whole

/-- A finite number without a fraction. -/
def isWhole (n : Number) : Bool := n.isFinite && n.numerator % n.denominator == 0

/-- The integer part within `[low, high]`: a number beyond a bound, infinities included, gives the
bound, and NaN gives zero. -/
def clampedInteger (low high : Int) (n : Number) : Int :=
  if n.isNaN then 0
  else if n.isInfinite then if n.signed then low else high
  else Max.max low (Min.min high n.integerPart)

end Calculator.Number
