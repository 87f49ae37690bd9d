import Calculator.Number.Exact

/-!
# Elementary functions (specification 6)

Functions of one number. Outside its domain a function is NaN.
-/

namespace Calculator.Formula

/-- NaN below zero. -/
def squareRoot (x : Number) : Number := if x < 0 then .nan else x.sqrt

/-- The logarithm to base ten; NaN at and below zero. -/
def commonLogarithm (x : Number) : Number := if x ≤ 0 then .nan else x.log10

/-- NaN at and below zero. -/
def naturalLogarithm (x : Number) : Number := if x ≤ 0 then .nan else x.ln

/-- The largest whole number whose factorial is finite. -/
def maxFactorial : Number := 170

/-- The product of the whole numbers from two up to `n`, rounded after each multiplication. NaN for
negative numbers and for those with a fraction. -/
def factorial (n : Number) : Number :=
  if n < 0 || !(n.isWhole || n.isInfinite) then .nan
  else if maxFactorial < n then .infinity
  else (List.range' 2 (n.integerPart.toNat - 1)).foldl (fun product k => product * .ofNat k) 1

end Calculator.Formula
