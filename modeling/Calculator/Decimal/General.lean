import Calculator.Decimal.Fixed
import Calculator.Decimal.Scientific

/-!
# General form (specification 4.3)

Six significant digits without trailing zeros. The exponent of the rounded value decides between
positional notation (from `-4` to `5`) and scientific notation, whose exponent has a sign and at
least two digits: `1.5`, `123457`, `1e+06`, `1e-05`.
-/

namespace Calculator.Decimal

/-- Drops the zeros at the end of a fraction, and the point if no fraction is left. -/
def trimFraction (text : List Char) : List Char :=
  if text.contains '.' then
    ((text.reverse.dropWhile (· = '0')).dropWhile (· = '.')).reverse
  else text

/-- The exponent of a general form: sign and at least two digits. -/
def generalExponent (e : Int) : List Char :=
  (if e < 0 then '-' else '+') :: padded 2 e.natAbs

/-- `num / den` in general form. -/
def generalDigits (num den : Nat) : List Char :=
  if num = 0 then ['0']
  else
    let s := Scientific.ofQuotient 5 num den
    if -4 ≤ s.exponent ∧ s.exponent < 6 then
      trimFraction (fixedDigits (5 - s.exponent).toNat num den)
    else trimFraction (s.mantissaDigits 5) ++ 'e' :: generalExponent s.exponent

/-- A number in general form. Either zero is `0`; what is not finite is `nan`, `inf` or `-inf`. -/
def general (n : Number) : String :=
  if n.isZero then "0"
  else if n.isNaN then "nan"
  else withSign n generalDigits

end Calculator.Decimal
