import Calculator.Decimal

/-!
# Scientific form

A positive quotient rounded to a given number of significant digits, and its text with one digit
before the point and an unpadded exponent: `1.40000e1`, `-2.5e-7`.
-/

namespace Calculator.Decimal

/-- `mantissa · 10 ^ (exponent - places)`, where `exponent` belongs to the leading digit and
`places` digits follow it. -/
structure Scientific where
  mantissa : Nat
  exponent : Int
deriving DecidableEq

namespace Scientific

/-- `num / den` rounded half to even to one digit before and `places` digits after the point. A
mantissa that rounds up to the next power of ten moves the exponent. Zero has exponent zero. -/
def ofQuotient (places num den : Nat) : Scientific :=
  if num = 0 then ⟨0, 0⟩
  else
    let e := leadingExponent num den
    let shift := (places : Int) - e
    let q := roundHalfEven (num * powerOfTen shift.toNat) (den * powerOfTen (-shift).toNat)
    if q = powerOfTen (places + 1) then ⟨powerOfTen places, e + 1⟩ else ⟨q, e⟩

/-- The mantissa as text: one digit, and `places` more after a point. -/
def mantissaDigits (places : Nat) (s : Scientific) : List Char :=
  let whole := digits (s.mantissa / powerOfTen places)
  if places = 0 then whole else whole ++ '.' :: padded places (s.mantissa % powerOfTen places)

end Scientific

/-- A number in scientific form with `places` digits after the point. -/
def scientific (places : Nat) (n : Number) : String :=
  withSign n fun num den =>
    let s := Scientific.ofQuotient places num den
    s.mantissaDigits places ++ 'e' :: signedDigits s.exponent

end Calculator.Decimal
