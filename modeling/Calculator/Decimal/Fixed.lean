import Calculator.Decimal

/-!
# Fixed places (specification 4.3)

`fixed places n` writes `n` with exactly `places` digits after the point, the exact value rounded
half to even. The sign bit is always written, also before a zero: `-0.00`.
-/

namespace Calculator.Decimal

/-- `num / den` with `places` digits after the point; without a point when there are none. -/
def fixedDigits (places num den : Nat) : List Char :=
  let q := roundHalfEven (num * powerOfTen places) den
  let whole := digits (q / powerOfTen places)
  if places = 0 then whole else whole ++ '.' :: padded places (q % powerOfTen places)

/-- A number with exactly `places` digits after the point. -/
def fixed (places : Nat) (n : Number) : String := withSign n (fixedDigits places)

end Calculator.Decimal
