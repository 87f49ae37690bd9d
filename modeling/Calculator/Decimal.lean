import Calculator.Number.Exact

/-!
# Decimal digits

Digits of natural numbers, and the rounding rule that all decimal text of the calculator shares:
a quotient is rounded to the nearest integer, and a half goes to the even neighbour. Quotients are
exact (numerator and denominator are natural numbers), so nothing is rounded twice.
-/

namespace Calculator.Decimal

/-- `10 ^ k`. -/
def powerOfTen (k : Nat) : Nat := Nat.pow 10 k

/-- The decimal digits of a natural number, without leading zeros; `0` for zero. -/
def digits (k : Nat) : List Char := Nat.toDigits 10 k

/-- How many decimal digits a natural number has; one for zero. -/
def digitCount (k : Nat) : Nat := (digits k).length

/-- The digits of `k`, with zeros in front up to `width` of them. -/
def padded (width k : Nat) : List Char :=
  List.replicate (width - digitCount k) '0' ++ digits k

/-- The digits of an integer after a minus sign if it is negative. -/
def signedDigits (k : Int) : List Char :=
  if k < 0 then '-' :: digits k.natAbs else digits k.natAbs

/-- `num / den` rounded to the nearest integer, a half to the even one. -/
def roundHalfEven (num den : Nat) : Nat :=
  let q := num / den
  let r := num % den
  if 2 * r < den then q else if den < 2 * r then q + 1 else q + q % 2

/-- The exponent of the leading decimal digit of `num / den`: the `e` with
`10 ^ e ≤ num / den < 10 ^ (e + 1)`. -/
def leadingExponent (num den : Nat) : Int :=
  if den ≤ num then (digitCount (num / den) : Int) - 1
  else -(digitCount ((den - 1) / num) : Int)

/-- The text of a number that is not finite, or else `finite` applied to the exact value `num / den`
of its magnitude, after a minus sign if the sign bit is set. -/
def withSign (n : Number) (finite : Nat → Nat → List Char) : String :=
  let sign := if n.signed then ['-'] else []
  if n.isNaN then "NaN"
  else if n.isInfinite then String.ofList (sign ++ ['i', 'n', 'f'])
  else String.ofList (sign ++ finite n.numerator n.denominator)

end Calculator.Decimal
