import Calculator.Decimal

/-!
# Shortest form

The fewest decimal digits that still denote the number: those of a decimal inside the interval of
reals that round to it. Of two such decimals with the same number of digits the nearer one is
taken, and of two equally near ones the greater. The text is always positional.

The interval around `m · 2 ^ q` is measured in quarters of a unit in the last place, since below a
power of two the neighbour is only half as far away. Its ends belong to it when `m` is even.
-/

namespace Calculator.Decimal

/-- A positive value with the ends of the interval that rounds to it, all over one denominator. -/
structure Rounding where
  low : Nat
  value : Nat
  high : Nat
  denominator : Nat
  /-- The ends round to the value too. -/
  closed : Bool

/-- The interval of reals that round to a finite positive number. -/
def Rounding.ofNumber (n : Number) : Rounding :=
  let below := if n.fractionField = 0 ∧ 1 < n.exponentField then 1 else 2
  let unit := Number.powerOfTwo (n.scale - 2).toNat
  { low := (4 * n.significand - below) * unit
    value := 4 * n.significand * unit
    high := (4 * n.significand + 2) * unit
    denominator := Number.powerOfTwo (2 - n.scale).toNat
    closed := n.significand % 2 = 0 }

/-- Whether `c / d`, measured over the interval's denominator, rounds to the value. -/
def Rounding.holds (r : Rounding) (c d : Nat) : Bool :=
  if r.closed then r.low * d ≤ c && c ≤ r.high * d else r.low * d < c && c < r.high * d

/-- The decimal with `k` significant digits that denotes the value, as `c · 10 ^ s`, if there is
one: the value's neighbours on that grid are the only candidates worth trying. -/
def Rounding.decimal? (r : Rounding) (k : Nat) : Option (Nat × Int) :=
  let s := leadingExponent r.value r.denominator - ((k : Int) - 1)
  let up := powerOfTen s.toNat * r.denominator
  let down := powerOfTen (-s).toNat
  let c := r.value * down / up
  let below := r.value * down - c * up
  let above := (c + 1) * up - r.value * down
  let pick (c : Nat) : Nat × Int := if c = powerOfTen k then (1, s + k) else (c, s)
  match r.holds (c * up) down, r.holds ((c + 1) * up) down with
  | true, true => some (pick (if below < above then c else c + 1))
  | true, false => some (pick c)
  | false, true => some (pick (c + 1))
  | false, false => none

/-- The shortest decimal for the value: seventeen digits always suffice. -/
def Rounding.shortest (r : Rounding) : Nat × Int :=
  ((List.range 17).findSome? fun k => r.decimal? (k + 1)).getD (0, 0)

/-- `c · 10 ^ s` in positional notation. -/
def positional (c : Nat) (s : Int) : List Char :=
  if 0 ≤ s then digits c ++ List.replicate s.toNat '0'
  else
    let places := (-s).toNat
    digits (c / powerOfTen places) ++ '.' :: padded places (c % powerOfTen places)

/-- A number in its shortest positional form. -/
def shortest (n : Number) : String :=
  withSign n fun num _ =>
    if num = 0 then ['0']
    else
      let (c, s) := (Rounding.ofNumber n).shortest
      positional c s

end Calculator.Decimal
