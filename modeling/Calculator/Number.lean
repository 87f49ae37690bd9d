/-!
# Numbers

A number of the calculator is an IEEE 754 binary64 datum, kept by its 64-bit encoding. Equality of
`Number` is therefore equality of encodings: the two zeros differ, and so do two NaNs of different
sign, which the total order of the standard tells apart. (`Float` has a single NaN.)

* Arithmetic goes through `Float` and rounds to nearest, ties to even. Negation and absolute value
  act on the sign bit alone.
* `a < b`, `a ≤ b` and `Number.same a b` compare the values as the standard does: the two zeros are
  the same, and NaN is below, above and the same as nothing.
* `Number.rank` is the total order: every encoding has its own place.
-/

namespace Calculator

/-- An IEEE 754 binary64 datum, kept by its encoding. -/
structure Number where
  bits : UInt64
deriving DecidableEq, Inhabited

namespace Number

/-- `2 ^ k`. -/
def powerOfTwo (k : Nat) : Nat := Nat.pow 2 k

/-- The bit that holds the sign. -/
def signBit : UInt64 := 0x8000000000000000

/-- All bits but the sign. -/
def magnitudeMask : UInt64 := 0x7fffffffffffffff

def ofFloat (x : Float) : Number := ⟨x.toBits⟩

def toFloat (n : Number) : Float := Float.ofBits n.bits

/-! ## Fields and classes -/

/-- The sign bit is set: negative numbers, `-0`, `-∞` and NaNs of negative sign. -/
def signed (n : Number) : Bool := n.bits &&& signBit != 0

/-- The eleven exponent bits. -/
def exponentField (n : Number) : Nat := n.bits.toNat / powerOfTwo 52 % powerOfTwo 11

/-- The fifty-two fraction bits. -/
def fractionField (n : Number) : Nat := n.bits.toNat % powerOfTwo 52

def isNaN (n : Number) : Bool := n.exponentField == 2047 && n.fractionField != 0

def isInfinite (n : Number) : Bool := n.exponentField == 2047 && n.fractionField == 0

def isFinite (n : Number) : Bool := n.exponentField != 2047

/-- Either zero. -/
def isZero (n : Number) : Bool := n.bits &&& magnitudeMask == 0

/-- A quiet NaN. -/
def nan : Number := ⟨0x7ff8000000000000⟩

def infinity : Number := ⟨0x7ff0000000000000⟩

def negativeZero : Number := ⟨signBit⟩

/-! ## Conversions and literals -/

def ofNat (k : Nat) : Number := ofFloat (Float.ofNat k)

/-- The nearest number to an integer. -/
def ofInt (k : Int) : Number := ofFloat (Float.ofInt k)

instance (k : Nat) : OfNat Number k := ⟨ofNat k⟩

instance : OfScientific Number := ⟨fun m s e => ofFloat (OfScientific.ofScientific m s e)⟩

/-! ## Arithmetic -/

instance : Add Number := ⟨fun a b => ofFloat (a.toFloat + b.toFloat)⟩

instance : Sub Number := ⟨fun a b => ofFloat (a.toFloat - b.toFloat)⟩

instance : Mul Number := ⟨fun a b => ofFloat (a.toFloat * b.toFloat)⟩

instance : Div Number := ⟨fun a b => ofFloat (a.toFloat / b.toFloat)⟩

instance : Neg Number := ⟨fun a => ⟨a.bits ^^^ signBit⟩⟩

def abs (a : Number) : Number := ⟨a.bits &&& magnitudeMask⟩

def pow (a b : Number) : Number := ofFloat (a.toFloat.pow b.toFloat)

def sqrt (a : Number) : Number := ofFloat a.toFloat.sqrt

def sin (a : Number) : Number := ofFloat a.toFloat.sin

def cos (a : Number) : Number := ofFloat a.toFloat.cos

def tan (a : Number) : Number := ofFloat a.toFloat.tan

def exp (a : Number) : Number := ofFloat a.toFloat.exp

/-- The natural logarithm. -/
def ln (a : Number) : Number := ofFloat a.toFloat.log

def log10 (a : Number) : Number := ofFloat a.toFloat.log10

/-- `a ^ k` by repeated squaring, lowest bit of `k` first: `r` collects the factors. -/
def powNatFrom (r a : Number) (k : Nat) : Number :=
  let r := if k % 2 = 1 then r * a else r
  if h : k / 2 = 0 then r else powNatFrom r (a * a) (k / 2)
termination_by k
decreasing_by omega

/-- `a ^ k` for a whole exponent, rounded after each multiplication. -/
def powNat (a : Number) (k : Nat) : Number := powNatFrom 1 a k

/-! ## Comparisons -/

instance : LT Number := ⟨fun a b => a.toFloat < b.toFloat⟩

instance : LE Number := ⟨fun a b => a.toFloat ≤ b.toFloat⟩

instance (a b : Number) : Decidable (a < b) := inferInstanceAs (Decidable (a.toFloat < b.toFloat))

instance (a b : Number) : Decidable (a ≤ b) := inferInstanceAs (Decidable (a.toFloat ≤ b.toFloat))

/-- Equal as values: the two zeros are the same, NaN is the same as nothing. -/
def same (a b : Number) : Bool := a.toFloat == b.toFloat

/-- The lesser of two; of a NaN and a number, the number; of two that are the same, the first. -/
def min (a b : Number) : Number := if a.isNaN then b else if b < a then b else a

/-- The greater of two; of a NaN and a number, the number; of two that are the same, the first. -/
def max (a b : Number) : Number := if a.isNaN then b else if a < b then b else a

/-- The place of an encoding in the total order: NaNs of negative sign, `-∞`, the negative numbers,
`-0`, `0`, the positive numbers, `∞`, the other NaNs. -/
def rank (n : Number) : Int :=
  let magnitude : Int := (n.bits &&& magnitudeMask).toNat
  if n.signed then -1 - magnitude else magnitude

end Number

end Calculator
