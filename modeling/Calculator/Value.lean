import Calculator.Decimal.General
import Calculator.Text.Bounded

/-!
# Values (specification 4.3)

What an expression is worth: a number, a text, or nothing. A value has two texts. `render` is what a
result shows: numbers with the session's decimal places. `toText` is what goes into other texts:
very large and very small numbers in general form, and, where no places are asked for, whole numbers
without a fraction.
-/

namespace Calculator

inductive Value where
  | number (n : Number)
  | text (s : String)
  | null
deriving DecidableEq, Inhabited

namespace Value

/-- A text value of at most `Text.maxLength` characters. -/
def ofText (s : String) : Value := .text (Text.bounded s)

def typeName : Value → String
  | .number _ => "number"
  | .text _ => "string"
  | .null => "null"

def number? : Value → Option Number
  | .number n => some n
  | _ => none

/-- From here on numbers are written in general form. -/
def largeMagnitude : Number := 1e9

/-- Down to here numbers other than zero are written in general form. -/
def smallMagnitude : Number := 1e-9

/-- The text of a number inside other texts: with the given places, or as short as it gets. -/
def numberText (places : Option Nat) (n : Number) : String :=
  if !n.isFinite then Decimal.general n
  else if largeMagnitude ≤ n.abs || (n.abs ≤ smallMagnitude && !n.isZero) then Decimal.general n
  else match places with
    | some places => Decimal.fixed places n
    | none =>
      if n.isWhole then String.ofList (Decimal.signedDigits n.integerPart)
      else Decimal.general n

/-- The text of a value inside other texts. -/
def toText (places : Option Nat) : Value → String
  | .number n => numberText places n
  | .text s => s
  | .null => "null"

/-- The text of a value shown as a result. -/
def render (places : Nat) : Value → String
  | .number n => Decimal.fixed places n
  | .text s => s
  | .null => "null"

/-- The texts of two values, one after the other, cut at the end. -/
def concat (places : Nat) (left right : Value) : Value :=
  ofText (left.toText (some places) ++ right.toText (some places))

end Value

end Calculator
