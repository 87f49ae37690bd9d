import Calculator.Expr
import Calculator.Fault
import Calculator.Formula.Elementary
import Calculator.Value

/-!
# Arithmetic on values (specification 4.4)

What the operators of the language do. On numbers they compute, and an operation without a result
fails rather than give NaN. A sum in which a text or nothing takes part joins texts; every other
operation wants numbers.
-/

namespace Calculator

/-- The least integer of 64 bits; remainders are taken of integers from here to `maxInteger`. -/
def minInteger : Int := -9223372036854775808

def maxInteger : Int := 9223372036854775807

/-- The integer part of a number, within the range of integers. -/
def Number.toInteger (n : Number) : Int := n.clampedInteger minInteger maxInteger

namespace BinaryOp

/-- The result of an operation, unless it is NaN. -/
def defined (op : BinaryOp) (result : Number) : Except Cause Number :=
  if result.isNaN then .error (.undefinedOperation op.symbol) else .ok result

/-- The operation on two numbers. A remainder is that of the integer parts, with the sign of the
left one. -/
def onNumbers (op : BinaryOp) (left right : Number) : Except Cause Number :=
  match op with
  | .add => op.defined (left + right)
  | .subtract => op.defined (left - right)
  | .multiply => op.defined (left * right)
  | .divide => if right.isZero then .error .divisionByZero else op.defined (left / right)
  | .modulo =>
    if right.toInteger = 0 then .error .moduloByZero
    else op.defined (.ofInt (left.toInteger.tmod right.toInteger))
  | .power => op.defined (left.pow right)

/-- The operation on two values, where texts are joined with numbers at `places` decimal places. -/
def onValues (op : BinaryOp) (places : Nat) (left right : Value) : Except Cause Value :=
  match left, right with
  | .number l, .number r => (op.onNumbers l r).map .number
  | left, right =>
    if op = .add then .ok (Value.concat places left right) else .error .operandsNotNumbers

end BinaryOp

namespace UnaryOp

def onNumber (op : UnaryOp) (n : Number) : Except Cause Number :=
  match op with
  | .negate => .ok (-n)
  | .factorial =>
    if (Formula.factorial n).isNaN then .error .noFactorial else .ok (Formula.factorial n)

def onValue (op : UnaryOp) : Value → Except Cause Value
  | .number n => (op.onNumber n).map .number
  | _ => .error .operandNotNumber

end UnaryOp

end Calculator
