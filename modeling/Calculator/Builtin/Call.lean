import Calculator.Builtin
import Calculator.Console
import Calculator.Fault
import Calculator.Value

/-!
# Calling a built-in function (specification 6)

The `call` of the registry. It takes argument values and the part of the session that functions may
touch (the `Desk`, there `CallContext`). It gives a value, or nothing to show, or the cause of a
failure; a failed call changes nothing. The checks come in this order: the name, the number of
arguments, their types.
-/

namespace Calculator

/-- The decimal places of a new session. -/
def standardPlaces : Nat := 6

/-- The part of a session that built-in functions act on. -/
structure Desk where
  /-- The decimal places that results show. -/
  places : Nat := standardPlaces
  console : Console := {}
deriving DecidableEq, Inhabited

/-- What a call gives back. -/
inductive Returned where
  | value (value : Value)
  /-- The call was made for its effect. -/
  | silent
deriving DecidableEq

/-- The most decimal places that results show. -/
def maxPlaces : Nat := 15

/-- The line that `print` writes: the values as results show them, with spaces between them. -/
def printedLine (places : Nat) (args : List Value) : String :=
  String.intercalate " " (args.map (·.render places))

/-- The decimal places that a number asks for: its integer part, if that is not too large. -/
def placesOf? (n : Number) : Option Nat :=
  if n.isFinite && 0 ≤ n.integerPart && n.integerPart ≤ maxPlaces then some n.integerPart.toNat
  else none

namespace Task

/-- Does the task for the function that was called `name`. -/
def perform (task : Task) (name : String) (args : List Value) (desk : Desk) :
    Except Cause (Returned × Desk) :=
  match task, args with
  | .compute formula, args =>
    match args.mapM Value.number? with
    | some numbers => .ok (.value (.number (formula.value numbers)), desk)
    | none => .error (.argumentsNotNumbers name)
  | .setPlaces, [.number n] =>
    match placesOf? n with
    | some places => .ok (.silent, { desk with places })
    | none => .error .placesOutOfRange
  | .setPlaces, [_] => .error (.argumentsNotNumbers name)
  | .print, args =>
    .ok (.silent, { desk with console := desk.console.writeLine (printedLine desk.places args) })
  | .clear, _ => .ok (.silent, { desk with console := desk.console.clearScreen })
  | .align alignment, [.number width, value] =>
    .ok (.value (.ofText (Layout.align alignment (Layout.widthOf width) (value.toText none))), desk)
  | .align alignment, [_, _] => .error (.widthNotNumber alignment.name)
  | .repeatFirst, [.text text, .number count] =>
    .ok (.value (.ofText (Layout.repeatFirst text (Layout.widthOf count))), desk)
  | .repeatFirst, [.text _, _] => .error .repeatCountNotNumber
  | .repeatFirst, [_, _] => .error .repeatedNotText
  | .style chosen, [value] => .ok (.value (.ofText (chosen.apply (value.toText none))), desk)
  | task, _ => .error (.wrongArgumentCount name task.arity)

end Task

/-- The failure of a call with a number of arguments that the arity does not accept. -/
def Arity.check (arity : Arity) (function : String) (count : Nat) : Except Cause Unit :=
  if arity.accepts count then .ok () else .error (.wrongArgumentCount function arity)

/-- Calls the function of a name. -/
def Builtin.call (name : String) (args : List Value) (desk : Desk) :
    Except Cause (Returned × Desk) := do
  let some builtin := find? name | .error (.unknownFunction name)
  builtin.arity.check name args.length
  builtin.task.perform name args desk

end Calculator
