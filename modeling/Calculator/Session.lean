import Calculator.Arithmetic
import Calculator.Bindings
import Calculator.Builtin.Call
import Calculator.Expr.Parse

/-!
# Sessions (specification 4.4)

A session holds variables, the decimal places that results show, a language and a console (the
`Evaluator`). Evaluating a tree (`evaluate`) or a source (`run`) gives a value or a fault, and
leaves the session changed by all that happened up to then: what was assigned or printed before a
fault stays.
-/

namespace Calculator

structure Session extends Desk where
  bindings : Bindings := {}
  language : Language := .standard
deriving DecidableEq, Inhabited

namespace Session

def setPlaces (session : Session) (places : Nat) : Session :=
  { session with places := min places maxPlaces }

def setLanguage (session : Session) (language : Language) : Session := { session with language }

/-- Forgets all variables and goes back to the standard places. -/
def reset (session : Session) : Session :=
  { session with bindings := .empty, places := standardPlaces }

def mapConsole (session : Session) (f : Console → Console) : Session :=
  { session with console := f session.console }

/-- A value as results show it. -/
def render (session : Session) (value : Value) : String := value.render session.places

end Session

/-- What evaluating a tree comes to. -/
structure Evaluation where
  value : Value
  /-- An assignment, or a function called for its effect: nothing to show. -/
  isAssignment : Bool
deriving DecidableEq

namespace Evaluation

def ofValue (value : Value) : Evaluation := ⟨value, false⟩

def silent : Evaluation := ⟨.null, true⟩

/-- The value to show, if any. -/
def shown? (evaluation : Evaluation) : Option Value :=
  if evaluation.isAssignment || evaluation.value = .null then none else some evaluation.value

end Evaluation

/-- An action on a session that may end with a fault. Its effects up to the fault stay. -/
abbrev Action := EStateM Fault Session

/-- Ends an action with a fault at a place. -/
def failAt {α : Type} (span : Span) (cause : Cause) : Action α := throw { cause, span }

/-- The result of a computation, whose failure is a fault at a place. -/
def orFailAt {α : Type} (span : Span) : Except Cause α → Action α
  | .ok a => pure a
  | .error cause => failAt span cause

/-- Calls a built-in function with values. -/
def callAt (span : Span) (name : String) (args : List Value) : Action Evaluation := do
  let session ← get
  let (returned, desk) ← orFailAt span (Builtin.call name args session.toDesk)
  set { session with toDesk := desk }
  match returned with
  | .silent => pure .silent
  | .value (.number n) =>
    if n.isNaN then failAt span (.undefinedResult name) else pure (.ofValue (.number n))
  | .value value => pure (.ofValue value)

namespace Expr

mutual

/-- The value of a tree in a session. -/
def evaluate : Expr → Action Evaluation
  | .number n _ => pure (.ofValue (.number n))
  | .text s _ => pure (.ofValue (.ofText s))
  | .name id span => do
    match (← get).bindings.lookup? id with
    | some value => pure (.ofValue value)
    | none => failAt span (.undefinedVariable id)
  | .assign target e _ => do
    let value := (← e.evaluate).value
    modify fun session => { session with bindings := session.bindings.set target value }
    pure ⟨value, true⟩
  | .binary op left right span => do
    let l := (← left.evaluate).value
    let r := (← right.evaluate).value
    let value ← orFailAt span (op.onValues (← get).places l r)
    pure (.ofValue value)
  | .unary op operand span => do
    let value ← orFailAt span (op.onValue (← operand.evaluate).value)
    pure (.ofValue value)
  | .call function args span => do
    match Builtin.find? function with
    | none => failAt span (.unknownFunction function)
    | some builtin =>
      if args.isEmpty && !builtin.task.needsNoArguments then
        failAt span (.missingArguments function)
      else callAt span function (← evaluateArgs args)
  | .sequence statements _ => evaluateAll .silent statements

/-- The values of arguments, from the left. -/
def evaluateArgs : List Expr → Action (List Value)
  | [] => pure []
  | e :: es => do
    let value := (← e.evaluate).value
    let values ← evaluateArgs es
    pure (value :: values)

/-- Evaluates statements in turn. The result is that of the last one with something to show, or
else `result`. -/
def evaluateAll (result : Evaluation) : List Expr → Action Evaluation
  | [] => pure result
  | e :: es => do
    let evaluation ← e.evaluate
    evaluateAll (if evaluation.isAssignment then result else evaluation) es

end

end Expr

/-- The tree of a source text. -/
def parseAction (source : String) : Action Expr :=
  match Expr.parse source with
  | .ok e => pure e
  | .error fault => throw fault

/-- Reads a source text as a program and evaluates it. -/
def Session.run (source : String) : Action Evaluation := do
  (← parseAction source).evaluate

end Calculator
