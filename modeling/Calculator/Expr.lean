import Calculator.Decimal.Shortest
import Calculator.Span
import Calculator.Text.Quoted

/-!
# Expressions (specification 3)

The tree of a program. Every node knows its place in the source. `Expr.dump` writes a tree as an
indented outline, one node per line, without the places.
-/

namespace Calculator

inductive BinaryOp where
  | add
  | subtract
  | multiply
  | divide
  | modulo
  | power
deriving DecidableEq

def BinaryOp.symbol : BinaryOp → Char
  | .add => '+'
  | .subtract => '-'
  | .multiply => '*'
  | .divide => '/'
  | .modulo => '%'
  | .power => '^'

inductive UnaryOp where
  | negate
  | factorial
deriving DecidableEq

def UnaryOp.symbol : UnaryOp → Char
  | .negate => '-'
  | .factorial => '!'

inductive Expr where
  | number (value : Number) (span : Span)
  | text (value : String) (span : Span)
  | name (id : String) (span : Span)
  | binary (op : BinaryOp) (left right : Expr) (span : Span)
  | unary (op : UnaryOp) (operand : Expr) (span : Span)
  | call (function : String) (args : List Expr) (span : Span)
  | assign (target : String) (value : Expr) (span : Span)
  /-- Statements one after the other. -/
  | sequence (statements : List Expr) (span : Span)
deriving Inhabited

namespace Expr

def span : Expr → Span
  | .number _ span | .text _ span | .name _ span | .binary _ _ _ span | .unary _ _ span
  | .call _ _ span | .assign _ _ span | .sequence _ span => span

/-! ## Outlines -/

/-- A line of an outline, two spaces in for each level. -/
def outlineLine (depth : Nat) (text : String) : String :=
  String.ofList (List.replicate (2 * depth) ' ') ++ text

mutual

/-- The lines of a tree whose root stands at a level. -/
def outline (depth : Nat) : Expr → List String
  | .number value _ => [outlineLine depth s!"Number {Decimal.shortest value}"]
  | .text value _ => [outlineLine depth s!"String {Text.quoted value}"]
  | .name id _ => [outlineLine depth s!"Variable {id}"]
  | .binary op left right _ =>
    outlineLine depth s!"Binary {op.symbol}"
      :: (left.outline (depth + 1) ++ right.outline (depth + 1))
  | .unary op operand _ => outlineLine depth s!"Unary {op.symbol}" :: operand.outline (depth + 1)
  | .call function args _ =>
    outlineLine depth s!"Call {function} ({args.length} args)" :: outlineAll (depth + 1) args
  | .assign target value _ => outlineLine depth s!"Assign {target}" :: value.outline (depth + 1)
  | .sequence statements _ =>
    outlineLine depth s!"Sequence ({statements.length} statements)"
      :: outlineAll (depth + 1) statements

/-- The lines of several trees at one level. -/
def outlineAll (depth : Nat) : List Expr → List String
  | [] => []
  | e :: es => e.outline depth ++ outlineAll depth es

end

/-- The outline of a tree as text. -/
def dump (e : Expr) : String := String.join ((e.outline 0).map (· ++ "\n"))

end Expr

end Calculator
