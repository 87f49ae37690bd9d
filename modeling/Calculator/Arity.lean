/-!
# Arities (specification 4.2)

How many arguments a built-in function takes: `Exact(n)` or `AtLeast(n)` in the table that the
parser checks calls against.
-/

namespace Calculator

/-- The numbers of arguments that a function takes. -/
inductive Arity where
  | exactly (count : Nat)
  | atLeast (count : Nat)
deriving DecidableEq

/-- Whether a function of this arity takes `count` arguments. -/
def Arity.accepts : Arity → Nat → Bool
  | .exactly n, count => count == n
  | .atLeast n, count => n ≤ count

end Calculator
