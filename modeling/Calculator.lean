import Calculator.Arithmetic
import Calculator.Arity
import Calculator.Bindings
import Calculator.Builtin
import Calculator.Builtin.Call
import Calculator.CommandLine
import Calculator.Console
import Calculator.Decimal
import Calculator.Decimal.Fixed
import Calculator.Decimal.General
import Calculator.Decimal.Scientific
import Calculator.Decimal.Shortest
import Calculator.Diagnostic
import Calculator.Expr
import Calculator.Expr.Parse
import Calculator.Fault
import Calculator.Formula.Elementary
import Calculator.Formula.Finance
import Calculator.Formula.Statistics
import Calculator.Language
import Calculator.Layout
import Calculator.Line
import Calculator.Main
import Calculator.Manual
import Calculator.Number
import Calculator.Number.Exact
import Calculator.Phrase
import Calculator.Program
import Calculator.Script
import Calculator.Session
import Calculator.Span
import Calculator.Style
import Calculator.Text.Blank
import Calculator.Text.Bounded
import Calculator.Text.Cased
import Calculator.Text.Columns
import Calculator.Text.Quoted
import Calculator.Text.Ranges
import Calculator.Text.Unprintable
import Calculator.Token
import Calculator.Token.Literal
import Calculator.Token.Scan
import Calculator.Value
import Calculator.Proofs.Parse.Rules
import Calculator.Proofs.Parse.Grammar
import Calculator.Proofs.Parse.Sound
import Calculator.Proofs.Parse.Complete
import Calculator.Proofs.Parse.Accepts
import Calculator.Proofs.Parse.Leaves
import Calculator.Proofs.Parse.Height
import Calculator.Proofs.Number.Classes
import Calculator.Proofs.Token.Digits
import Calculator.Proofs.Token.Loops
import Calculator.Proofs.Session.Evaluation
import Calculator.Proofs.Session.Steps
import Calculator.Proofs.Session.Invariants
import Calculator.Proofs.Session.Faults
import Calculator.Proofs.Session.Coupling
import Calculator.Proofs.Session.Precision
import Calculator.Proofs.Parse.Refinement
import Calculator.Proofs.Shift
import Calculator.Proofs.Token.Join
import Calculator.Proofs.Parse.Join
import Calculator.Proofs.Session.Join
import Calculator.Proofs.Session.Languages
import Calculator.Proofs.Text.Blank
import Calculator.Proofs.Session.Script
import Calculator.Proofs.Token.Tiling
import Calculator.Proofs.Token.Spaced
import Calculator.Proofs.Parse.Places
import Calculator.Proofs.Session.Aliases
import Calculator.Proofs.Session.Frame
import Calculator.Proofs.Token.Standing
import Calculator.Proofs.Parse.Nesting
import Calculator.Proofs.Parse.Blame
import Calculator.Proofs.Session.Located
import Calculator.Proofs.Parse.Lexical
import Calculator.Proofs.Number.Integers
import Calculator.Proofs.Builtin.Dispatch
import Calculator.Proofs.Token.Quoting
import Calculator.Proofs.Session.Remainder
import Calculator.Proofs.Session.History
import Calculator.Proofs.Value.Grouping
import Calculator.Proofs.Number.Order
import Calculator.Proofs.Formula.Mode
import Calculator.Proofs.Formula.Median
import Calculator.Proofs.Decimal.Numeral
import Calculator.Proofs.Decimal.Rounding
import Calculator.Proofs.Decimal.General
import Calculator.Proofs.Layout.Cut
import Calculator.Proofs.Diagnostic.Underline
import Calculator.Proofs.Number.Exact
import Calculator.Proofs.Token.Radix
import Calculator.Proofs.Number.Neighbours
import Calculator.Proofs.Decimal.Shortest
import Calculator.Proofs.Text.Quoted
import Calculator.Proofs.Outline
import Calculator.Proofs.Parse.Balance
import Calculator.Proofs.Parse.Machine
import Calculator.Proofs.Localized.Lexer
import Calculator.Proofs.Localized.Parser
import Calculator.Proofs.Localized.Agreement
import Calculator.Proofs.Localized.Evaluator
