import Calculator.Builtin.Call
import Calculator.Expr.Parse
import Calculator.Proofs.Localized.Lexer
import Mathlib

/-!
# Parsing in a language

The parser once more, with its language in the lexer that it pulls tokens from (specification 4.2).
Where something is wrong it makes the notice at once: a family of faults, a place, and words in the
language of its lexer. From a token that is no word it only copies the words. It tells tokens apart
by comparing kinds, and the words of such a token are part of its kind.

The rules change one parser as they go and leave it where they fail. They are written without a
proof that they end and run on fuel, which each rule hands on less one; running out of it is kept
apart from failing, as `none`. That this does not happen is part of `Localized.parse_eq`.
-/

namespace Calculator

namespace Localized

/-- Where a parser stands: before the token `current`, which was read at `start`. -/
structure Parser where
  /-- Behind the current token. -/
  lexer : Lexer
  current : Token
  start : Cursor
  /-- The end of the token that was read last. -/
  previousEnd : Nat
  /-- The levels that are open. -/
  depth : Nat

/-- Work on a parser, step by step. It may fail, and leaves the parser where it stands at that
moment. It comes to nothing at all where it runs out of fuel. -/
abbrev Rule := ExceptT Notice (StateT Parser Option)

namespace Parser

/-- A parser at the start of a source text. -/
def ofSource (language : Language) (source : String) : Parser :=
  let start := Cursor.ofSource source
  let (current, lexer) := Lexer.next ⟨language, start⟩
  { lexer, current, start, previousEnd := 0, depth := 0 }

def language (p : Parser) : Language := p.lexer.language

/-- Behind the last token that was read. -/
def endSpan (p : Parser) : Span := .single p.previousEnd

/-! ## Notices -/

/-- A notice of a family about a place, in the parser's language. -/
def notice (p : Parser) (kind : FaultKind) (span : Span) (message : Cause) : Notice :=
  ⟨kind, span, message.text p.language, none⟩

/-- The notice of a token that is no word, in its own words. -/
def lexicalNotice (p : Parser) (message : String) : Notice :=
  ⟨.lexical, p.current.span, message, none⟩

/-- What is wrong when the current token is not the one that had to come. -/
def missing (p : Parser) (message : Cause) : Notice :=
  match p.current.kind with
  | .error text => p.lexicalNotice text
  | .finish => p.notice .grammatical p.endSpan message
  | _ => p.notice .grammatical p.current.span message

/-- Adds a piece of advice in the parser's language. -/
def withAdvice (p : Parser) (advice : Advice) (notice : Notice) : Notice :=
  { notice with advice := some (advice.text p.language) }

/-- What is wrong if the source does not end here. -/
def expectEnd (p : Parser) : Except Notice Unit :=
  let incomplete := p.notice .grammatical p.current.span .incompleteExpression
  match p.current.kind with
  | .finish => .ok ()
  | .error message => .error (p.lexicalNotice message)
  | .equal => .error (p.withAdvice .assignmentForm incomplete)
  | .closing => .error (p.withAdvice .matchingParentheses incomplete)
  | _ => .error incomplete

/-! ## Operators -/

/-- The operator that the current token stands for, if it is one of those allowed. -/
def binaryOperator? (p : Parser) (allowed : List BinaryOp) : Option BinaryOp :=
  let operator? : Option BinaryOp := match p.current.kind with
    | .plus => some .add
    | .minus => some .subtract
    | .star => some .multiply
    | .slash => some .divide
    | .percent => some .modulo
    | .caret => some .power
    | _ => none
  operator?.filter (· ∈ allowed)

end Parser

/-- The operators of a tier. -/
def operators : Calculator.Parser.Tier → List BinaryOp
  | .sum => [.add, .subtract]
  | .product => [.multiply, .divide, .modulo]

/-! ## Single tokens -/

/-- Moves behind the current token, which is the result, but never behind the last one. -/
def advance : Rule Token := do
  let p ← get
  if p.current.kind.isLast then return p.current
  else
    let (next, lexer) := p.lexer.next
    set { p with
      lexer, current := next, start := p.lexer.cursor, previousEnd := p.current.span.stop }
    return p.current

/-- Comes back to a place, and reads the token there again. -/
def restore (checkpoint : Calculator.Parser.Checkpoint) : Rule Unit := do
  let p ← get
  let (current, lexer) := (p.lexer.seek checkpoint.cursor).next
  set { p with
    lexer, current, start := checkpoint.cursor, previousEnd := checkpoint.previousEnd }

/-- Reads a token of one kind. -/
def consume (kind : Kind) (message : Cause) : Rule Token := do
  let p ← get
  if p.current.kind = kind then advance else throw (p.missing message)

/-- Opens one more level. -/
def deepen (span : Span) : Rule Unit := do
  let p ← get
  if maxNesting ≤ p.depth then throw (p.notice .resource span (.nestedTooDeeply maxNesting))
  else set { p with depth := p.depth + 1 }

section

variable {α : Type}

/-- Gives back the levels that a rule opens, in success and in failure. -/
def keepingDepth (rule : Rule α) : Rule α := do
  let depth := (← get).depth
  let result ← ExceptT.lift rule.run
  modify fun p => { p with depth }
  liftExcept result

/-- A rule one level deeper. -/
def nested (rule : Rule α) : Rule α :=
  keepingDepth do
    deepen (← get).current.span
    rule

/-- Adds a piece of advice to a failure. -/
def advising (advice : Advice) (rule : Rule α) : Rule α :=
  tryCatch rule fun notice => do throw ((← get).withAdvice advice notice)

/-- Comes to nothing. -/
def exhausted : Rule α := ExceptT.mk fun _ => none

end

/-- A number of arguments has to be one that the function takes, if there is such a function. -/
def checkCount (name : String) (span : Span) (count : Nat) : Rule Unit := do
  match Builtin.find? name with
  | none => return ()
  | some builtin =>
    match builtin.arity.check name count with
    | .ok () => return ()
    | .error message => throw ((← get).notice .grammatical span message)

/-! ## Rules -/

mutual

def expression : Nat → Rule Expr
  | 0 => exhausted
  | fuel + 1 => nested (assignment fuel)

def assignment : Nat → Rule Expr
  | 0 => exhausted
  | fuel + 1 => do
    let p ← get
    match p.current.kind with
    | .identifier name =>
      let target ← advance
      if (← get).current.kind = .equal then
        let _ ← advance
        let value ← expression fuel
        return .assign name value (target.span.cover value.span)
      else
        restore ⟨p.start, p.previousEnd⟩
        chain .sum fuel
    | _ => chain .sum fuel

/-- Operands of a tier with operators between them. -/
def chain (tier : Calculator.Parser.Tier) : Nat → Rule Expr
  | 0 => exhausted
  | fuel + 1 =>
    keepingDepth do
      let left ← operand tier fuel
      chainTail tier left fuel

/-- The rest of a chain whose operands so far are `left`. -/
def chainTail (tier : Calculator.Parser.Tier) (left : Expr) : Nat → Rule Expr
  | 0 => exhausted
  | fuel + 1 => do
    match (← get).binaryOperator? (operators tier) with
    | none => return left
    | some op =>
      let sign ← advance
      deepen sign.span
      let right ← operand tier fuel
      chainTail tier (.binary op left right (left.span.cover right.span)) fuel

/-- What the operators of a tier stand between. -/
def operand (tier : Calculator.Parser.Tier) : Nat → Rule Expr
  | 0 => exhausted
  | fuel + 1 =>
    match tier with
    | .sum => chain .product fuel
    | .product => factor fuel

def factor : Nat → Rule Expr
  | 0 => exhausted
  | fuel + 1 => do
    let operand ← power fuel
    if (← get).current.kind = .bang then
      let bang ← advance
      return .unary .factorial operand (operand.span.cover bang.span)
    else return operand

def power : Nat → Rule Expr
  | 0 => exhausted
  | fuel + 1 => do
    let base ← atom fuel
    if (← get).current.kind = .caret then
      let _ ← advance
      let exponent ← nested (power fuel)
      return .binary .power base exponent (base.span.cover exponent.span)
    else return base

def atom : Nat → Rule Expr
  | 0 => exhausted
  | fuel + 1 => do
    let p ← get
    match p.current.kind with
    | .number value =>
      let _ ← advance
      return .number value p.current.span
    | .text value =>
      let _ ← advance
      return .text value p.current.span
    | .identifier name =>
      let _ ← advance
      let q ← get
      if q.current.kind = .opening then
        throw (q.notice .naming p.current.span (.unknownFunction name))
      else return .name name p.current.span
    | .function name =>
      let _ ← advance
      call name p.current.span fuel
    | .opening =>
      let _ ← advance
      let inner ← expression fuel
      let _ ← advising .matchingParentheses (consume .closing .missingClosing)
      return inner
    | .minus =>
      let _ ← advance
      let operand ← nested (atom fuel)
      return .unary .negate operand (p.current.span.cover operand.span)
    | .error message => throw (p.lexicalNotice message)
    | .finish => throw (p.notice .grammatical p.endSpan .unexpectedEnd)
    | .newline | .semicolon => throw (p.notice .grammatical p.current.span .invalidExpression)
    | _ => throw (p.notice .grammatical p.current.span (.unexpectedToken p.current.lexeme))

/-- A call of the function `name`, which has been read at `span`. -/
def call (name : String) (span : Span) : Nat → Rule Expr
  | 0 => exhausted
  | fuel + 1 => do
    let _ ← consume .opening (.missingOpeningAfter name)
    let q ← get
    let args ← (if q.current.kind = .closing then pure [] else arguments fuel : Rule (List Expr))
    let close ← consume .closing (.missingClosingAfterArguments name)
    checkCount name (span.cover close.span) args.length
    return .call name args (span.cover close.span)

def arguments : Nat → Rule (List Expr)
  | 0 => exhausted
  | fuel + 1 => do
    let arg ← expression fuel
    if (← get).current.kind = .comma then
      let _ ← advance
      let args ← arguments fuel
      return arg :: args
    else return [arg]

end

/-! ## Programs -/

/-- Moves behind a separator, if one stands here. -/
def matchSeparator : Rule Bool := do
  if (← get).current.kind.isSeparator then
    let _ ← advance
    return true
  else return false

def skipSeparators : Nat → Rule Unit
  | 0 => exhausted
  | fuel + 1 => do
    if ← matchSeparator then skipSeparators fuel
    else return ()

/-- The statements up to the end of the source, or to a token that cannot follow a statement. -/
def statements : Nat → Rule (List Expr)
  | 0 => exhausted
  | fuel + 1 => do
    skipSeparators fuel
    if (← get).current.kind = .finish then return []
    else
      let statement ← expression fuel
      if ← matchSeparator then
        let rest ← statements fuel
        return statement :: rest
      else return [statement]

/-- A whole program. -/
def program (fuel : Nat) : Rule Expr := do
  let statements ← statements fuel
  (← get).expectEnd
  return .ofStatements statements

/-- The tree of a source text, or what is wrong with it in a language. Each character is read by
rules that stand at most eleven deep inside one another, those that read on behind it left out. -/
def parse (language : Language) (source : String) : Option (Except Notice Expr) :=
  let fuel := 11 * (source.length + 1)
  ((program fuel).run.run (.ofSource language source)).map Prod.fst

end Localized

end Calculator
