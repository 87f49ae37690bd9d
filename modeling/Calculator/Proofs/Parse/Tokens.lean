import Calculator.Expr.Parse

/-!
# Reading a list of tokens

The grammar of programs once more, read from a finished list of tokens. There is no cursor here, no
checkpoint, and no count that is raised and lowered again: a rule is a function of the depth it is
called at, the end of the token before, and the tokens that are left. Whether an identifier starts
an assignment is seen from the token behind it, before anything is read.

A rule that succeeds leaves fewer tokens, and gives the proof with what it has read (`Read`). A list
that ends without a last token is read as if the source ended there.
-/

namespace Calculator.Tokens

open Calculator.Parser (Tier tooDeep)

/-- What a rule has read, the tokens that are left, fewer than `bound`, and the end of the token
before them. -/
structure Read (α : Type) (bound : Nat) where
  value : α
  tokens : List Token
  previousEnd : Nat
  fewer : tokens.length < bound

abbrev Reading (α : Type) (bound : Nat) := Except Fault (Read α bound)

/-! ## Single tokens -/

/-- The span of the token that comes next. -/
def nextSpan (previousEnd : Nat) : List Token → Span
  | [] => .single previousEnd
  | t :: _ => t.span

/-- Reads the next token if its kind is one of those looked for. -/
def take? (looked : TokenKind → Prop) [DecidablePred looked] :
    (ts : List Token) → Option (Read Token ts.length)
  | [] => none
  | t :: ts => if looked t.kind then some ⟨t, ts, t.span.stop, Nat.lt_succ_self _⟩ else none

/-- Reads the next token if it is an operator of a tier. -/
def takeOp? (tier : Tier) : (ts : List Token) → Option (BinaryOp × Read Token ts.length)
  | [] => none
  | t :: ts =>
    match tier.op? t.kind with
    | some op => some (op, ⟨t, ts, t.span.stop, Nat.lt_succ_self _⟩)
    | none => none

/-- What is wrong when another token had to come next. -/
def missing (cause : Cause) (previousEnd : Nat) : List Token → Fault
  | [] => { cause, span := .single previousEnd }
  | t :: _ =>
    match t.kind with
    | .fault lexical => { cause := lexical, span := t.span }
    | .finish => { cause, span := .single previousEnd }
    | _ => { cause, span := t.span }

/-- Reads a token of one kind. -/
def token (kind : TokenKind) (cause : Cause) (previousEnd : Nat) (ts : List Token) :
    Reading Token ts.length :=
  match take? (· = kind) ts with
  | some r => .ok r
  | none => .error (missing cause previousEnd ts)

/-- Adds a piece of advice to a failure. -/
def advise {α : Type} {n : Nat} (advice : Advice) : Reading α n → Reading α n
  | .ok r => .ok r
  | .error fault => .error { fault with advice := some advice }

/-- A call of a function, whose arguments have to be as many as it takes. -/
def checkCall (name : String) (args : List Expr) (span : Span) : Except Fault Expr :=
  match Builtin.find? name with
  | some builtin =>
    if builtin.arity.accepts args.length then .ok (.call name args span)
    else .error { cause := .wrongArgumentCount name builtin.arity, span }
  | none => .ok (.call name args span)

/-! ## Rules -/

mutual

def expression (depth previousEnd : Nat) (ts : List Token) : Reading Expr ts.length :=
  if depth < maxNesting then assignment (depth + 1) previousEnd ts
  else .error (tooDeep (nextSpan previousEnd ts))
termination_by 11 * ts.length + 9

def assignment (depth previousEnd : Nat) : (ts : List Token) → Reading Expr ts.length
  | [] => chain .sum depth previousEnd []
  | t :: ts =>
    match t.kind, take? (· = .equal) ts with
    | .identifier target, some ⟨_, rest, stop, h⟩ => do
      let ⟨value, rest', stop', h'⟩ ← expression depth stop rest
      .ok ⟨.assign target value (t.span.cover value.span), rest', stop', by
        simp only [List.length_cons]; omega⟩
    | _, _ => chain .sum depth previousEnd (t :: ts)
termination_by ts => 11 * ts.length + 8
decreasing_by all_goals simp only [List.length_cons, List.length_nil, Tier.looseness]; omega

/-- Operands of a tier with operators between them. -/
def chain (tier : Tier) (depth previousEnd : Nat) (ts : List Token) : Reading Expr ts.length := do
  let ⟨left, rest, stop, h⟩ ← operand tier depth previousEnd ts
  let ⟨e, rest', stop', h'⟩ ← tail tier depth left stop rest
  .ok ⟨e, rest', stop', by omega⟩
termination_by 11 * ts.length + 5 + tier.looseness
decreasing_by all_goals omega

/-- The rest of a chain whose operands so far are `left`. Each operator stands one level deeper than
the one before it. -/
def tail (tier : Tier) (depth : Nat) (left : Expr) (previousEnd : Nat) (ts : List Token) :
    Reading Expr (ts.length + 1) :=
  match takeOp? tier ts with
  | none => .ok ⟨left, ts, previousEnd, Nat.lt_succ_self _⟩
  | some (op, ⟨sign, rest, stop, h⟩) =>
    if depth < maxNesting then do
      let ⟨right, rest', stop', h'⟩ ← operand tier (depth + 1) stop rest
      let ⟨e, rest'', stop'', h''⟩ ←
        tail tier (depth + 1) (.binary op left right (left.span.cover right.span)) stop' rest'
      .ok ⟨e, rest'', stop'', by omega⟩
    else .error (tooDeep sign.span)
termination_by 11 * ts.length
decreasing_by
  all_goals
    have := tier.looseness_le
    omega

/-- What the operators of a tier stand between: products in a sum, factors in a product. -/
def operand (tier : Tier) (depth previousEnd : Nat) (ts : List Token) : Reading Expr ts.length :=
  match tier with
  | .sum => chain .product depth previousEnd ts
  | .product => factor depth previousEnd ts
termination_by 11 * ts.length + 4 + tier.looseness
decreasing_by all_goals simp only [Tier.looseness]; omega

def factor (depth previousEnd : Nat) (ts : List Token) : Reading Expr ts.length := do
  let ⟨operand, rest, stop, h⟩ ← power depth previousEnd ts
  match take? (· = .bang) rest with
  | some ⟨sign, rest', stop', h'⟩ =>
    .ok ⟨.unary .factorial operand (operand.span.cover sign.span), rest', stop', by omega⟩
  | none => .ok ⟨operand, rest, stop, h⟩
termination_by 11 * ts.length + 3
decreasing_by omega

def power (depth previousEnd : Nat) (ts : List Token) : Reading Expr ts.length := do
  let ⟨base, rest, stop, h⟩ ← atom depth previousEnd ts
  match take? (· = .caret) rest with
  | some ⟨_, rest', stop', h'⟩ =>
    if depth < maxNesting then do
      let ⟨exponent, rest'', stop'', h''⟩ ← power (depth + 1) stop' rest'
      .ok ⟨.binary .power base exponent (base.span.cover exponent.span), rest'', stop'', by omega⟩
    else .error (tooDeep (nextSpan stop' rest'))
  | none => .ok ⟨base, rest, stop, h⟩
termination_by 11 * ts.length + 2
decreasing_by all_goals omega

def atom (depth previousEnd : Nat) : (ts : List Token) → Reading Expr ts.length
  | [] => .error { cause := .unexpectedEnd, span := .single previousEnd }
  | t :: ts =>
    match t.kind with
    | .number value => .ok ⟨.number value t.span, ts, t.span.stop, Nat.lt_succ_self _⟩
    | .text value => .ok ⟨.text value t.span, ts, t.span.stop, Nat.lt_succ_self _⟩
    | .identifier id =>
      match take? (· = .opening) ts with
      | some _ => .error { cause := .unknownFunction id, span := t.span }
      | none => .ok ⟨.name id t.span, ts, t.span.stop, Nat.lt_succ_self _⟩
    | .function name => do
      let ⟨e, rest, stop, h⟩ ← call name t.span depth t.span.stop ts
      .ok ⟨e, rest, stop, Nat.lt_succ_of_lt h⟩
    | .opening => do
      let ⟨inner, rest, stop, h⟩ ← expression depth t.span.stop ts
      let ⟨_, rest', stop', h'⟩ ←
        advise .matchingParentheses (token .closing .missingClosing stop rest)
      .ok ⟨inner, rest', stop', by simp only [List.length_cons]; omega⟩
    | .minus =>
      if depth < maxNesting then do
        let ⟨operand, rest, stop, h⟩ ← atom (depth + 1) t.span.stop ts
        .ok ⟨.unary .negate operand (t.span.cover operand.span), rest, stop, Nat.lt_succ_of_lt h⟩
      else .error (tooDeep (nextSpan t.span.stop ts))
    | .fault cause => .error { cause, span := t.span }
    | .finish => .error { cause := .unexpectedEnd, span := .single previousEnd }
    | .newline | .semicolon => .error { cause := .invalidExpression, span := t.span }
    | _ => .error { cause := .unexpectedToken t.lexeme, span := t.span }
termination_by ts => 11 * ts.length + 1
decreasing_by all_goals simp only [List.length_cons]; omega

/-- What follows the name of a function, which stands at `span`. -/
def call (name : String) (span : Span) (depth previousEnd : Nat) (ts : List Token) :
    Reading Expr ts.length := do
  let ⟨_, rest, stop, h⟩ ← token .opening (.missingOpeningAfter name) previousEnd ts
  let ⟨args, rest', stop', h'⟩ ← arguments depth stop rest
  let ⟨close, rest'', stop'', h''⟩ ←
    token .closing (.missingClosingAfterArguments name) stop' rest'
  let e ← checkCall name args (span.cover close.span)
  .ok ⟨e, rest'', stop'', by omega⟩
termination_by 11 * ts.length + 1
decreasing_by omega

/-- The arguments before a closing parenthesis, if any. -/
def arguments (depth previousEnd : Nat) (ts : List Token) :
    Reading (List Expr) (ts.length + 1) :=
  match take? (· = .closing) ts with
  | some _ => .ok ⟨[], ts, previousEnd, Nat.lt_succ_self _⟩
  | none => do
    let ⟨args, rest, stop, h⟩ ← listed depth previousEnd ts
    .ok ⟨args, rest, stop, Nat.lt_succ_of_lt h⟩
termination_by 11 * ts.length + 11
decreasing_by omega

/-- One argument or more. -/
def listed (depth previousEnd : Nat) (ts : List Token) : Reading (List Expr) ts.length := do
  let ⟨arg, rest, stop, h⟩ ← expression depth previousEnd ts
  match take? (· = .comma) rest with
  | some ⟨_, rest', stop', h'⟩ => do
    let ⟨args, rest'', stop'', h''⟩ ← listed depth stop' rest'
    .ok ⟨arg :: args, rest'', stop'', by omega⟩
  | none => .ok ⟨[arg], rest, stop, h⟩
termination_by 11 * ts.length + 10
decreasing_by all_goals omega

end

/-! ## Programs -/

def skipSeparators (previousEnd : Nat) (ts : List Token) : Read Unit (ts.length + 1) :=
  match take? (·.isSeparator = true) ts with
  | some ⟨_, rest, stop, h⟩ =>
    let ⟨_, rest', stop', h'⟩ := skipSeparators stop rest
    ⟨(), rest', stop', by omega⟩
  | none => ⟨(), ts, previousEnd, Nat.lt_succ_self _⟩
termination_by ts.length

/-- The source ends here. -/
def atEnd : List Token → Bool
  | [] => true
  | t :: _ => t.kind = .finish

/-- The statements up to the end, or to a token that cannot follow a statement. -/
def statements (depth previousEnd : Nat) (ts : List Token) :
    Reading (List Expr) (ts.length + 1) :=
  let ⟨_, rest, stop, h⟩ := skipSeparators previousEnd ts
  if atEnd rest then .ok ⟨[], rest, stop, h⟩
  else do
    let ⟨statement, rest', stop', h'⟩ ← expression depth stop rest
    match take? (·.isSeparator = true) rest' with
    | some ⟨_, rest'', stop'', h''⟩ => do
      let ⟨es, finish, last, h'''⟩ ← statements depth stop'' rest''
      .ok ⟨statement :: es, finish, last, by omega⟩
    | none => .ok ⟨[statement], rest', stop', by omega⟩
termination_by ts.length
decreasing_by omega

/-- What is wrong with a token that stands where the source should end. -/
def endFault? : List Token → Option Fault
  | [] => none
  | t :: _ =>
    match t.kind with
    | .finish => none
    | .fault cause => some { cause, span := t.span }
    | .equal =>
      some { cause := .incompleteExpression, span := t.span, advice := some .assignmentForm }
    | .closing =>
      some { cause := .incompleteExpression, span := t.span, advice := some .matchingParentheses }
    | _ => some { cause := .incompleteExpression, span := t.span }

/-- The tree of a source whose tokens are given. -/
def parse (ts : List Token) : Except Fault Expr := do
  let ⟨es, rest, _, _⟩ ← statements 0 0 ts
  match endFault? rest with
  | some fault => .error fault
  | none => .ok (Expr.ofStatements es)

end Calculator.Tokens
