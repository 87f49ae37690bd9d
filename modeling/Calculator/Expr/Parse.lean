import Calculator.Expr
import Calculator.Token.Scan

/-!
# Reading expressions (specification 4.2)

A recursive-descent parser (`parse`) that pulls its tokens from a cursor:

    program    := separator* (expression (separator+ expression)* separator*)?
    expression := IDENTIFIER '=' expression | arithmetic
    arithmetic := term (('+' | '-') term)*
    term       := factor (('*' | '/' | '%') factor)*
    factor     := power '!'?
    power      := atom ('^' power)?
    atom       := NUMBER | STRING | IDENTIFIER | FUNCTION '(' arguments? ')'
                | '(' expression ')' | '-' atom
    arguments  := expression (',' expression)*

An identifier may start an assignment or an operand. The parser looks at the token behind it, and
when that is no `=` it goes back to the identifier, the only checkpoint it takes.

Nesting is limited. The parser counts open levels in `Parser.depth`: a statement, a parenthesis, an
argument, an assigned value, a negated operand and an exponent are one level each, and so is every
operator of a chain, since it makes the tree one level deeper. Each rule leaves the count as it
found it, whether it succeeds or fails.

Sums and products are chains of operands, read by one rule for both tiers of operators. Each rule
reads at least one token. An `Outcome` carries the proof, and that is why the rules end.
-/

namespace Calculator

/-- The most levels that may be open at once. -/
def maxNesting : Nat := 64

/-- Where a parser stands: before the token `current`, which was read at `start`. -/
structure Parser where
  start : Cursor
  current : Token
  /-- Behind the current token. -/
  after : Cursor
  scanned : start.next = (current, after)
  /-- The end of the token that was read last. -/
  previousEnd : Nat
  /-- The levels that are open. -/
  depth : Nat

namespace Parser

/-- A parser before the token at a cursor. -/
def startingAt (cursor : Cursor) (previousEnd depth : Nat) : Parser where
  start := cursor
  current := cursor.next.1
  after := cursor.next.2
  scanned := rfl
  previousEnd
  depth

/-- A parser at the start of a source text. -/
def ofSource (source : String) : Parser := startingAt (.ofSource source) 0 0

/-- How many characters have not been read, those of the current token included. -/
def unread (p : Parser) : Nat := p.start.rest.length

/-- Moves behind the current token, but never behind the last one. -/
def advance (p : Parser) : Parser :=
  if p.current.kind.isLast then p else startingAt p.after p.current.span.stop p.depth

def withDepth (p : Parser) (depth : Nat) : Parser := { p with depth }

/-- What is needed to come back to a place. -/
structure Checkpoint where
  cursor : Cursor
  previousEnd : Nat

def checkpoint (p : Parser) : Checkpoint := ⟨p.start, p.previousEnd⟩

/-- Comes back to a place, and reads the token there again. -/
def restore (p : Parser) (c : Checkpoint) : Parser := startingAt c.cursor c.previousEnd p.depth

theorem unread_withDepth (p : Parser) (depth : Nat) : (p.withDepth depth).unread = p.unread := rfl

theorem unread_restore (p q : Parser) : (q.restore p.checkpoint).unread = p.unread := rfl

theorem unread_advance_lt (p : Parser) (h : p.current.kind.isLast = false) :
    p.advance.unread < p.unread := by
  have hlt := p.start.next_rest_lt
  rw [p.scanned] at hlt
  rw [advance, if_neg (by simp [h])]
  exact hlt h

theorem unread_advance_le (p : Parser) : p.advance.unread ≤ p.unread := by
  cases h : p.current.kind.isLast with
  | false => exact Nat.le_of_lt (p.unread_advance_lt h)
  | true => simp [advance, h]

/-! ## Outcomes -/

/-- What a rule comes to, and where it leaves the parser. A rule that succeeds leaves fewer than
`bound` characters unread. -/
inductive Outcome (α : Type) (bound : Nat) where
  | done (value : α) (next : Parser) (progress : next.unread < bound)
  | failed (fault : Fault) (next : Parser)

namespace Outcome

variable {α β : Type} {m n : Nat}

def weaken (h : m ≤ n) : Outcome α m → Outcome α n
  | .done value p progress => .done value p (Nat.lt_of_lt_of_le progress h)
  | .failed fault p => .failed fault p

/-- Goes on from where a rule succeeded. -/
def andThen (outcome : Outcome α n)
    (f : (value : α) → (p : Parser) → p.unread < n → Outcome β n) : Outcome β n :=
  match outcome with
  | .done value p progress => f value p progress
  | .failed fault p => .failed fault p

/-- Gives back the levels that were opened, in success and in failure. -/
def closeTo (depth : Nat) : Outcome α n → Outcome α n
  | .done value p progress => .done value (p.withDepth depth) progress
  | .failed fault p => .failed fault (p.withDepth depth)

/-- Adds a piece of advice to a failure. -/
def advise (advice : Advice) : Outcome α n → Outcome α n
  | .done value p progress => .done value p progress
  | .failed fault p => .failed { fault with advice := some advice } p

end Outcome

/-! ## Single tokens -/

/-- The fault of a level too many. -/
def tooDeep (span : Span) : Fault := { cause := .nestedTooDeeply maxNesting, span }

/-- What is wrong when the current token is not the one that had to come: a token that is no word
of the language says so itself, and at the end of the source the place is the end of what was
read. -/
def missing (p : Parser) (cause : Cause) : Fault :=
  match p.current.kind with
  | .fault lexical => { cause := lexical, span := p.current.span }
  | .finish => { cause, span := .single p.previousEnd }
  | _ => { cause, span := p.current.span }

/-- Reads a token of one kind. -/
def consume (p : Parser) (kind : TokenKind) (h : kind.isLast = false) (cause : Cause) :
    Outcome Token p.unread :=
  if hk : p.current.kind = kind then
    .done p.current p.advance (p.unread_advance_lt (hk ▸ h))
  else .failed (p.missing cause) p

/-- The two tiers of operators that group from the left. -/
inductive Tier where
  | sum
  | product
deriving DecidableEq

/-- The operator of a tier that a token stands for. -/
def Tier.op? : Tier → TokenKind → Option BinaryOp
  | .sum, .plus => some .add
  | .sum, .minus => some .subtract
  | .product, .star => some .multiply
  | .product, .slash => some .divide
  | .product, .percent => some .modulo
  | _, _ => none

/-- How loosely the operators of a tier bind. -/
def Tier.looseness : Tier → Nat
  | .sum => 2
  | .product => 0

theorem Tier.looseness_le (tier : Tier) : tier.looseness ≤ 2 := by cases tier <;> decide

theorem isLast_of_op? {tier : Tier} {kind : TokenKind} {op : BinaryOp}
    (h : tier.op? kind = some op) : kind.isLast = false := by
  cases tier <;> cases kind <;> first | rfl | cases h

theorem isLast_of_eq {kind other : TokenKind} (h : kind = other) (ho : other.isLast = false) :
    kind.isLast = false :=
  h ▸ ho

/-! ## Rules -/

mutual

def expression (p : Parser) : Outcome Expr p.unread :=
  if p.depth < maxNesting then
    ((assignment (p.withDepth (p.depth + 1))).weaken
      (Nat.le_of_eq (p.unread_withDepth _))).closeTo p.depth
  else .failed (tooDeep p.current.span) p
termination_by 11 * p.unread + 9
decreasing_by simp only [unread_withDepth]; omega

def assignment (p : Parser) : Outcome Expr p.unread :=
  match h : p.current.kind with
  | .identifier target =>
    if p.advance.current.kind = .equal then
      have h₁ := p.unread_advance_lt (isLast_of_eq h rfl)
      have h₂ := p.advance.unread_advance_le
      ((expression p.advance.advance).weaken (by omega)).andThen fun value q hq =>
        .done (.assign target value (p.current.span.cover value.span)) q hq
    else
      (chain .sum (p.advance.restore p.checkpoint)).weaken
        (Nat.le_of_eq (unread_restore p p.advance))
  | _ => chain .sum p
termination_by 11 * p.unread + 8
decreasing_by all_goals (try simp only [unread_restore, Tier.looseness]); omega

/-- Operands of a tier with operators between them. -/
def chain (tier : Tier) (p : Parser) : Outcome Expr p.unread :=
  ((operand tier p).andThen fun left q hq => (chainTail tier left q).weaken hq).closeTo p.depth
termination_by 11 * p.unread + 5 + tier.looseness
decreasing_by all_goals omega

/-- The rest of a chain whose operands so far are `left`. -/
def chainTail (tier : Tier) (left : Expr) (p : Parser) : Outcome Expr (p.unread + 1) :=
  match h : tier.op? p.current.kind with
  | none => .done left p (Nat.lt_succ_self _)
  | some op =>
    if p.advance.depth < maxNesting then
      have h₁ := p.unread_advance_lt (isLast_of_op? h)
      (((operand tier (p.advance.withDepth (p.advance.depth + 1))).weaken
        (by simp only [unread_withDepth]; omega)).andThen fun right q hq =>
          (chainTail tier (.binary op left right (left.span.cover right.span)) q).weaken hq).weaken
            (Nat.le_succ _)
    else .failed (tooDeep p.current.span) p.advance
termination_by 11 * p.unread
decreasing_by
  all_goals
    have := tier.looseness_le
    (try simp only [unread_withDepth]); omega

/-- What the operators of a tier stand between: products in a sum, factors in a product. -/
def operand (tier : Tier) (p : Parser) : Outcome Expr p.unread :=
  match tier with
  | .sum => chain .product p
  | .product => factor p
termination_by 11 * p.unread + 4 + tier.looseness
decreasing_by all_goals simp only [Tier.looseness]; omega

def factor (p : Parser) : Outcome Expr p.unread :=
  (power p).andThen fun operand q hq =>
    if q.current.kind = .bang then
      .done (.unary .factorial operand (operand.span.cover q.current.span)) q.advance
        (Nat.lt_of_le_of_lt q.unread_advance_le hq)
    else .done operand q hq
termination_by 11 * p.unread + 3
decreasing_by omega

def power (p : Parser) : Outcome Expr p.unread :=
  (atom p).andThen fun base q hq =>
    if q.current.kind = .caret then
      if q.advance.depth < maxNesting then
        have h₁ := q.unread_advance_le
        (((power (q.advance.withDepth (q.advance.depth + 1))).closeTo q.advance.depth).weaken
          (by simp only [unread_withDepth]; omega)).andThen fun exponent r hr =>
            .done (.binary .power base exponent (base.span.cover exponent.span)) r hr
      else .failed (tooDeep q.advance.current.span) q.advance
    else .done base q hq
termination_by 11 * p.unread + 2
decreasing_by all_goals (try simp only [unread_withDepth]); omega

def atom (p : Parser) : Outcome Expr p.unread :=
  match h : p.current.kind with
  | .number value =>
    .done (.number value p.current.span) p.advance (p.unread_advance_lt (isLast_of_eq h rfl))
  | .text value =>
    .done (.text value p.current.span) p.advance (p.unread_advance_lt (isLast_of_eq h rfl))
  | .identifier id =>
    if p.advance.current.kind = .opening then
      .failed { cause := .unknownFunction id, span := p.current.span } p.advance
    else .done (.name id p.current.span) p.advance (p.unread_advance_lt (isLast_of_eq h rfl))
  | .function name =>
    have h₁ := p.unread_advance_lt (isLast_of_eq h rfl)
    (call name p.current.span p.advance).weaken (Nat.le_of_lt h₁)
  | .opening =>
    have h₁ := p.unread_advance_lt (isLast_of_eq h rfl)
    ((expression p.advance).weaken (Nat.le_of_lt h₁)).andThen fun inner q hq =>
      (((q.consume .closing rfl .missingClosing).advise .matchingParentheses).weaken
        (Nat.le_of_lt hq)).andThen fun _ r hr => .done inner r hr
  | .minus =>
    if p.advance.depth < maxNesting then
      have h₁ := p.unread_advance_lt (isLast_of_eq h rfl)
      (((atom (p.advance.withDepth (p.advance.depth + 1))).closeTo p.advance.depth).weaken
        (by simp only [unread_withDepth]; omega)).andThen fun operand q hq =>
          .done (.unary .negate operand (p.current.span.cover operand.span)) q hq
    else .failed (tooDeep p.advance.current.span) p.advance
  | .fault cause => .failed { cause, span := p.current.span } p
  | .finish => .failed { cause := .unexpectedEnd, span := .single p.previousEnd } p
  | .newline | .semicolon => .failed { cause := .invalidExpression, span := p.current.span } p
  | _ => .failed { cause := .unexpectedToken p.current.lexeme, span := p.current.span } p
termination_by 11 * p.unread + 1
decreasing_by all_goals (try simp only [unread_withDepth]); omega

/-- A call of the function `name`, which has been read at `span`. The number of arguments has to be
one that the function takes. -/
def call (name : String) (span : Span) (p : Parser) : Outcome Expr p.unread :=
  (p.consume .opening rfl (.missingOpeningAfter name)).andThen fun _ q hq =>
    ((if q.current.kind = .closing then .done [] q (Nat.lt_succ_self _)
      else (arguments q).weaken (Nat.le_succ _) : Outcome (List Expr) (q.unread + 1)).weaken
        hq).andThen fun args r hr =>
      ((r.consume .closing rfl (.missingClosingAfterArguments name)).weaken
        (Nat.le_of_lt hr)).andThen fun close s hs =>
          let whole := span.cover close.span
          match Builtin.find? name with
          | some builtin =>
            if builtin.arity.accepts args.length then .done (.call name args whole) s hs
            else .failed { cause := .wrongArgumentCount name builtin.arity, span := whole } s
          | none => .done (.call name args whole) s hs
termination_by 11 * p.unread + 1
decreasing_by omega

def arguments (p : Parser) : Outcome (List Expr) p.unread :=
  (expression p).andThen fun arg q hq =>
    if q.current.kind = .comma then
      have h₁ := q.unread_advance_le
      ((arguments q.advance).weaken (by omega)).andThen fun args r hr => .done (arg :: args) r hr
    else .done [arg] q hq
termination_by 11 * p.unread + 10
decreasing_by all_goals omega

end

/-! ## Programs -/

theorem isLast_of_isSeparator {kind : TokenKind} (h : kind.isSeparator = true) :
    kind.isLast = false := by
  cases kind <;> first | rfl | cases h

def skipSeparators (p : Parser) : Parser :=
  if _ : p.current.kind.isSeparator then p.advance.skipSeparators else p
termination_by p.unread
decreasing_by exact p.unread_advance_lt (isLast_of_isSeparator (by assumption))

theorem unread_skipSeparators_le (p : Parser) : p.skipSeparators.unread ≤ p.unread := by
  fun_induction skipSeparators p with
  | case1 p _ ih => exact Nat.le_trans ih p.unread_advance_le
  | case2 => exact Nat.le_refl _

/-- The statements up to the end of the source, or to a token that cannot follow a statement. -/
def statements (p : Parser) : Outcome (List Expr) (p.unread + 1) :=
  have h₁ := p.unread_skipSeparators_le
  if p.skipSeparators.current.kind = .finish then .done [] p.skipSeparators (Nat.lt_succ_of_le h₁)
  else
    ((expression p.skipSeparators).weaken h₁).andThen (fun statement q hq =>
      if h : q.current.kind.isSeparator then
        have h₂ := q.unread_advance_lt (isLast_of_isSeparator h)
        ((statements q.advance).weaken (by omega)).andThen fun rest r hr =>
          .done (statement :: rest) r hr
      else .done [statement] q hq) |>.weaken (Nat.le_succ _)
termination_by p.unread
decreasing_by omega

/-- What is wrong with a token that stands where the source should end. -/
def endFault? (p : Parser) : Option Fault :=
  let span := p.current.span
  match p.current.kind with
  | .finish => none
  | .fault cause => some { cause, span }
  | .equal => some { cause := .incompleteExpression, span, advice := some .assignmentForm }
  | .closing => some { cause := .incompleteExpression, span, advice := some .matchingParentheses }
  | _ => some { cause := .incompleteExpression, span }

end Parser

namespace Expr

/-- The tree of a program: a single statement stands for itself. -/
def ofStatements : List Expr → Expr
  | [] => .sequence [] ⟨0, 0⟩
  | [statement] => statement
  | first :: rest =>
    .sequence (first :: rest) (first.span.cover ((rest.getLastD first).span))

/-- The tree of a source text. -/
def parse (source : String) : Except Fault Expr :=
  match (Parser.ofSource source).statements with
  | .failed fault _ => .error fault
  | .done statements p _ =>
    match p.endFault? with
    | some fault => .error fault
    | none => .ok (ofStatements statements)

end Expr

end Calculator
