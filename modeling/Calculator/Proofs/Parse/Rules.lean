import Calculator.Expr.Parse

/-!
# The parser's rules as equations

A rule of the parser gives an `Outcome`, which carries the proof that it made progress, and moves a
cursor over the source. Proofs about what is accepted need neither. Here the rules are restated:

* a `Result` is an outcome without its proof (`Outcome.result`), and each rule has one equation for
  its result (`readExpression_eq`, `readAssignment_eq`, … `readStatements_eq`);
* `Parser.tokens` is what a parser has still to read, as a list. A parser stands before the head of
  it, and `advance` takes the head off (`tokens_advance`). Coming back to a checkpoint changes
  nothing (`restore_checkpoint`), so no equation mentions one.
-/

namespace Calculator.Parser

/-! ## Results -/

/-- What a rule comes to: a value or a fault, and where the parser is left. -/
abbrev Result (α : Type) := Except (Fault × Parser) (α × Parser)

namespace Result

variable {α β : Type}

/-- Goes on from where a rule succeeded. -/
def andThen (r : Result α) (f : α → Parser → Result β) : Result β :=
  match r with
  | .ok (a, p) => f a p
  | .error e => .error e

/-- Sets the count of open levels, in success and in failure. -/
def closeTo (depth : Nat) : Result α → Result α
  | .ok (a, p) => .ok (a, p.withDepth depth)
  | .error (fault, p) => .error (fault, p.withDepth depth)

/-- Adds a piece of advice to a failure. -/
def advise (advice : Advice) : Result α → Result α
  | .ok x => .ok x
  | .error (fault, p) => .error ({ fault with advice := some advice }, p)

/-- What went on successfully succeeded before. -/
theorem andThen_eq_ok {r : Result α} {f : α → Parser → Result β} {x : β × Parser}
    (h : r.andThen f = .ok x) : ∃ a p, r = .ok (a, p) ∧ f a p = .ok x := by
  cases r with
  | ok y => exact ⟨y.1, y.2, rfl, h⟩
  | error e => cases h

/-- Giving levels back changes nothing but their count. -/
theorem closeTo_eq_ok {r : Result α} {depth : Nat} {a : α} {q : Parser}
    (h : r.closeTo depth = .ok (a, q)) : ∃ p, r = .ok (a, p) ∧ p.withDepth depth = q := by
  cases r with
  | ok y => cases h; exact ⟨y.2, rfl, rfl⟩
  | error e => cases h

theorem advise_eq_ok {r : Result α} {advice : Advice} {x : α × Parser}
    (h : r.advise advice = .ok x) : r = .ok x := by
  cases r with
  | ok y => exact h
  | error e => cases h

end Result

namespace Outcome

variable {α β : Type} {m n : Nat}

/-- The outcome without the proof of progress. -/
def result : Outcome α n → Result α
  | .done a p _ => .ok (a, p)
  | .failed fault p => .error (fault, p)

@[simp]
theorem result_weaken (o : Outcome α m) (h : m ≤ n) : (o.weaken h).result = o.result := by
  cases o <;> rfl

@[simp]
theorem result_closeTo (o : Outcome α n) (depth : Nat) :
    (o.closeTo depth).result = o.result.closeTo depth := by
  cases o <;> rfl

@[simp]
theorem result_advise (o : Outcome α n) (advice : Advice) :
    (o.advise advice).result = o.result.advise advice := by
  cases o <;> rfl

/-- Results go on as outcomes do, without the proofs. -/
theorem result_andThen {o : Outcome α n} {r : Result α}
    {f : (a : α) → (p : Parser) → p.unread < n → Outcome β n} {g : α → Parser → Result β}
    (ho : o.result = r) (hf : ∀ a p hp, (f a p hp).result = g a p) :
    (o.andThen f).result = r.andThen g := by
  subst ho
  cases o with
  | done a p hp => exact hf a p hp
  | failed fault p => rfl

/-- A success leaves less to read: the proof that an outcome carries, for its result. -/
theorem unread_of_result {o : Outcome α n} {a : α} {p : Parser} (h : o.result = .ok (a, p)) :
    p.unread < n := by
  cases o with
  | done b q hq => cases h; exact hq
  | failed fault q => cases h

end Outcome

/-! ## What is left to read -/

/-- The tokens that a parser has still to read, the current one first. -/
def tokens (p : Parser) : List Token := p.start.tokens

theorem next_start (p : Parser) : p.start.next = (p.current, p.after) := p.scanned

@[simp]
theorem depth_withDepth (p : Parser) (depth : Nat) : (p.withDepth depth).depth = depth := rfl

/-- Reading a token opens no level. -/
@[simp]
theorem depth_advance (p : Parser) : p.advance.depth = p.depth := by
  unfold advance
  split <;> rfl

/-- Before a last token nothing else is left to read. -/
theorem tokens_of_isLast {p : Parser} (h : p.current.kind.isLast = true) :
    p.tokens = [p.current] := by
  rw [tokens, Cursor.tokens, p.next_start, dif_pos h]

/-- Advancing takes the first of the tokens that are left. -/
theorem tokens_advance {p : Parser} (h : p.current.kind.isLast = false) :
    p.tokens = p.current :: p.advance.tokens := by
  have hadvance : p.advance = startingAt p.after p.current.span.stop p.depth := by
    rw [advance, if_neg (by simp [h])]
  rw [tokens, Cursor.tokens, p.next_start, dif_neg (by simp [h]), hadvance]
  rfl

/-- A parser stands before the first of the tokens that it has still to read. -/
theorem head_tokens (p : Parser) : p.tokens.head? = some p.current := by
  cases h : p.current.kind.isLast with
  | true => rw [tokens_of_isLast h]; rfl
  | false => rw [tokens_advance h]; rfl

/-- The first of the tokens that are left is the current one. -/
theorem current_of_tokens {p : Parser} {t : Token} {ts : List Token} (h : p.tokens = t :: ts) :
    p.current = t := by
  have hhead := p.head_tokens
  rw [h] at hhead
  exact (Option.some.inj hhead).symm

theorem advance_of_tokens {p : Parser} {t : Token} {ts : List Token} (h : p.tokens = t :: ts)
    (ht : t.kind.isLast = false) : p.advance.tokens = ts := by
  have hcurrent := current_of_tokens h
  rw [tokens_advance (by rw [hcurrent]; exact ht), hcurrent] at h
  exact (List.cons.inj h).2

/-- Coming back to a checkpoint undoes an advance. -/
theorem restore_checkpoint (p : Parser) : p.advance.restore p.checkpoint = p := by
  have hdepth := p.depth_advance
  have hscanned := p.scanned
  unfold restore checkpoint startingAt
  cases p
  simp_all

/-! ## One equation for each rule -/

/-- The result of reading an expression, and so on for each rule. -/
def readExpression (p : Parser) : Result Expr := p.expression.result

def readAssignment (p : Parser) : Result Expr := p.assignment.result

def readChain (tier : Tier) (p : Parser) : Result Expr := (p.chain tier).result

/-- The result of reading the rest of a chain whose operands so far are `left`. -/
def readTail (tier : Tier) (left : Expr) (p : Parser) : Result Expr :=
  (p.chainTail tier left).result

def readOperand (tier : Tier) (p : Parser) : Result Expr := (p.operand tier).result

def readFactor (p : Parser) : Result Expr := p.factor.result

def readPower (p : Parser) : Result Expr := p.power.result

def readAtom (p : Parser) : Result Expr := p.atom.result

/-- The result of reading a call, when the name has been read at `span`. -/
def readCall (name : String) (span : Span) (p : Parser) : Result Expr := (p.call name span).result

def readArguments (p : Parser) : Result (List Expr) := p.arguments.result

/-- The result of reading a token of one kind. -/
def readToken (kind : TokenKind) (cause : Cause) (p : Parser) : Result Token :=
  if p.current.kind = kind then .ok (p.current, p.advance) else .error (p.missing cause, p)

theorem consume_result (p : Parser) (kind : TokenKind) (h : kind.isLast = false) (cause : Cause) :
    (p.consume kind h cause).result = p.readToken kind cause := by
  unfold consume readToken
  split <;> rfl

/-- A token that was read is the current one, and has the kind. -/
theorem readToken_eq_ok {p q : Parser} {kind : TokenKind} {cause : Cause} {t : Token}
    (h : p.readToken kind cause = .ok (t, q)) :
    p.current.kind = kind ∧ p.current = t ∧ p.advance = q := by
  unfold readToken at h
  split at h
  · cases h
    exact ⟨by assumption, rfl, rfl⟩
  · cases h

/-- An expression opens a level for an assignment, and gives it back. -/
theorem readExpression_eq (p : Parser) :
    p.readExpression
      = if p.depth < maxNesting then (p.withDepth (p.depth + 1)).readAssignment.closeTo p.depth
        else .error (tooDeep p.current.span, p) := by
  rw [readExpression, expression]
  split
  · rw [Outcome.result_closeTo, Outcome.result_weaken]
    rfl
  · rfl

/-- The token behind a name tells if it is assigned to. If not, the name is read again as an
operand. -/
theorem readAssignment_eq (p : Parser) :
    p.readAssignment
      = match p.current.kind with
        | .identifier target =>
          if p.advance.current.kind = .equal then
            p.advance.advance.readExpression.andThen fun value q =>
              .ok (.assign target value (p.current.span.cover value.span), q)
          else p.readChain .sum
        | _ => p.readChain .sum := by
  rw [readAssignment, assignment]
  split
  · rename_i target h
    simp only [h]
    split
    · exact Outcome.result_andThen (Outcome.result_weaken _ _) fun _ _ _ => rfl
    · rw [Outcome.result_weaken]
      exact congrArg (readChain .sum) p.restore_checkpoint
  · rename_i h
    split
    · exact absurd (by assumption) (h _)
    · rfl

/-- A chain gives back the levels that its operators opened. -/
theorem readChain_eq (tier : Tier) (p : Parser) :
    p.readChain tier
      = ((p.readOperand tier).andThen fun left q => q.readTail tier left).closeTo p.depth := by
  rw [readChain, chain, Outcome.result_closeTo]
  exact congrArg (Result.closeTo p.depth)
    (Outcome.result_andThen rfl fun left q hq => Outcome.result_weaken _ hq)

/-- Each operator opens a level, which stays open for the rest of the chain. -/
theorem readTail_eq (tier : Tier) (left : Expr) (p : Parser) :
    p.readTail tier left
      = match tier.op? p.current.kind with
        | none => .ok (left, p)
        | some op =>
          if p.depth < maxNesting then
            ((p.advance.withDepth (p.depth + 1)).readOperand tier).andThen fun right q =>
              q.readTail tier (.binary op left right (left.span.cover right.span))
          else .error (tooDeep p.current.span, p.advance) := by
  rw [readTail, chainTail, ← p.depth_advance]
  split
  · rename_i h
    simp only [h]
    rfl
  · rename_i op h
    simp only [h]
    split
    · rw [Outcome.result_weaken]
      exact Outcome.result_andThen (Outcome.result_weaken _ _) fun right q hq =>
        Outcome.result_weaken _ hq
    · rfl

theorem readOperand_sum (p : Parser) : p.readOperand .sum = p.readChain .product := by
  rw [readOperand, operand.eq_def]
  rfl

theorem readOperand_product (p : Parser) : p.readOperand .product = p.readFactor := by
  rw [readOperand, operand.eq_def]
  rfl

theorem readFactor_eq (p : Parser) :
    p.readFactor
      = p.readPower.andThen fun operand q =>
          if q.current.kind = .bang then
            .ok (.unary .factorial operand (operand.span.cover q.current.span), q.advance)
          else .ok (operand, q) := by
  rw [readFactor, factor]
  refine Outcome.result_andThen rfl fun operand q hq => ?_
  split <;> rfl

/-- An exponent is a power one level deeper. -/
theorem readPower_eq (p : Parser) :
    p.readPower
      = p.readAtom.andThen fun base q =>
          if q.current.kind = .caret then
            if q.depth < maxNesting then
              ((q.advance.withDepth (q.depth + 1)).readPower.closeTo q.depth).andThen
                fun exponent r =>
                  .ok (.binary .power base exponent (base.span.cover exponent.span), r)
            else .error (tooDeep q.advance.current.span, q.advance)
          else .ok (base, q) := by
  rw [readPower, power]
  refine Outcome.result_andThen rfl fun base q hq => ?_
  rw [← q.depth_advance]
  split
  · split
    · refine Outcome.result_andThen ?_ fun _ _ _ => rfl
      rw [Outcome.result_weaken, Outcome.result_closeTo]
      rfl
    · rfl
  · rfl

/-- The current token tells which atom it is, or that there is none. -/
theorem readAtom_eq (p : Parser) :
    p.readAtom
      = match p.current.kind with
        | .number value => .ok (.number value p.current.span, p.advance)
        | .text value => .ok (.text value p.current.span, p.advance)
        | .identifier id =>
          if p.advance.current.kind = .opening then
            .error ({ cause := .unknownFunction id, span := p.current.span }, p.advance)
          else .ok (.name id p.current.span, p.advance)
        | .function name => p.advance.readCall name p.current.span
        | .opening =>
          p.advance.readExpression.andThen fun inner q =>
            ((q.readToken .closing .missingClosing).advise .matchingParentheses).andThen
              fun _ r => .ok (inner, r)
        | .minus =>
          if p.depth < maxNesting then
            ((p.advance.withDepth (p.depth + 1)).readAtom.closeTo p.depth).andThen
              fun operand q =>
                .ok (.unary .negate operand (p.current.span.cover operand.span), q)
          else .error (tooDeep p.advance.current.span, p.advance)
        | .fault cause => .error ({ cause, span := p.current.span }, p)
        | .finish => .error ({ cause := .unexpectedEnd, span := .single p.previousEnd }, p)
        | .newline | .semicolon =>
          .error ({ cause := .invalidExpression, span := p.current.span }, p)
        | _ =>
          .error ({ cause := .unexpectedToken p.current.lexeme, span := p.current.span }, p) := by
  have hgroup (q : Parser) (inner : Expr) (n : Nat) (hq : q.unread < n) :
      ((((q.consume .closing rfl .missingClosing).advise .matchingParentheses).weaken
        (Nat.le_of_lt hq)).andThen fun _ r hr => .done inner r hr : Outcome Expr n).result
        = ((q.readToken .closing .missingClosing).advise .matchingParentheses).andThen
            fun _ r => .ok (inner, r) := by
    refine Outcome.result_andThen ?_ fun _ _ _ => rfl
    rw [Outcome.result_weaken, Outcome.result_advise]
    exact congrArg (Result.advise .matchingParentheses) (q.consume_result _ _ _)
  rw [readAtom, atom, ← p.depth_advance]
  split <;> rename_i h <;> simp only [h]
  all_goals try rfl
  · split <;> rfl
  · exact Outcome.result_weaken _ _
  · exact Outcome.result_andThen (Outcome.result_weaken _ _) fun inner q hq => hgroup q inner _ hq
  · split
    · refine Outcome.result_andThen ?_ fun _ _ _ => rfl
      rw [Outcome.result_weaken, Outcome.result_closeTo]
      rfl
    · rfl

/-- A call is checked for its number of arguments when it has been read to its end. -/
theorem readCall_eq (name : String) (span : Span) (p : Parser) :
    p.readCall name span
      = (p.readToken .opening (.missingOpeningAfter name)).andThen fun _ q =>
          (if q.current.kind = .closing then .ok ([], q) else q.readArguments).andThen
            fun args r =>
              (r.readToken .closing (.missingClosingAfterArguments name)).andThen fun close s =>
                match Builtin.find? name with
                | some builtin =>
                  if builtin.arity.accepts args.length then
                    .ok (.call name args (span.cover close.span), s)
                  else
                    .error ({ cause := .wrongArgumentCount name builtin.arity,
                              span := span.cover close.span }, s)
                | none => .ok (.call name args (span.cover close.span), s) := by
  rw [readCall, call]
  refine Outcome.result_andThen (consume_result _ _ _ _) fun _ q hq => ?_
  refine Outcome.result_andThen ?_ fun args r hr => ?_
  · rw [Outcome.result_weaken]
    split
    · rfl
    · exact Outcome.result_weaken _ _
  · refine Outcome.result_andThen ?_ fun close s hs => ?_
    · exact (Outcome.result_weaken _ _).trans (r.consume_result _ _ _)
    · cases Builtin.find? name with
      | some builtin => dsimp only; split <;> rfl
      | none => rfl

theorem readArguments_eq (p : Parser) :
    p.readArguments
      = p.readExpression.andThen fun arg q =>
          if q.current.kind = .comma then
            q.advance.readArguments.andThen fun args r => .ok (arg :: args, r)
          else .ok ([arg], q) := by
  rw [readArguments, arguments]
  refine Outcome.result_andThen rfl fun arg q hq => ?_
  split
  · exact Outcome.result_andThen (Outcome.result_weaken _ _) fun _ _ _ => rfl
  · rfl

/-- The result of reading statements. -/
def readStatements (p : Parser) : Result (List Expr) := p.statements.result

/-- Statements are read as long as separators follow. -/
theorem readStatements_eq (p : Parser) :
    p.readStatements
      = if p.skipSeparators.current.kind = .finish then .ok ([], p.skipSeparators)
        else p.skipSeparators.readExpression.andThen fun statement q =>
          if q.current.kind.isSeparator then
            q.advance.readStatements.andThen fun rest r => .ok (statement :: rest, r)
          else .ok ([statement], q) := by
  rw [readStatements, statements]
  split
  · rfl
  · rw [Outcome.result_weaken]
    refine Outcome.result_andThen (Outcome.result_weaken _ _) fun statement q hq => ?_
    split
    · exact Outcome.result_andThen (Outcome.result_weaken _ _) fun _ _ _ => rfl
    · rfl

end Calculator.Parser
