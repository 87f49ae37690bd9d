import Calculator.Proofs.Parse.Machine

/-!
# The parser halts with its levels given back

Step by step the parser comes to what its rules give all at once (`Procedure.returns`), at whatever
place it is and whatever waits for the result. The induction is the one by which the rules end.

From that and from what every step keeps follows the contract of a call
(`procedure_returns_balanced`), wherever the parser may have got: states in the middle of a rule are
included, with the charges that are open there, and so are those that come about when any other rule
is called at such a state (`Reachable`).
-/

namespace Calculator.Machine

open Calculator.Parser (Agrees Result Tier tooDeep)

namespace State

/-- Where a result is returned. -/
def ofResult (result : Result Expr) (stack : List Frame) : State :=
  match result with
  | .ok (e, q) => .returning (.ok e) q stack
  | .error (fault, q) => .returning (.error fault) q stack

theorem exists_ofResult (r : Result Expr) (stack : List Frame) :
    ∃ result q, ofResult r stack = .returning result q stack := by
  match r with
  | .ok (e, q) => exact ⟨.ok e, q, rfl⟩
  | .error (fault, q) => exact ⟨.error fault, q, rfl⟩

theorem ok_of_ofResult {r : Result Expr} {stack : List Frame} {e : Expr} {q : Parser}
    (h : ofResult r stack = .returning (.ok e) q stack) : r = .ok (e, q) := by
  cases r with
  | ok x =>
    simp only [ofResult, returning.injEq, Except.ok.injEq] at h
    rw [← h.1, ← h.2.1]
  | error x => simp [ofResult] at h

end State

open State (Run ofResult)

/-- From a point the parser comes to a result, and returns it to what waits for it. -/
def Returns (point : Point) (p : Parser) (result : Result Expr) : Prop :=
  ∀ stack, Run (.reading point p stack) (ofResult result stack)

theorem run_of_step {point : Point} {p : Parser} {stack : List Frame} {t : State}
    (h : Run (point.step p stack) t) : Run (.reading point p stack) t :=
  .head rfl h

/-- What a frame does with the result of what was called. -/
theorem Returns.resume {point : Point} {p : Parser} {result : Result Expr}
    (h : Returns point p result) {frame : Frame} {stack : List Frame} {t : State}
    (hok : ∀ e q, result = .ok (e, q) → Run (frame.proceed e q stack) t)
    (herror : ∀ fault q, result = .error (fault, q) →
      Run (.returning (.error fault) (frame.fail q) stack) t) :
    Run (.reading point p (frame :: stack)) t := by
  refine (h (frame :: stack)).trans ?_
  match result with
  | .ok (e, q) => exact .head rfl (hok e q rfl)
  | .error (fault, q) => exact .head rfl (herror fault q rfl)

/-- A frame that writes no count back passes failures on as they are. -/
theorem Returns.andThen {point : Point} {p : Parser} {result : Result Expr}
    (h : Returns point p result) {frame : Frame} (hframe : frame.saved? = none)
    {f : Expr → Parser → Result Expr} {stack : List Frame}
    (hok : ∀ e q, result = .ok (e, q) → Run (frame.proceed e q stack) (ofResult (f e q) stack)) :
    Run (.reading point p (frame :: stack)) (ofResult (result.andThen f) stack) := by
  refine h.resume (fun e q hresult => ?_) fun fault q hresult => ?_
  · rw [hresult]
    exact hok e q hresult
  · rw [hresult, Frame.fail, hframe]
    exact .refl

theorem nested_returns (inner : Inner) {p : Parser} {result : Result Expr}
    (h : Returns (.inner inner) (p.withDepth (p.depth + 1)) result) :
    Returns (.nested inner) p
      (if p.depth < maxNesting then result.closeTo p.depth
        else .error (tooDeep p.current.span, p)) := by
  intro stack
  refine run_of_step ?_
  rw [Point.step]
  split
  · refine h.resume (fun e q hresult => ?_) fun fault q hresult => ?_
    · rw [hresult]
      exact .refl
    · rw [hresult]
      exact .refl
  · exact .refl

theorem nested_andThen (inner : Inner) {p : Parser} {result : Result Expr}
    (h : Returns (.inner inner) (p.withDepth (p.depth + 1)) result) {frame : Frame}
    (hframe : frame.saved? = none) {f : Expr → Parser → Result Expr} {stack : List Frame}
    (hok : ∀ e q, Run (frame.proceed e q stack) (ofResult (f e q) stack)) :
    Run (.reading (.nested inner) p (frame :: stack))
      (ofResult (if p.depth < maxNesting then (result.closeTo p.depth).andThen f
        else .error (tooDeep p.current.span, p)) stack) := by
  have hrun := (nested_returns inner h).andThen hframe fun e q _ => hok e q
  by_cases hfree : p.depth < maxNesting
  · rw [if_pos hfree] at hrun ⊢
    exact hrun
  · rw [if_neg hfree] at hrun ⊢
    exact hrun

/-! ## Rules -/

/-- Behind the arguments of a call comes the parenthesis that closes their list. -/
def ofArguments (name : String) (span : Span) (read : List Expr) (result : Result (List Expr))
    (stack : List Frame) : State :=
  match result with
  | .ok (args, q) => .reading (.closing name span (read ++ args)) q stack
  | .error (fault, q) => .returning (.error fault) q stack

theorem closing_returns (name : String) (span : Span) (args : List Expr) (p : Parser) :
    Returns (.closing name span args) p
      ((p.readToken .closing (.missingClosingAfterArguments name)).andThen fun close q =>
        match Builtin.find? name with
        | some builtin =>
          if builtin.arity.accepts args.length then .ok (.call name args (span.cover close.span), q)
          else
            .error ({ cause := .wrongArgumentCount name builtin.arity,
                      span := span.cover close.span }, q)
        | none => .ok (.call name args (span.cover close.span), q)) := by
  intro stack
  refine run_of_step ?_
  simp only [Point.step, Parser.readToken]
  split
  · cases Builtin.find? name with
    | none => exact .refl
    | some builtin =>
      dsimp only [Result.andThen]
      split <;> exact .refl
  · exact .refl

mutual

theorem expression_returns (p : Parser) : Returns .expression p p.readExpression := by
  rw [Parser.readExpression_eq]
  exact nested_returns .assignment (assignment_returns (p.withDepth (p.depth + 1)))
termination_by 11 * p.unread + 9
decreasing_by simp only [Parser.unread_withDepth]; omega

theorem assignment_returns (p : Parser) : Returns .assignment p p.readAssignment := by
  have hsum := chain_returns .sum p
  intro stack
  rw [Parser.readAssignment_eq]
  split
  case h_1 name hname =>
    have hless := p.unread_advance_lt (Parser.isLast_of_eq hname rfl)
    have hle := p.advance.unread_advance_le
    refine run_of_step ?_
    rw [Point.step, hname]
    refine run_of_step ?_
    rw [Point.step]
    split
    · exact (expression_returns p.advance.advance).andThen rfl fun value q _ => .refl
    · -- Going back gives the parser that stood before the identifier.
      rw [p.restore_checkpoint]
      exact hsum stack
  case h_2 hname =>
    refine run_of_step ?_
    rw [Point.step]
    split
    · exact absurd (by assumption) (hname _)
    · exact hsum stack
termination_by 11 * p.unread + 8
decreasing_by all_goals (try simp only [Tier.looseness]); omega

theorem chain_returns (tier : Tier) (p : Parser) :
    Returns (.chain tier) p (p.readChain tier) := by
  intro stack
  refine run_of_step ?_
  rw [Parser.readChain_eq, Point.step]
  refine (operand_returns tier p).resume (fun left q hleft => ?_) fun fault q hfault => ?_
  · have hless := Parser.Outcome.unread_of_result hleft
    rw [hleft]
    exact tail_returns tier left p.depth 0 q stack
  · rw [hfault]
    exact .refl
termination_by 11 * p.unread + 5 + tier.looseness
decreasing_by all_goals omega

theorem tail_returns (tier : Tier) (left : Expr) (depth count : Nat) (p : Parser) :
    Returns (.tail tier left depth count) p ((p.readTail tier left).closeTo depth) := by
  intro stack
  refine run_of_step ?_
  rw [Parser.readTail_eq, Point.step]
  cases hop : tier.op? p.current.kind with
  | none => exact .refl
  | some op =>
    have hless := p.unread_advance_lt (Parser.isLast_of_op? hop)
    refine run_of_step ?_
    rw [Point.step, p.depth_advance]
    dsimp only
    split
    · refine (operand_returns tier (p.advance.withDepth (p.depth + 1))).resume
        (fun right q hright => ?_) fun fault q hfault => ?_
      · -- The operator's level stays open: what is written back at the end is still `depth`.
        have hfewer : q.unread < p.advance.unread := Parser.Outcome.unread_of_result hright
        rw [hright]
        exact tail_returns tier _ depth (count + 1) q stack
      · rw [hfault]
        exact .refl
    · exact .refl
termination_by 11 * p.unread
decreasing_by
  all_goals
    have := tier.looseness_le
    (try simp only [Parser.unread_withDepth]); omega

theorem operand_returns (tier : Tier) (p : Parser) :
    Returns (.operand tier) p (p.readOperand tier) := by
  cases tier with
  | sum =>
    rw [Parser.readOperand_sum]
    exact chain_returns .product p
  | product =>
    rw [Parser.readOperand_product]
    exact factor_returns p
termination_by 11 * p.unread + 4 + tier.looseness
decreasing_by all_goals simp only [Tier.looseness]; omega

theorem factor_returns (p : Parser) : Returns .factor p p.readFactor := by
  intro stack
  refine run_of_step ?_
  rw [Parser.readFactor_eq, Point.step]
  refine (power_returns p).andThen rfl fun operand q _ => ?_
  rw [Frame.proceed]
  split <;> exact .refl
termination_by 11 * p.unread + 3
decreasing_by omega

theorem power_returns (p : Parser) : Returns .power p p.readPower := by
  intro stack
  refine run_of_step ?_
  rw [Parser.readPower_eq, Point.step]
  refine (atom_returns p).andThen rfl fun base q hbase => ?_
  have hless : q.unread < p.unread := Parser.Outcome.unread_of_result hbase
  have hle := q.unread_advance_le
  rw [Frame.proceed, ← q.depth_advance]
  split
  · exact nested_andThen .power (power_returns (q.advance.withDepth (q.advance.depth + 1))) rfl
      fun exponent r => .refl
  · exact .refl
termination_by 11 * p.unread + 2
decreasing_by all_goals (try simp only [Parser.unread_withDepth]); omega

theorem atom_returns (p : Parser) : Returns .atom p p.readAtom := by
  intro stack
  rw [Parser.readAtom_eq]
  refine run_of_step ?_
  split
  case h_1 h | h_2 h =>
    rw [Point.step, h]
    exact .refl
  case h_3 h =>
    rw [Point.step, h]
    dsimp only
    split <;> exact .refl
  case h_4 name h =>
    have hless := p.unread_advance_lt (Parser.isLast_of_eq h rfl)
    rw [Point.step, h]
    exact run_of_step (opening_returns name p.current.span p.advance stack)
  case h_5 h =>
    have hless := p.unread_advance_lt (Parser.isLast_of_eq h rfl)
    rw [Point.step, h]
    refine (expression_returns p.advance).andThen rfl fun inner q _ => ?_
    rw [Frame.proceed, Parser.readToken]
    split <;> exact .refl
  case h_6 h =>
    have hless := p.unread_advance_lt (Parser.isLast_of_eq h rfl)
    rw [Point.step, h, ← p.depth_advance]
    exact nested_andThen .atom (atom_returns (p.advance.withDepth (p.advance.depth + 1))) rfl
      fun operand q => .refl
  all_goals
    rw [Point.step]
    simp only [*]
    exact .refl
termination_by 11 * p.unread + 1
decreasing_by all_goals (try simp only [Parser.unread_withDepth]); omega

theorem opening_returns (name : String) (span : Span) (p : Parser) :
    Returns (.opening name span) p (p.readCall name span) := by
  intro stack
  refine run_of_step ?_
  rw [Parser.readCall_eq, Point.step, Parser.readToken]
  split
  case isFalse => exact .refl
  case isTrue hopening =>
    have hless := p.unread_advance_lt (Parser.isLast_of_eq hopening rfl)
    refine run_of_step ?_
    rw [Point.step]
    dsimp only [Result.andThen]
    split
    · exact closing_returns name span [] p.advance stack
    · refine (argument_runs name span [] p.advance stack).trans ?_
      cases p.advance.readArguments with
      | ok args => exact closing_returns name span args.1 args.2 stack
      | error fault => exact .refl
termination_by 11 * p.unread + 1
decreasing_by omega

theorem argument_runs (name : String) (span : Span) (read : List Expr) (p : Parser)
    (stack : List Frame) : Run (.reading (.argument name span read) p stack)
      (ofArguments name span read p.readArguments stack) := by
  refine run_of_step ?_
  rw [Parser.readArguments_eq, Point.step]
  refine (expression_returns p).resume (fun arg q harg => ?_) fun fault q hfault => ?_
  · have hfewer : q.unread < p.unread := Parser.Outcome.unread_of_result harg
    have hle := q.unread_advance_le
    rw [harg, Frame.proceed]
    dsimp only [Result.andThen]
    split
    · refine (argument_runs name span (read ++ [arg]) q.advance stack).trans ?_
      cases q.advance.readArguments with
      | ok args =>
        -- What was read stands before what is still to come.
        simp only [ofArguments, List.append_assoc, List.singleton_append]
        exact .refl
      | error fault => exact .refl
    · exact .refl
  · rw [hfault]
    exact .refl
termination_by 11 * p.unread + 10
decreasing_by all_goals omega

end

/-! ## Programs -/

theorem separators_run (read : List Expr) (p : Parser) (stack : List Frame) :
    Run (.reading (.separators read) p stack)
      (.reading (.separators read) p.skipSeparators stack) := by
  fun_induction Parser.skipSeparators p with
  | case1 p hseparator ih =>
    refine run_of_step ?_
    rw [Point.step, if_pos hseparator]
    exact ih
  | case2 p hseparator => exact .refl

/-- Behind the statements of a program comes the end of the source. -/
def ofStatements (read : List Expr) (result : Result (List Expr)) (stack : List Frame) : State :=
  match result with
  | .ok (es, q) => .reading (.finish (read ++ es)) q stack
  | .error (fault, q) => .returning (.error fault) q stack

theorem not_isSeparator_skipSeparators (p : Parser) :
    p.skipSeparators.current.kind.isSeparator = false := by
  fun_induction Parser.skipSeparators p with
  | case1 p _ ih => exact ih
  | case2 p hseparator => simpa using hseparator

theorem statements_run (read : List Expr) (p : Parser) (stack : List Frame) :
    Run (.reading (.statements read) p stack) (ofStatements read p.readStatements stack) := by
  refine run_of_step ((separators_run read p stack).trans (run_of_step ?_))
  have hseparator := not_isSeparator_skipSeparators p
  have hle := p.unread_skipSeparators_le
  rw [Parser.readStatements_eq, Point.step, if_neg (by simp [hseparator])]
  split
  · simp only [ofStatements, List.append_nil]
    exact .refl
  · refine (expression_returns p.skipSeparators).resume (fun e q he => ?_) fun fault q hfault => ?_
    · have hfewer : q.unread < p.skipSeparators.unread := Parser.Outcome.unread_of_result he
      have hle' := q.unread_advance_le
      rw [he, Frame.proceed]
      dsimp only [Result.andThen]
      split
      · refine (statements_run (read ++ [e]) q.advance stack).trans ?_
        cases q.advance.readStatements with
        | ok es =>
          simp only [ofStatements, List.append_assoc, List.singleton_append]
          exact .refl
        | error fault => exact .refl
      · exact .refl
    · rw [hfault]
      exact .refl
termination_by p.unread
decreasing_by omega

/-! ## Procedures -/

/-- The rules that are called, and the program as a whole. -/
inductive Procedure where
  | program
  | expression
  | assignment
  | chain (tier : Tier)
  | factor
  | power
  | atom
  | functionCall (name : String) (span : Span)

namespace Procedure

/-- Where the parser starts when the procedure is called. -/
def point : Procedure → Point
  | .program => .statements []
  | .expression => .expression
  | .assignment => .assignment
  | .chain tier => .chain tier
  | .factor => .factor
  | .power => .power
  | .atom => .atom
  | .functionCall name span => .functionCall name span

/-- What the procedure gives when it is called all at once. -/
def outcome (p : Parser) : Procedure → Result Expr
  | .program =>
    p.statements.result.andThen fun es q =>
      match q.endFault? with
      | some fault => .error (fault, q)
      | none => .ok (.ofStatements es, q)
  | .expression => p.expression.result
  | .assignment => p.assignment.result
  | .chain tier => (p.chain tier).result
  | .factor => p.factor.result
  | .power => p.power.result
  | .atom => p.atom.result
  | .functionCall name span => (p.advance.call name span).result

/-- **Every procedure returns**, and what it returns is what the rules give. -/
theorem returns (p : Parser) (procedure : Procedure) :
    Returns procedure.point p (procedure.outcome p) := by
  cases procedure with
  | program =>
    intro stack
    refine (statements_run [] p stack).trans ?_
    show Run (ofStatements [] p.statements.result stack) _
    rw [outcome]
    cases p.statements.result with
    | error fault => exact .refl
    | ok es =>
      refine run_of_step ?_
      simp only [Point.step, Result.andThen, List.nil_append]
      cases es.2.endFault? <;> exact .refl
  | expression => exact expression_returns p
  | assignment => exact assignment_returns p
  | chain tier => exact chain_returns tier p
  | factor => exact factor_returns p
  | power => exact power_returns p
  | atom => exact atom_returns p
  | functionCall name span =>
    exact fun stack => run_of_step (opening_returns name span p.advance stack)

theorem consumed_of_agrees {p p' q : Parser} {e : Expr} {result : Result Expr}
    {x : Tokens.Reading Expr p'.tokens.length} (h : Agrees p'.Leaves result x)
    (hp : p'.tokens <:+ p.tokens) (hresult : result = .ok (e, q)) : Consumed p q := by
  subst hresult
  cases h with
  | done hleaves =>
    have hless : q.tokens.length < p'.tokens.length := by assumption
    exact consumed_of_suffix (hleaves.reaches.suffix.trans hp) (hless.trans_le hp.length_le)

/-- A rule that gives a tree has read a token. -/
theorem consumed_of_ok {p q : Parser} {procedure : Procedure} (hprocedure : procedure ≠ .program)
    {e : Expr} (h : procedure.outcome p = .ok (e, q)) : Consumed p q := by
  have ih := Parser.rules_agree p.tokens.length
  have hsame : p.tokens <:+ p.tokens := List.suffix_rfl
  cases procedure with
  | program => exact absurd rfl hprocedure
  | expression => exact consumed_of_agrees (Parser.expression_agrees ih) hsame h
  | assignment => exact consumed_of_agrees (Parser.assignment_agrees ih) hsame h
  | chain tier =>
    exact consumed_of_agrees (Parser.chain_agrees ih (Parser.operand_agrees ih tier)) hsame h
  | factor => exact consumed_of_agrees (Parser.factor_agrees ih) hsame h
  | power => exact consumed_of_agrees (Parser.power_agrees ih) hsame h
  | atom => exact consumed_of_agrees (Parser.atom_agrees ih) hsame h
  | functionCall name span =>
    exact consumed_of_agrees
      (Parser.call_agrees (Parser.rules_agree _) name span p.advance (Nat.lt_succ_self _))
      p.tokens_advance_suffix h

end Procedure

/-! ## Wherever the parser gets -/

/-- The parsers that a new one becomes on the way through any procedure, and those that such a one
becomes when any procedure is called there, each with the number of charges that are open. -/
inductive Reachable (source : String) : Parser → Nat → Prop
  | new : Reachable source (.ofSource source) 0
  | during {p : Parser} {opened : Nat} (h : Reachable source p opened) (procedure : Procedure)
      {s : State} (hrun : Run (.reading procedure.point p []) s) :
      Reachable source s.parser (opened + s.charges)

theorem Procedure.balanced {p : Parser} (h : p.depth ≤ maxNesting) (procedure : Procedure) :
    (State.reading procedure.point p []).Balanced p.depth := by
  cases procedure <;> exact ⟨rfl, h, trivial, trivial⟩

/-- The parser's count is that of the open charges. -/
theorem Reachable.depth {source : String} {p : Parser} {opened : Nat}
    (h : Reachable source p opened) : p.depth = opened ∧ p.depth ≤ maxNesting := by
  induction h with
  | new => exact ⟨rfl, Nat.zero_le _⟩
  | during _ procedure hrun ih =>
    have hbalanced := (procedure.balanced ih.2).run hrun
    exact ⟨by rw [hbalanced.depth, ih.1], hbalanced.bounded⟩

/-- **Every procedure returns, with its levels given back.** Wherever the parser may have got, a
procedure that is called there comes to its result in finitely many steps, which is what its rule
gives. In success and in failure as many levels are open as at the call. From every state on the way
the parser goes on to the result; its count there is the number of open charges, those from before
the call included, and they are never more than there may be. A tree is given only when a token has
been read, and no loop comes to another round without reading one. -/
theorem procedure_returns_balanced {source : String} {p : Parser} {opened : Nat}
    (h : Reachable source p opened) (procedure : Procedure) :
    ∃ result q, Run (.reading procedure.point p []) (.returning result q [])
      ∧ ofResult (procedure.outcome p) [] = .returning result q []
      ∧ q.depth = p.depth
      ∧ (∀ s, Run (.reading procedure.point p []) s → Run s (.returning result q [])
          ∧ s.parser.depth = opened + s.charges ∧ opened + s.charges ≤ maxNesting)
      ∧ (∀ e, result = .ok e → procedure ≠ .program → Consumed p q)
      ∧ ∀ a b, a.Again b → ∀ q r stack, Run (.reading procedure.point p []) (.reading a q stack) →
          State.Later (.reading a q stack) (.reading b r stack) → Consumed q r := by
  obtain ⟨rfl, hbounded⟩ := h.depth
  have hstart := procedure.balanced hbounded
  have hreturns := procedure.returns p []
  obtain ⟨result, q, hresult⟩ := State.exists_ofResult (procedure.outcome p) []
  rw [hresult] at hreturns
  refine ⟨result, q, hreturns, hresult, (hstart.run hreturns).depth, fun s hrun => ?_,
    fun e he hprocedure => ?_, fun a b hagain q r stack hrun hlater => ?_⟩
  · have hbalanced := hstart.run hrun
    exact ⟨hrun.onward hreturns rfl, hbalanced.depth, hbalanced.depth ▸ hbalanced.bounded⟩
  · subst he
    exact Procedure.consumed_of_ok hprocedure (State.ok_of_ofResult hresult)
  · exact hagain.consumed (hstart.run hrun) hlater

/-- A power is read at a parser that has one level open, with another one for its exponent and one
for the sign. -/
theorem procedure_returns_balanced_power :
    Reachable "2^-x+1" ((Parser.ofSource "2^-x+1").withDepth 1) 1
      ∧ ∃ e q, Run (.reading .power ((Parser.ofSource "2^-x+1").withDepth 1) [])
          (.returning (.ok e) q [])
        ∧ q.depth = 1 ∧ Consumed ((Parser.ofSource "2^-x+1").withDepth 1) q := by
  have hreachable : Reachable "2^-x+1" ((Parser.ofSource "2^-x+1").withDepth 1) 1 :=
    Reachable.during .new .expression (.single rfl)
  obtain ⟨result, q, hrun, hresult, hdepth, -, hconsumed, -⟩ :=
    procedure_returns_balanced hreachable .power
  have hok : (Procedure.power.outcome ((Parser.ofSource "2^-x+1").withDepth 1)).isOk = true := by
    decide +kernel
  cases houtcome : Procedure.power.outcome ((Parser.ofSource "2^-x+1").withDepth 1) with
  | error x =>
    rw [houtcome] at hok
    cases hok
  | ok x =>
    rw [houtcome] at hresult
    obtain ⟨rfl, rfl, -⟩ := State.returning.inj hresult
    exact ⟨hreachable, x.1, x.2, hrun, hdepth, hconsumed x.1 rfl nofun⟩

end Calculator.Machine
