import Calculator.Proofs.Localized.Agreement
import Calculator.Proofs.Session.Faults

/-!
# Evaluating in a language

The evaluator once more, with notices instead of faults (specification 4.4). Whatever fails names
the family of its fault and takes the words from the language that the session has at that moment.
What a call of a function fails for comes without words, and the family is found from the message.

* `Localized.run`: a source is parsed in the language of the session and evaluated.
* `Localized.run_eq`: it comes to what `Session.run` does, with the fault in words. Evaluating does
  not change the language, so it is no matter when the words are found.
-/

namespace Calculator

namespace Localized

/-- An action on a session that may end with a notice. -/
abbrev Action := EStateM Notice Session

/-- Ends an action with a notice of a family about a place, in the language of the session. -/
def failAt {α : Type} (kind : FaultKind) (span : Span) (message : Cause) : Action α := do
  let session ← get
  throw ⟨kind, span, message.text session.language, none⟩

/-! ## Operations -/

/-- What an operation on two numbers comes to, which may be NaN. -/
def resultOf (op : BinaryOp) (left right : Number) (span : Span) : Action Number :=
  match op with
  | .add => return left + right
  | .subtract => return left - right
  | .multiply => return left * right
  | .divide =>
    if right.isZero then failAt .domain span .divisionByZero
    else return left / right
  | .modulo =>
    if right.toInteger = 0 then failAt .domain span .moduloByZero
    else return .ofInt (left.toInteger.tmod right.toInteger)
  | .power => return left.pow right

def arithmetic (op : BinaryOp) (left right : Number) (span : Span) : Action Value := do
  let result ← resultOf op left right span
  if result.isNaN then failAt .domain span (.undefinedOperation op.symbol)
  else return .number result

def binary (op : BinaryOp) (left right : Value) (span : Span) : Action Value := do
  match left, right with
  | .number l, .number r => arithmetic op l r span
  | left, right =>
    if op = .add then return Value.concat (← get).places left right
    else failAt .domain span .operandsNotNumbers

def unary (op : UnaryOp) (operand : Value) (span : Span) : Action Value :=
  match op, operand with
  | .negate, .number n => return .number (-n)
  | .factorial, .number n =>
    if (Formula.factorial n).isNaN then failAt .domain span .noFactorial
    else return .number (Formula.factorial n)
  | _, _ => failAt .domain span .operandNotNumber

/-! ## Calls -/

/-- The family of what a call fails for. -/
def callKind : Cause → FaultKind
  | .unknownFunction _ => .naming
  | .wrongArgumentCount .. => .grammatical
  | _ => .domain

/-- Calls a built-in function with values. -/
def callValues (span : Span) (name : String) (args : List Value) : Action Evaluation := do
  let session ← get
  match Builtin.call name args session.toDesk with
  | .error message => failAt (callKind message) span message
  | .ok (returned, desk) =>
    set { session with toDesk := desk }
    match returned with
    | .silent => return .silent
    | .value (.number n) =>
      if n.isNaN then failAt .domain span (.undefinedResult name)
      else return .ofValue (.number n)
    | .value value => return .ofValue value

/-! ## Trees -/

mutual

/-- The value of a tree in a session. -/
def evaluate : Expr → Action Evaluation
  | .number n _ => return .ofValue (.number n)
  | .text s _ => return .ofValue (.ofText s)
  | .name id span => do
    match (← get).bindings.lookup? id with
    | some value => return .ofValue value
    | none => failAt .naming span (.undefinedVariable id)
  | .assign target e _ => do
    let value := (← evaluate e).value
    modify fun session => { session with bindings := session.bindings.set target value }
    return ⟨value, true⟩
  | .binary op left right span => do
    let l := (← evaluate left).value
    let r := (← evaluate right).value
    return .ofValue (← binary op l r span)
  | .unary op operand span => do
    let value := (← evaluate operand).value
    return .ofValue (← unary op value span)
  | .call function args span => do
    match Builtin.find? function with
    | none => failAt .naming span (.unknownFunction function)
    | some builtin =>
      if args.isEmpty && !builtin.task.needsNoArguments then
        failAt .grammatical span (.missingArguments function)
      else callValues span function (← evaluateArgs args)
  | .sequence statements _ => evaluateAll .silent statements

/-- The values of arguments, from the left. -/
def evaluateArgs : List Expr → Action (List Value)
  | [] => return []
  | e :: es => do
    let value := (← evaluate e).value
    let values ← evaluateArgs es
    return value :: values

/-- Evaluates statements in turn. The result is that of the last one with something to show, or
else `result`. -/
def evaluateAll (result : Evaluation) : List Expr → Action Evaluation
  | [] => return result
  | e :: es => do
    let evaluation ← evaluate e
    evaluateAll (if evaluation.isAssignment then result else evaluation) es

end

/-- Reads a source text in the language of the session and evaluates it. -/
def run (source : String) (session : Session) :
    Option (EStateM.Result Notice Session Evaluation) := do
  match ← parse session.language source with
  | .error notice => return .error notice session
  | .ok e => return evaluate e session

/-! ## The same in words -/

section

variable {α β : Type} {language : Language}

/-- What an action came to, in words. -/
def wordedIn (language : Language) :
    EStateM.Result Fault Session α → EStateM.Result Notice Session α
  | .ok a s => .ok a s
  | .error fault s => .error (fault.notice language) s

/-- The session that an action left. -/
def leftBy : EStateM.Result Fault Session α → Session
  | .ok _ s => s
  | .error _ s => s

/-- In a session with the language, the first action comes to what the second one does, in words,
and the session keeps its language. -/
def Words (language : Language) (x : Action α) (y : Calculator.Action α) : Prop :=
  ∀ s : Session, s.language = language →
    x s = wordedIn language (y s) ∧ (leftBy (y s)).language = language

namespace Words

theorem done (a : α) : Words language (pure a) (pure a) := fun _ hs => ⟨rfl, hs⟩

/-- A fault ends both actions; otherwise both go on in a session with the language. -/
theorem bind {x : Action α} {y : Calculator.Action α} {f : α → Action β}
    {g : α → Calculator.Action β} (h : Words language x y)
    (hnext : ∀ a, Words language (f a) (g a)) : Words language (x >>= f) (y >>= g) := by
  intro s hs
  obtain ⟨hx, hlanguage⟩ := h s hs
  show EStateM.bind x f s = wordedIn language (EStateM.bind y g s)
    ∧ (leftBy (EStateM.bind y g s)).language = language
  unfold EStateM.bind
  cases hy : y s with
  | ok a s' =>
    rw [hy] at hx hlanguage
    rw [hx]
    exact hnext a s' hlanguage
  | error fault s' =>
    rw [hy] at hx hlanguage
    rw [hx]
    exact ⟨rfl, hlanguage⟩

theorem get_bind {f : Session → Action α} {g : Session → Calculator.Action α}
    (h : ∀ s : Session, s.language = language → Words language (f s) (g s)) :
    Words language (get >>= f) (get >>= g) :=
  fun s hs => h s hs s hs

theorem set_bind {t : Session} (ht : t.language = language) {f : PUnit → Action α}
    {g : PUnit → Calculator.Action α} (h : Words language (f ⟨⟩) (g ⟨⟩)) :
    Words language (set t >>= f) (set t >>= g) :=
  fun _ _ => h t ht

theorem modify_bind {change : Session → Session} (hchange : ∀ s, (change s).language = s.language)
    {f : PUnit → Action α} {g : PUnit → Calculator.Action α}
    (h : Words language (f ⟨⟩) (g ⟨⟩)) :
    Words language (modify change >>= f) (modify change >>= g) :=
  fun s hs => h (change s) ((hchange s).trans hs)

/-- A failure whose family is that of the cause is the fault in words. -/
theorem failed {kind : FaultKind} (message : Cause) (h : message.kind = kind) (span : Span) :
    Words language (failAt kind span message : Action α) (Calculator.failAt span message) := by
  intro s hs
  subst h hs
  exact ⟨rfl, rfl⟩

/-- What comes behind a failure does not matter. -/
theorem failed_bind {kind : FaultKind} (message : Cause) (h : message.kind = kind) (span : Span)
    (f : α → Action β) :
    Words language (failAt kind span message >>= f) (Calculator.failAt span message) :=
  failed message h span

end Words

/-! ## Operations and calls in words -/

/-- A result that is NaN is a failure on both sides. -/
theorem defined_words (op : BinaryOp) (result : Number) (span : Span) :
    Words language
      (if result.isNaN then failAt .domain span (.undefinedOperation op.symbol)
        else pure (.number result))
      (orFailAt span ((op.defined result).map Value.number)) := by
  unfold BinaryOp.defined
  by_cases h : result.isNaN = true
  · rw [if_pos h, if_pos h]
    exact .failed (.undefinedOperation op.symbol) rfl span
  · rw [if_neg h, if_neg h]
    exact .done _

/-- The two divisions look at the divisor first; the other operations only at their result. -/
theorem arithmetic_words (op : BinaryOp) (l r : Number) (span : Span) :
    Words language (arithmetic op l r span) (orFailAt span ((op.onNumbers l r).map .number)) := by
  cases op with
  | add => exact defined_words .add (l + r) span
  | subtract => exact defined_words .subtract (l - r) span
  | multiply => exact defined_words .multiply (l * r) span
  | power => exact defined_words .power (l.pow r) span
  | divide =>
    simp only [arithmetic, resultOf, BinaryOp.onNumbers]
    by_cases h : r.isZero = true
    · rw [if_pos h, if_pos h]
      exact .failed_bind .divisionByZero rfl span _
    · rw [if_neg h, if_neg h]
      exact defined_words .divide (l / r) span
  | modulo =>
    simp only [arithmetic, resultOf, BinaryOp.onNumbers]
    by_cases h : r.toInteger = 0
    · rw [if_pos h, if_pos h]
      exact .failed_bind .moduloByZero rfl span _
    · rw [if_neg h, if_neg h]
      exact defined_words .modulo _ span

theorem binary_words (op : BinaryOp) (l r : Value) (span : Span) :
    Words language (binary op l r span)
      (get >>= fun s => orFailAt span (op.onValues s.places l r)) := by
  unfold binary BinaryOp.onValues
  split
  case h_1 l r => exact fun s hs => arithmetic_words op l r span s hs
  case h_2 =>
    by_cases h : op = .add
    · simp only [if_pos h]
      exact .get_bind fun _ _ => .done _
    · simp only [if_neg h]
      exact fun s hs => Words.failed .operandsNotNumbers rfl span s hs

theorem unary_words (op : UnaryOp) (v : Value) (span : Span) :
    Words language (unary op v span) (orFailAt span (op.onValue v)) := by
  cases v with
  | text | null => cases op <;> exact .failed .operandNotNumber rfl span
  | number n =>
    cases op with
    | negate => exact .done _
    | factorial =>
      simp only [unary, UnaryOp.onValue, UnaryOp.onNumber]
      by_cases h : (Formula.factorial n).isNaN = true
      · rw [if_pos h, if_pos h]
        exact .failed .noFactorial rfl span
      · rw [if_neg h, if_neg h]
        exact .done _

/-- What a call fails for has the family that the message tells. -/
theorem callKind_of_call {name : String} {args : List Value} {desk : Desk} {cause : Cause}
    (h : Builtin.call name args desk = .error cause) : cause.kind = callKind cause := by
  unfold Builtin.call at h
  cases hfind : Builtin.find? name with
  | none =>
    rw [hfind] at h
    cases h
    rfl
  | some builtin =>
    rw [hfind] at h
    by_cases haccepts : builtin.arity.accepts args.length = true
    · simp only [Arity.check, if_pos haccepts] at h
      have hdomain := Task.kind_of_perform haccepts h
      cases cause <;> first | rfl | cases hdomain
    · simp only [Arity.check, if_neg haccepts] at h
      cases h
      rfl

/-- A call leaves the session the language it had, since functions only touch the desk. -/
theorem callValues_words (span : Span) (name : String) (args : List Value) :
    Words language (callValues span name args) (callAt span name args) := by
  unfold callValues callAt
  refine .get_bind fun session hsession => ?_
  cases hcall : Builtin.call name args session.toDesk with
  | error cause => exact .failed cause (callKind_of_call hcall) span
  | ok result =>
    obtain ⟨returned, desk⟩ := result
    simp only [orFailAt, pure_bind]
    refine Words.set_bind (t := { session with toDesk := desk }) hsession ?_
    cases returned with
    | silent => exact .done _
    | value value =>
      cases value with
      | text | null => exact .done _
      | number n =>
        dsimp only
        split
        · exact .failed (.undefinedResult name) rfl span
        · exact .done _

/-! ## Trees in words -/

mutual

theorem evaluate_words : ∀ e : Expr, Words language (evaluate e) e.evaluate
  | .number n _ => .done _
  | .text s _ => .done _
  | .name id span => by
    rw [evaluate, Expr.evaluate]
    refine .get_bind fun s _ => ?_
    cases s.bindings.lookup? id with
    | some value => exact .done _
    | none => exact .failed (.undefinedVariable id) rfl span
  | .assign target e _ => by
    rw [evaluate, Expr.evaluate]
    refine (evaluate_words e).bind fun x => ?_
    dsimp only
    refine .modify_bind ?_ ?_
    · exact fun _ => rfl
    · exact .done _
  | .binary op left right span => by
    rw [evaluate, Expr.evaluate]
    refine (evaluate_words left).bind fun l => (evaluate_words right).bind fun r => ?_
    exact (binary_words op l.value r.value span).bind fun value => .done _
  | .unary op operand span => by
    rw [evaluate, Expr.evaluate]
    refine (evaluate_words operand).bind fun v => ?_
    exact (unary_words op v.value span).bind fun value => .done _
  | .call function args span => by
    rw [evaluate, Expr.evaluate]
    cases Builtin.find? function with
    | none => exact .failed (.unknownFunction function) rfl span
    | some builtin =>
      dsimp only
      split
      · exact .failed (.missingArguments function) rfl span
      · exact (evaluateArgs_words args).bind fun values => callValues_words span function values
  | .sequence statements _ => by
    rw [evaluate, Expr.evaluate]
    exact evaluateAll_words .silent statements

theorem evaluateArgs_words :
    ∀ es : List Expr, Words language (evaluateArgs es) (Expr.evaluateArgs es)
  | [] => .done _
  | e :: es => by
    rw [evaluateArgs, Expr.evaluateArgs]
    exact (evaluate_words e).bind fun _ => (evaluateArgs_words es).bind fun _ => .done _

theorem evaluateAll_words (result : Evaluation) :
    ∀ es : List Expr, Words language (evaluateAll result es) (Expr.evaluateAll result es)
  | [] => .done _
  | e :: es => by
    rw [evaluateAll, Expr.evaluateAll]
    exact (evaluate_words e).bind fun _ => evaluateAll_words _ es

end

end

/-- **Words on the way are words at the end**, also of a run: it comes to an evaluation, or to the
fault in the words of the session's language. -/
theorem run_eq (source : String) (session : Session) :
    run source session = some (wordedIn session.language (Session.run source session)) := by
  rw [run, parse_eq]
  unfold Session.run parseAction
  cases Expr.parse source with
  | error fault => rfl
  | ok e => exact congrArg some (evaluate_words e session rfl).1

end Localized

end Calculator
