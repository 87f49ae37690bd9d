import Calculator.Proofs.Session.Evaluation

/-!
# Why programs fail

A program that has been read fails only for the values that it meets: an operation has no result on
them, or a variable has none. What does not depend on values is settled before. The scanner takes a
word for a function just if the table has it, the parser counts the arguments of each call, and a
call looks up the name and counts the arguments once more. The table makes these checks agree:

* `Builtin.needsNoArguments_of_accepts`: a function that takes no arguments may be called without.
* `Builtin.kind_of_call`: a call with as many arguments as the function takes fails for their
  values.

`Ends` says how an action can end. A tree fails as one of the trees in it does
(`Expr.evaluate_failsAmong`), and for its values only if its calls are accepted
(`Expr.evaluate_ends`).
-/

namespace Calculator

/-! ## How actions end -/

/-- What the action gives satisfies `Q`, and a fault that it ends with satisfies `R`. -/
def Ends {α : Type} (R : Fault → Prop) (Q : α → Prop) (action : Action α) : Prop :=
  ∀ s, match action s with
    | .ok a _ => Q a
    | .error fault _ => R fault

section

variable {α β : Type} {R : Fault → Prop} {Q : α → Prop} {T : β → Prop}

theorem ends_pure {a : α} (ha : Q a) : Ends R Q (pure a) := fun _ => ha

theorem Ends.bind {action : Action α} {next : α → Action β} (h : Ends R Q action)
    (hnext : ∀ a, Q a → Ends R T (next a)) : Ends R T (action >>= next) := by
  intro s
  have haction := h s
  show match EStateM.bind action next s with
    | .ok b _ => T b
    | .error fault _ => R fault
  unfold EStateM.bind
  cases hrun : action s with
  | ok a s' =>
    rw [hrun] at haction
    exact hnext a haction s'
  | error fault s' =>
    rw [hrun] at haction
    exact haction

theorem ends_get : Ends R (fun _ => True) (get : Action Session) := fun _ => trivial

theorem ends_set (s : Session) : Ends R (fun _ => True) (set s : Action PUnit) := fun _ => trivial

theorem ends_modify (f : Session → Session) : Ends R (fun _ => True) (modify f : Action PUnit) :=
  fun _ => trivial

theorem ends_failAt {span : Span} {cause : Cause} (h : R { cause, span }) :
    Ends R Q (failAt span cause) :=
  fun _ => h

theorem ends_orFailAt {span : Span} {r : Except Cause α} (hok : ∀ a, r = .ok a → Q a)
    (herror : ∀ cause, r = .error cause → R { cause, span }) : Ends R Q (orFailAt span r) := by
  cases r with
  | ok a => exact ends_pure (hok a rfl)
  | error cause => exact ends_failAt (herror cause rfl)

end

/-! ## Operations -/

theorem BinaryOp.kind_of_defined {op : BinaryOp} {result : Number} {cause : Cause}
    (h : op.defined result = .error cause) : cause.kind = .domain := by
  unfold BinaryOp.defined at h
  split at h
  · cases h
    rfl
  · cases h

theorem BinaryOp.kind_of_onNumbers {op : BinaryOp} {l r : Number} {cause : Cause}
    (h : op.onNumbers l r = .error cause) : cause.kind = .domain := by
  cases op with
  | add | subtract | multiply | power => exact kind_of_defined h
  | divide | modulo =>
    simp only [onNumbers] at h
    split at h
    · cases h
      rfl
    · exact kind_of_defined h

theorem BinaryOp.kind_of_onValues {op : BinaryOp} {places : Nat} {l r : Value} {cause : Cause}
    (h : op.onValues places l r = .error cause) : cause.kind = .domain := by
  unfold BinaryOp.onValues at h
  split at h
  case h_1 left right =>
    cases hresult : op.onNumbers left right with
    | error cause' =>
      rw [hresult] at h
      cases h
      exact kind_of_onNumbers hresult
    | ok n => rw [hresult] at h; cases h
  case h_2 =>
    split at h
    · cases h
    · cases h
      rfl

theorem UnaryOp.kind_of_onValue {op : UnaryOp} {v : Value} {cause : Cause}
    (h : op.onValue v = .error cause) : cause.kind = .domain := by
  cases v with
  | text | null =>
    cases h
    rfl
  | number n =>
    cases op with
    | negate => cases h
    | factorial =>
      simp only [onValue, onNumber] at h
      split at h
      · cases h
        rfl
      · cases h

/-! ## Calls -/

/-- With as many arguments as the task takes, only their values can be wrong. -/
theorem Task.kind_of_perform {task : Task} {name : String} {args : List Value} {desk : Desk}
    {cause : Cause} (haccepts : task.arity.accepts args.length = true)
    (h : task.perform name args desk = .error cause) : cause.kind = .domain := by
  unfold Task.perform at h
  split at h
  case h_1 =>
    split at h
    · cases h
    · cases h
      rfl
  case h_2 =>
    split at h
    · cases h
    · cases h
      rfl
  case h_3 => cases h; rfl
  case h_7 => cases h; rfl
  case h_9 => cases h; rfl
  case h_10 => cases h; rfl
  -- arguments of another shape would be more or fewer
  case h_12 _ _ hcompute hprint hclear _ hplaces _ halign _ _ hrepeat hstyle =>
    cases task with
    | compute formula => exact (hcompute formula rfl).elim
    | print => exact (hprint rfl).elim
    | clear => exact (hclear rfl).elim
    | setPlaces =>
      obtain ⟨v, hv⟩ := List.length_eq_one_iff.1 (beq_iff_eq.1 haccepts)
      exact (hplaces v rfl hv).elim
    | style chosen =>
      obtain ⟨v, hv⟩ := List.length_eq_one_iff.1 (beq_iff_eq.1 haccepts)
      exact (hstyle chosen v rfl hv).elim
    | align alignment =>
      obtain ⟨v, w, hvw⟩ := List.length_eq_two.1 (beq_iff_eq.1 haccepts)
      exact (halign alignment v w rfl hvw).elim
    | repeatFirst =>
      obtain ⟨v, w, hvw⟩ := List.length_eq_two.1 (beq_iff_eq.1 haccepts)
      exact (hrepeat v w rfl hvw).elim
  all_goals cases h

/-- With as many arguments as the function takes, a call fails for their values only. -/
theorem Builtin.kind_of_call {name : String} {args : List Value} {desk : Desk} {cause : Cause}
    (htakes : Expr.TakesArguments name args.length)
    (h : Builtin.call name args desk = .error cause) : cause.kind = .domain := by
  obtain ⟨builtin, hfind, haccepts⟩ := htakes
  have hcheck : builtin.arity.check name args.length = .ok () := by
    rw [Arity.check, if_pos haccepts]
  unfold Builtin.call at h
  rw [hfind] at h
  simp only [hcheck] at h
  exact Task.kind_of_perform haccepts h

/-- A function that takes no arguments may be called without. -/
theorem Builtin.needsNoArguments_of_accepts {name : String} {builtin : Builtin}
    (hfind : find? name = some builtin) (haccepts : builtin.arity.accepts 0 = true) :
    builtin.task.needsNoArguments = true := by
  have htable : ∀ f ∈ functions, f.task.arity.accepts 0 = true →
      f.task.needsNoArguments = true := by decide
  rw [arity] at haccepts
  rcases find?_cases hfind with ⟨hmem, -⟩ | ⟨f, hf, -, rfl⟩ | ⟨style, -, rfl⟩
  · exact htable builtin hmem haccepts
  · exact htable f hf haccepts
  · cases haccepts

/-! ## Trees -/

/-- How the root of a tree fails once its parts have values. -/
inductive Expr.Fails : Expr → Fault → Prop
  | name {id : String} {span : Span} :
      Fails (.name id span) { cause := .undefinedVariable id, span }
  | binary {op : BinaryOp} {left right : Expr} {span : Span} {places : Nat} {l r : Value}
      {cause : Cause} (h : op.onValues places l r = .error cause) :
      Fails (.binary op left right span) { cause, span }
  | unary {op : UnaryOp} {operand : Expr} {span : Span} {v : Value} {cause : Cause}
      (h : op.onValue v = .error cause) : Fails (.unary op operand span) { cause, span }
  | unknown {function : String} {args : List Expr} {span : Span}
      (h : Builtin.find? function = none) :
      Fails (.call function args span) { cause := .unknownFunction function, span }
  | missing {function : String} {span : Span} {builtin : Builtin}
      (hfind : Builtin.find? function = some builtin)
      (hneeds : builtin.task.needsNoArguments = false) :
      Fails (.call function [] span) { cause := .missingArguments function, span }
  | call {function : String} {args : List Expr} {span : Span} {values : List Value} {desk : Desk}
      {cause : Cause} (hlength : values.length = args.length)
      (h : Builtin.call function values desk = .error cause) :
      Fails (.call function args span) { cause, span }
  | undefined {function : String} {args : List Expr} {span : Span} :
      Fails (.call function args span) { cause := .undefinedResult function, span }

/-- A tree fails where it stands. -/
theorem Expr.Fails.span_eq {x : Expr} {fault : Fault} (h : x.Fails fault) :
    fault.span = x.span := by
  cases h <;> rfl

/-- The fault is that of one of the trees. -/
def FailsAmong (nodes : List Expr) (fault : Fault) : Prop := ∃ x ∈ nodes, x.Fails fault

section

variable {nodes : List Expr}

theorem callAt_ends {span : Span} {function : String} {args : List Expr} {values : List Value}
    (hmem : .call function args span ∈ nodes) (hlength : values.length = args.length) :
    Ends (FailsAmong nodes) (fun _ => True) (callAt span function values) := by
  refine ends_get.bind fun s _ => ?_
  refine Ends.bind (Q := fun _ => True) (ends_orFailAt (fun _ _ => trivial) fun cause h => ?_)
    fun result _ => ?_
  · exact ⟨_, hmem, .call hlength h⟩
  · refine (ends_set _).bind fun _ _ => ?_
    split
    · exact ends_pure trivial
    · split
      · exact ends_failAt ⟨_, hmem, .undefined⟩
      · exact ends_pure trivial
    · exact ends_pure trivial

mutual

/-- **A tree fails as one of the trees in it does.** -/
theorem Expr.evaluate_failsAmong (e : Expr) (hnodes : e.nodes ⊆ nodes) :
    Ends (FailsAmong nodes) (fun _ => True) e.evaluate := by
  match e with
  | .number .. | .text .. => exact ends_pure trivial
  | .name id span =>
    rw [Expr.evaluate]
    refine ends_get.bind fun s _ => ?_
    cases s.bindings.lookup? id with
    | none => exact ends_failAt ⟨_, hnodes List.mem_cons_self, .name⟩
    | some value => exact ends_pure trivial
  | .assign target value _ =>
    rw [Expr.evaluate]
    refine (value.evaluate_failsAmong (List.subset_of_cons_subset hnodes)).bind fun _ _ => ?_
    exact (ends_modify _).bind fun _ _ => ends_pure trivial
  | .binary op left right span =>
    rw [Expr.evaluate]
    obtain ⟨hleft, hright⟩ := List.append_subset.1 (List.subset_of_cons_subset hnodes)
    refine (left.evaluate_failsAmong hleft).bind fun _ _ => ?_
    refine (right.evaluate_failsAmong hright).bind fun _ _ => ?_
    refine ends_get.bind fun s _ => ?_
    refine Ends.bind (Q := fun _ => True) (ends_orFailAt (fun _ _ => trivial) fun cause h => ?_)
      fun _ _ => ends_pure trivial
    exact ⟨_, hnodes List.mem_cons_self, .binary h⟩
  | .unary op operand span =>
    rw [Expr.evaluate]
    refine (operand.evaluate_failsAmong (List.subset_of_cons_subset hnodes)).bind fun _ _ => ?_
    refine Ends.bind (Q := fun _ => True) (ends_orFailAt (fun _ _ => trivial) fun cause h => ?_)
      fun _ _ => ends_pure trivial
    exact ⟨_, hnodes List.mem_cons_self, .unary h⟩
  | .call function args span =>
    have hmem : .call function args span ∈ nodes := hnodes List.mem_cons_self
    rw [Expr.evaluate]
    cases hfind : Builtin.find? function with
    | none => exact ends_failAt ⟨_, hmem, .unknown hfind⟩
    | some builtin =>
      dsimp only
      split
      case isTrue hmissing =>
        obtain ⟨hempty, hneeds⟩ := Bool.and_eq_true_iff.1 hmissing
        rw [List.isEmpty_iff.1 hempty] at hmem
        exact ends_failAt ⟨_, hmem, .missing hfind (by simpa using hneeds)⟩
      case isFalse =>
        have hvalues := evaluateArgs_failsAmong args (List.subset_of_cons_subset hnodes)
        exact hvalues.bind fun values hlength => callAt_ends hmem hlength
  | .sequence statements _ =>
    rw [Expr.evaluate]
    exact evaluateAll_failsAmong statements (List.subset_of_cons_subset hnodes) .silent

theorem Expr.evaluateArgs_failsAmong (es : List Expr) (hnodes : nodesAll es ⊆ nodes) :
    Ends (FailsAmong nodes) (fun values => values.length = es.length) (evaluateArgs es) := by
  match es with
  | [] => exact ends_pure rfl
  | e :: es =>
    rw [Expr.evaluateArgs]
    obtain ⟨hfirst, hrest⟩ := List.append_subset.1 hnodes
    refine (e.evaluate_failsAmong hfirst).bind fun _ _ => ?_
    refine (evaluateArgs_failsAmong es hrest).bind fun values hlength => ?_
    exact ends_pure (congrArg (· + 1) hlength)

theorem Expr.evaluateAll_failsAmong (es : List Expr) (hnodes : nodesAll es ⊆ nodes)
    (result : Evaluation) :
    Ends (FailsAmong nodes) (fun _ => True) (evaluateAll result es) := by
  match es with
  | [] => exact ends_pure trivial
  | e :: es =>
    rw [Expr.evaluateAll]
    obtain ⟨hfirst, hrest⟩ := List.append_subset.1 hnodes
    exact (e.evaluate_failsAmong hfirst).bind fun _ _ => evaluateAll_failsAmong es hrest _

end

/-! ### Accepted calls -/

/-- A fault that values account for: an operation without a result, or a variable without a value,
which stands among `nodes` where the fault is. -/
def ValueFault (nodes : List Expr) (fault : Fault) : Prop :=
  fault.kind = .domain
    ∨ ∃ id, Expr.name id fault.span ∈ nodes ∧ fault.cause = .undefinedVariable id

/-- A tree fails for values unless it is a call that its function does not take. -/
theorem Expr.Fails.valueFault {x : Expr} {fault : Fault} (h : x.Fails fault) (hmem : x ∈ nodes)
    (htakes : ∀ function args span, x = .call function args span →
      TakesArguments function args.length) : ValueFault nodes fault := by
  cases h with
  | name => exact .inr ⟨_, hmem, rfl⟩
  | binary h => exact .inl (BinaryOp.kind_of_onValues h)
  | unary h => exact .inl (UnaryOp.kind_of_onValue h)
  | unknown hfind =>
    obtain ⟨builtin, hfind', -⟩ := htakes _ _ _ rfl
    rw [hfind] at hfind'
    cases hfind'
  | missing hfind hneeds =>
    -- without arguments the arity has accepted none
    obtain ⟨builtin, hfind', haccepts⟩ := htakes _ _ _ rfl
    rw [hfind] at hfind'
    cases hfind'
    rw [Builtin.needsNoArguments_of_accepts hfind haccepts] at hneeds
    cases hneeds
  | call hlength h => exact .inl (Builtin.kind_of_call (hlength ▸ htakes _ _ _ rfl) h)
  | undefined => exact .inl rfl

/-- **A tree whose calls are accepted fails for values only.** -/
theorem Expr.evaluate_ends (e : Expr) (hnodes : e.nodes ⊆ nodes) (haccepted : e.CallsAccepted) :
    Ends (ValueFault nodes) (fun _ => True) e.evaluate := by
  intro s
  have hends := e.evaluate_failsAmong (List.Subset.refl e.nodes) s
  cases hrun : e.evaluate s with
  | ok => trivial
  | error fault s' =>
    rw [hrun] at hends
    obtain ⟨x, hx, hfails⟩ := hends
    refine hfails.valueFault (hnodes hx) ?_
    rintro function args span rfl
    exact haccepted function args span hx

end

/-! ## Programs -/

namespace Expr

theorem callsAccepted_ofStatements {es : List Expr} (h : ∀ e ∈ es, e.CallsAccepted) :
    (ofStatements es).CallsAccepted := by
  match es with
  | [] => exact (callsAccepted_sequence _ _).2 h
  | [e] => exact h e List.mem_cons_self
  | _ :: _ :: _ => exact (callsAccepted_sequence _ _).2 h

/-- The parser has counted the arguments of every call. -/
theorem callsAccepted_of_parse {source : String} {e : Expr} (h : parse source = .ok e) :
    e.CallsAccepted := by
  obtain ⟨n, es, finish, -, -, haccepted, -, rfl⟩ := derivable_of_parse h
  exact callsAccepted_ofStatements haccepted

/-- **Programs fail for their values only.** In every session the tree of a source has a value, or
an operation in it has no result, or a variable in it is undefined and the fault is where it stands.
Nothing is wrong any more with words, grammar, levels, function names or numbers of arguments. -/
theorem evaluate_fails_for_values {source : String} {e : Expr} (h : parse source = .ok e)
    (s : Session) :
    (∃ evaluation s', e.evaluate s = .ok evaluation s')
    ∨ ∃ fault s', e.evaluate s = .error fault s'
      ∧ (fault.kind = .domain
        ∨ fault.kind = .naming
          ∧ ∃ id, .name id fault.span ∈ e.nodes ∧ fault.cause = .undefinedVariable id)
      ∧ fault.kind ≠ .grammatical ∧ fault.kind ≠ .lexical ∧ fault.kind ≠ .resource
      ∧ ∀ function, fault.cause ≠ .unknownFunction function
        ∧ fault.cause ≠ .missingArguments function
        ∧ ∀ arity, fault.cause ≠ .wrongArgumentCount function arity := by
  have hends := evaluate_ends e (List.Subset.refl e.nodes) (callsAccepted_of_parse h) s
  cases hrun : e.evaluate s with
  | ok evaluation s' => exact .inl ⟨evaluation, s', rfl⟩
  | error fault s' =>
    rw [hrun] at hends
    refine .inr ⟨fault, s', rfl, ?_⟩
    rcases hends with hdomain | ⟨id, hid, hcause⟩
    · have hother (cause : Cause) (hcause : cause.kind ≠ .domain) : fault.cause ≠ cause := by
        rintro rfl
        exact hcause hdomain
      refine ⟨.inl hdomain, by simp [hdomain], by simp [hdomain], by simp [hdomain], fun f => ?_⟩
      exact ⟨hother _ (by simp [Cause.kind]), hother _ (by simp [Cause.kind]),
        fun arity => hother _ (by simp [Cause.kind])⟩
    · have hkind : fault.kind = .naming := by rw [Fault.kind, hcause]; rfl
      refine ⟨.inr ⟨hkind, id, hid, hcause⟩, by simp [hkind], by simp [hkind], by simp [hkind], ?_⟩
      simp [hcause]

/-- One of the arguments of a call is undefined, behind an assignment that stays. -/
theorem evaluate_fails_for_values_undefined : ∃ e s',
    parse "x = 2; max(x, y)!" = .ok e
      ∧ e.evaluate {} = .error ⟨.undefinedVariable "y", ⟨14, 15⟩, none⟩ s'
      ∧ .name "y" ⟨14, 15⟩ ∈ e.nodes := by
  have hfault : ((parse "x = 2; max(x, y)!").toOption.bind fun e => fault? (e.evaluate {}))
      = some (⟨.undefinedVariable "y", ⟨14, 15⟩, none⟩,
        { bindings := ⟨[{ name := "x", value := .number 2 }]⟩ }) := by
    decide +kernel
  cases hparse : parse "x = 2; max(x, y)!" with
  | error fault => rw [hparse] at hfault; cases hfault
  | ok e =>
    rw [hparse] at hfault
    have hrun := eq_error_of_fault? hfault
    refine ⟨e, _, rfl, hrun, ?_⟩
    rcases evaluate_fails_for_values hparse {} with ⟨_, _, hok⟩ | ⟨fault, s', herror, hreason, -⟩
    · rw [hrun] at hok
      cases hok
    · rw [hrun] at herror
      cases herror
      rcases hreason with hdomain | ⟨-, id, hid, hcause⟩
      · cases hdomain
      · cases hcause
        exact hid

end Expr

end Calculator
