import Calculator.Proofs.Parse.Refinement

/-!
# What a fault is about

A program without a tree has one fault, and the place of the fault is taken from what the parser has
before it when it gives up. `FaultAt` lists what that can be: a token that is a fault itself, any
other token, the byte behind the token before where the source ends, and a call from the name of the
function to the parenthesis that closes it.

The parser comes to such a place over tokens that can be followed by others (`Reach`), so a fault or
the end of a source is never passed. Both go through the rules together (`Accounted`), one lemma for
each rule.
-/

namespace Calculator.Tokens

open Calculator.Parser (Tier tooDeep isLast_of_op? isLast_of_eq isLast_of_isSeparator)

/-! ## Places -/

/-- From `ts` one comes to `us` over tokens that are not the last of their source. The token before
stops at `p`, and the one before `us` at `q`. -/
inductive Reach : (p : Nat) → (ts : List Token) → (q : Nat) → (us : List Token) → Prop
  | here {p : Nat} {ts : List Token} : Reach p ts p ts
  | past {p q : Nat} {t : Token} {ts us : List Token} (ht : t.kind.isLast = false)
      (h : Reach t.span.stop ts q us) : Reach p (t :: ts) q us

/-- A fault where the tokens `ts` come next and the token before stops at `p`. Only a token that is
a fault gives a lexical one. -/
inductive FaultAt (p : Nat) : List Token → Fault → Prop
  | lexical {t : Token} {ts : List Token} {fault : Fault} (ht : t.kind = .fault fault.cause)
      (hspan : fault.span = t.span) : FaultAt p (t :: ts) fault
  | token {t : Token} {ts : List Token} {fault : Fault} (hkind : fault.kind ≠ .lexical)
      (hspan : fault.span = t.span) : FaultAt p (t :: ts) fault
  | finish {ts : List Token} {fault : Fault} (hend : atEnd ts = true)
      (hkind : fault.kind ≠ .lexical) (hspan : fault.span = .single p) : FaultAt p ts fault
  | call {t close : Token} {ts : List Token} {fault : Fault} (ht : t.kind.isLast = false)
      (hclose : close.kind.isLast = false) (hmem : close ∈ t :: ts) (hkind : fault.kind ≠ .lexical)
      (hspan : fault.span = t.span.cover close.span) : FaultAt p (t :: ts) fault

/-- The fault is at a place that one comes to. -/
def Blamed (p : Nat) (ts : List Token) (fault : Fault) : Prop :=
  ∃ q us, Reach p ts q us ∧ FaultAt q us fault

section

variable {p q r : Nat} {ts us vs : List Token} {fault : Fault}

/-- One comes from place to place. -/
theorem Reach.trans (h : Reach p ts q us) (h' : Reach q us r vs) : Reach p ts r vs := by
  induction h with
  | here => exact h'
  | past ht _ ih => exact .past ht (ih h')

/-- What comes next later on is a last part of what came next before. -/
theorem Reach.suffix (h : Reach p ts q us) : us <:+ ts := by
  induction h with
  | here => exact List.suffix_rfl
  | past _ _ ih => exact ih.trans (List.suffix_cons _ _)

theorem FaultAt.blamed (h : FaultAt p ts fault) : Blamed p ts fault := ⟨p, ts, .here, h⟩

/-- A fault at a place further on is a fault from here on. -/
theorem Blamed.after (h : Blamed q us fault) (hreach : Reach p ts q us) : Blamed p ts fault := by
  obtain ⟨r, vs, hreach', hfault⟩ := h
  exact ⟨r, vs, hreach.trans hreach', hfault⟩

/-- Advice does not change what a fault is about. -/
theorem Blamed.advise (h : Blamed p ts fault) (advice : Option Advice) :
    Blamed p ts { fault with advice } := by
  obtain ⟨q, us, hreach, hfault⟩ := h
  refine ⟨q, us, hreach, ?_⟩
  cases hfault with
  | lexical ht hspan => exact .lexical ht hspan
  | token hkind hspan => exact .token hkind hspan
  | finish hend hkind hspan => exact .finish hend hkind hspan
  | call ht hclose hmem hkind hspan => exact .call ht hclose hmem hkind hspan

end

/-! ## Readings that are accounted for -/

section

variable {α β : Type} {m n p q : Nat} {ts us : List Token}

/-- What has been read ends at a place that one comes to, or a fault is at such a place. -/
inductive Accounted (p : Nat) (ts : List Token) : Reading α n → Prop
  | done {a : α} {us : List Token} {q : Nat} {h : us.length < n} (hreach : Reach p ts q us) :
      Accounted p ts (.ok ⟨a, us, q, h⟩)
  | failed {fault : Fault} (h : Blamed p ts fault) : Accounted p ts (.error fault)

/-- Going on from where a rule ends is accounted for if each part is. -/
theorem Accounted.bind {x : Reading α m} (h : Accounted p ts x) {f : Read α m → Reading β n}
    (hnext : ∀ a us q (hu : us.length < m), Reach p ts q us → Accounted p ts (f ⟨a, us, q, hu⟩)) :
    Accounted p ts (x >>= f) := by
  cases h with
  | done hreach => exact hnext _ _ _ _ hreach
  | failed h => exact .failed h

/-- A rule that starts further on is accounted for from here on. -/
theorem Accounted.after {x : Reading α n} (h : Accounted q us x) (hreach : Reach p ts q us) :
    Accounted p ts x := by
  cases h with
  | done hreach' => exact .done (hreach.trans hreach')
  | failed h => exact .failed (h.after hreach)

theorem Accounted.advise {x : Reading α n} (h : Accounted p ts x) (advice : Advice) :
    Accounted p ts (Tokens.advise advice x) := by
  cases h with
  | done hreach => exact .done hreach
  | failed h => exact .failed (h.advise (some advice))

end

/-! ## Single tokens -/

/-- A missing token is missed at the token that comes next. -/
theorem missing_blamed {cause : Cause} (hcause : cause.kind ≠ .lexical) (p : Nat)
    (ts : List Token) : Blamed p ts (missing cause p ts) := by
  cases ts with
  | nil => exact FaultAt.blamed (.finish rfl hcause rfl)
  | cons t ts =>
    rw [missing]
    cases hkind : t.kind with
    | fault lexical => exact FaultAt.blamed (.lexical hkind rfl)
    | finish => exact FaultAt.blamed (.finish (by simp [atEnd, hkind]) hcause rfl)
    | _ => exact FaultAt.blamed (.token hcause rfl)

/-- A level too many is blamed on the token that comes next. -/
theorem tooDeep_blamed (p : Nat) (ts : List Token) : Blamed p ts (tooDeep (nextSpan p ts)) := by
  cases ts with
  | nil => exact FaultAt.blamed (.finish rfl (by rintro ⟨⟩) rfl)
  | cons t ts => exact FaultAt.blamed (.token (by rintro ⟨⟩) rfl)

/-- A token that is found is passed. -/
theorem take?_reach (looked : TokenKind → Prop) [DecidablePred looked]
    (hlooked : ∀ kind, looked kind → kind.isLast = false) (p : Nat) (ts : List Token) :
    (∃ t us h, take? looked ts = some ⟨t, us, t.span.stop, h⟩ ∧ looked t.kind ∧ t ∈ ts
        ∧ Reach p ts t.span.stop us)
      ∨ take? looked ts = none := by
  cases ts with
  | nil => exact .inr rfl
  | cons t ts =>
    by_cases h : looked t.kind
    · left
      refine ⟨t, ts, Nat.lt_succ_self _, by rw [take?, if_pos h], h, List.mem_cons_self, ?_⟩
      exact .past (hlooked _ h) .here
    · exact .inr (by rw [take?, if_neg h])

/-- An operator that is found is passed, unless it stands too deep. -/
theorem takeOp?_reach (tier : Tier) (p : Nat) (ts : List Token) :
    (∃ op t us h, takeOp? tier ts = some (op, ⟨t, us, t.span.stop, h⟩)
        ∧ Blamed p ts (tooDeep t.span) ∧ Reach p ts t.span.stop us)
      ∨ takeOp? tier ts = none := by
  cases ts with
  | nil => exact .inr rfl
  | cons t ts =>
    cases hop : tier.op? t.kind with
    | none => exact .inr (by rw [takeOp?, hop])
    | some op =>
      left
      refine ⟨op, t, ts, Nat.lt_succ_self _, by rw [takeOp?, hop], ?_, ?_⟩
      · exact FaultAt.blamed (.token (by rintro ⟨⟩) rfl)
      · exact .past (isLast_of_op? hop) .here

/-- A token of a kind is found and passed, or it is missed. -/
theorem token_reach (kind : TokenKind) (hkind : kind.isLast = false) (cause : Cause)
    (hcause : cause.kind ≠ .lexical) (p : Nat) (ts : List Token) :
    (∃ t us h, token kind cause p ts = .ok ⟨t, us, t.span.stop, h⟩ ∧ t.kind = kind ∧ t ∈ ts
        ∧ Reach p ts t.span.stop us)
      ∨ ∃ fault, token kind cause p ts = .error fault ∧ Blamed p ts fault := by
  have hlooked : ∀ k, k = kind → k.isLast = false := fun _ heq => isLast_of_eq heq hkind
  rw [token]
  obtain ⟨t, us, h, htake, ht, hmem, hreach⟩ | htake := take?_reach (· = kind) hlooked p ts
  · rw [htake]
    exact .inl ⟨t, us, h, rfl, ht, hmem, hreach⟩
  · rw [htake]
    exact .inr ⟨_, rfl, missing_blamed hcause p ts⟩

theorem token_accounted (kind : TokenKind) (hkind : kind.isLast = false) (cause : Cause)
    (hcause : cause.kind ≠ .lexical) (p : Nat) (ts : List Token) :
    Accounted p ts (token kind cause p ts) := by
  obtain ⟨t, us, h, htoken, -, -, hreach⟩ | ⟨fault, htoken, hfault⟩ :=
    token_reach kind hkind cause hcause p ts
  · rw [htoken]
    exact .done hreach
  · rw [htoken]
    exact .failed hfault

/-- A call has as many arguments as its function takes, or it is a fault as a whole. -/
theorem checkCall_eq (name : String) (args : List Expr) (span : Span) :
    checkCall name args span = .ok (.call name args span)
      ∨ ∃ fault, checkCall name args span = .error fault ∧ fault.kind ≠ .lexical
        ∧ fault.span = span := by
  unfold checkCall
  split
  · split
    · exact .inl rfl
    · exact .inr ⟨_, rfl, (by rintro ⟨⟩), rfl⟩
  · exact .inl rfl

/-! ## Rules -/

mutual

/-- Every rule accounts for what it comes to. The theorems follow the rules, with the measure that
makes them end. -/
theorem expression_accounted (depth p : Nat) (ts : List Token) :
    Accounted p ts (expression depth p ts) := by
  rw [expression]
  split
  · exact assignment_accounted (depth + 1) p ts
  · exact .failed (tooDeep_blamed p ts)
termination_by 11 * ts.length + 9

theorem assignment_accounted (depth p : Nat) (ts : List Token) :
    Accounted p ts (assignment depth p ts) := by
  have hsum := chain_accounted .sum depth p ts
  cases ts with
  | nil =>
    rw [assignment]
    exact hsum
  | cons t ts =>
    rw [assignment]
    obtain ⟨sign, us, hu, htake, -, -, hreach⟩ | htake :=
      take?_reach (· = .equal) (fun _ h => isLast_of_eq h rfl) t.span.stop ts
    · rw [htake]
      cases hkind : t.kind with
      | identifier target =>
        have hreach' : Reach p (t :: ts) sign.span.stop us := .past (isLast_of_eq hkind rfl) hreach
        refine ((expression_accounted depth _ us).after hreach').bind fun _ _ _ _ hreach => ?_
        exact .done hreach
      | _ => exact hsum
    · rw [htake]
      cases t.kind <;> exact hsum
termination_by 11 * ts.length + 8
decreasing_by all_goals simp only [List.length_cons, Tier.looseness]; omega

/-- A chain is accounted for by its operands and operators. -/
theorem chain_accounted (tier : Tier) (depth p : Nat) (ts : List Token) :
    Accounted p ts (chain tier depth p ts) := by
  rw [chain]
  refine (operand_accounted tier depth p ts).bind fun left us q _ hreach => ?_
  refine ((tail_accounted tier depth left q us).after hreach).bind fun _ _ _ _ hreach => ?_
  exact .done hreach
termination_by 11 * ts.length + 5 + tier.looseness
decreasing_by all_goals omega

theorem tail_accounted (tier : Tier) (depth : Nat) (left : Expr) (p : Nat) (ts : List Token) :
    Accounted p ts (tail tier depth left p ts) := by
  rw [tail]
  obtain ⟨op, sign, us, hu, htake, hdeep, hreach⟩ | htake := takeOp?_reach tier p ts
  · rw [htake]
    dsimp only
    split
    · refine ((operand_accounted tier (depth + 1) _ us).after hreach).bind
        fun right vs q _ hreach => ?_
      refine ((tail_accounted tier (depth + 1) _ q vs).after hreach).bind fun _ _ _ _ hreach => ?_
      exact .done hreach
    · exact .failed hdeep
  · rw [htake]
    exact .done .here
termination_by 11 * ts.length
decreasing_by
  all_goals
    have := tier.looseness_le
    omega

theorem operand_accounted (tier : Tier) (depth p : Nat) (ts : List Token) :
    Accounted p ts (operand tier depth p ts) := by
  cases tier with
  | sum =>
    rw [operand]
    exact chain_accounted .product depth p ts
  | product =>
    rw [operand]
    exact factor_accounted depth p ts
termination_by 11 * ts.length + 4 + tier.looseness
decreasing_by all_goals simp only [Tier.looseness]; omega

/-- An exclamation mark is passed where it is found. -/
theorem factor_accounted (depth p : Nat) (ts : List Token) :
    Accounted p ts (factor depth p ts) := by
  rw [factor]
  refine (power_accounted depth p ts).bind fun _ us q _ hreach => ?_
  dsimp only
  obtain ⟨_, _, _, htake, -, -, hreach'⟩ | htake :=
    take?_reach (· = .bang) (fun _ h => isLast_of_eq h rfl) q us
  · rw [htake]
    exact .done (hreach.trans hreach')
  · rw [htake]
    exact .done hreach
termination_by 11 * ts.length + 3
decreasing_by omega

/-- A caret is passed, and what is wrong with the exponent is further on. -/
theorem power_accounted (depth p : Nat) (ts : List Token) :
    Accounted p ts (power depth p ts) := by
  rw [power]
  refine (atom_accounted depth p ts).bind fun _ us q _ hreach => ?_
  dsimp only
  obtain ⟨_, vs, _, htake, -, -, hreach'⟩ | htake :=
    take?_reach (· = .caret) (fun _ h => isLast_of_eq h rfl) q us
  · rw [htake]
    dsimp only
    split
    · refine ((power_accounted (depth + 1) _ vs).after (hreach.trans hreach')).bind
        fun _ _ _ _ hreach => ?_
      exact .done hreach
    · exact .failed ((tooDeep_blamed _ vs).after (hreach.trans hreach'))
  · rw [htake]
    exact .done hreach
termination_by 11 * ts.length + 2
decreasing_by all_goals omega

/-- Where no atom can start, the token that comes next is blamed. -/
theorem atom_accounted (depth p : Nat) (ts : List Token) :
    Accounted p ts (atom depth p ts) := by
  cases ts with
  | nil =>
    rw [atom]
    exact .failed (FaultAt.blamed (.finish rfl (by rintro ⟨⟩) rfl))
  | cons t ts =>
    obtain ⟨kind, lexeme, span⟩ := t
    rw [atom]
    have hpast (hkind : kind.isLast = false) :
        Reach p (⟨kind, lexeme, span⟩ :: ts) span.stop ts := .past hkind .here
    cases kind with
    | number | text => exact .done (hpast rfl)
    | identifier id =>
      dsimp only
      split
      -- a parenthesis behind a variable is looked at and not passed
      · exact .failed (FaultAt.blamed (.token (by rintro ⟨⟩) rfl))
      · exact .done (hpast rfl)
    | function name =>
      refine (call_accounted name ⟨_, lexeme, span⟩ rfl depth p ts).bind fun _ _ _ _ hreach => ?_
      exact .done hreach
    | opening =>
      refine ((expression_accounted depth _ ts).after (hpast rfl)).bind fun _ us q _ hreach => ?_
      have hclosing := token_accounted .closing rfl .missingClosing (by rintro ⟨⟩) q us
      refine ((hclosing.advise _).after hreach).bind fun _ _ _ _ hreach => ?_
      exact .done hreach
    | minus =>
      dsimp only
      split
      · refine ((atom_accounted (depth + 1) _ ts).after (hpast rfl)).bind fun _ _ _ _ hreach => ?_
        exact .done hreach
      · exact .failed ((tooDeep_blamed _ ts).after (hpast rfl))
    | fault cause => exact .failed (FaultAt.blamed (.lexical rfl rfl))
    | finish => exact .failed (FaultAt.blamed (.finish rfl (by rintro ⟨⟩) rfl))
    | _ => exact .failed (FaultAt.blamed (.token (by rintro ⟨⟩) rfl))
termination_by 11 * ts.length + 1
decreasing_by all_goals simp only [List.length_cons]; omega

/-- A call is accounted for from the name of the function on, which a fault in the number of
arguments goes back to. -/
theorem call_accounted (name : String) (t : Token) (ht : t.kind.isLast = false) (depth p : Nat)
    (ts : List Token) : Accounted p (t :: ts) (call name t.span depth t.span.stop ts) := by
  have hpast : Reach p (t :: ts) t.span.stop ts := .past ht .here
  rw [call]
  have hopening := token_accounted .opening rfl (.missingOpeningAfter name) (by rintro ⟨⟩)
    t.span.stop ts
  refine (hopening.after hpast).bind fun _ us q _ hreach => ?_
  refine ((arguments_accounted depth q us).after hreach).bind fun args vs r _ hreach => ?_
  dsimp only
  obtain ⟨close, ws, _, hclosing, hkind, hmem, hreach'⟩ | ⟨fault, hclosing, hfault⟩ :=
    token_reach .closing rfl (.missingClosingAfterArguments name) (by rintro ⟨⟩) r vs
  · simp only [hclosing, bind, Except.bind]
    obtain hcheck | ⟨fault, hcheck, hother, hspan⟩ :=
      checkCall_eq name args (t.span.cover close.span)
    · rw [hcheck]
      exact .done (hreach.trans hreach')
    · rw [hcheck]
      have hclose : close.kind.isLast = false := isLast_of_eq hkind rfl
      exact .failed (FaultAt.blamed (.call ht hclose (hreach.suffix.subset hmem) hother hspan))
  · rw [hclosing]
    exact .failed (hfault.after hreach)
termination_by 11 * ts.length + 1
decreasing_by omega

/-- No argument, or a list of them. -/
theorem arguments_accounted (depth p : Nat) (ts : List Token) :
    Accounted p ts (arguments depth p ts) := by
  rw [arguments]
  split
  · exact .done .here
  · exact (listed_accounted depth p ts).bind fun _ _ _ _ hreach => .done hreach
termination_by 11 * ts.length + 11
decreasing_by omega

theorem listed_accounted (depth p : Nat) (ts : List Token) :
    Accounted p ts (listed depth p ts) := by
  rw [listed]
  refine (expression_accounted depth p ts).bind fun _ us q _ hreach => ?_
  dsimp only
  obtain ⟨_, vs, _, htake, -, -, hreach'⟩ | htake :=
    take?_reach (· = .comma) (fun _ h => isLast_of_eq h rfl) q us
  · rw [htake]
    refine ((listed_accounted depth _ vs).after (hreach.trans hreach')).bind
      fun _ _ _ _ hreach => ?_
    exact .done hreach
  · rw [htake]
    exact .done hreach
termination_by 11 * ts.length + 10
decreasing_by all_goals omega

end

/-! ## Programs -/

/-- Separators are passed. -/
theorem skipSeparators_reach (p : Nat) (ts : List Token) :
    Reach p ts (skipSeparators p ts).previousEnd (skipSeparators p ts).tokens := by
  rw [skipSeparators]
  obtain ⟨t, us, _, htake, -, -, hreach⟩ | htake :=
    take?_reach (·.isSeparator = true) (fun _ => isLast_of_isSeparator) p ts
  · rw [htake]
    exact hreach.trans (skipSeparators_reach _ us)
  · rw [htake]
    exact .here
termination_by ts.length

/-- The statements of a program up to where no separator follows. -/
theorem statements_accounted (depth p : Nat) (ts : List Token) :
    Accounted p ts (statements depth p ts) := by
  have hskip := skipSeparators_reach p ts
  rw [statements]
  generalize skipSeparators p ts = read at hskip
  obtain ⟨_, us, q, hu⟩ := read
  dsimp only at hskip ⊢
  split
  · exact .done hskip
  · refine ((expression_accounted depth q us).after hskip).bind fun _ vs r _ hreach => ?_
    dsimp only
    obtain ⟨_, ws, _, htake, -, -, hreach'⟩ | htake :=
      take?_reach (·.isSeparator = true) (fun _ => isLast_of_isSeparator) r vs
    · rw [htake]
      refine ((statements_accounted depth _ ws).after (hreach.trans hreach')).bind
        fun _ _ _ _ hreach => ?_
      exact .done hreach
    · rw [htake]
      exact .done hreach
termination_by ts.length
decreasing_by omega

/-- What stands where the source should end is the token that comes next. -/
theorem endFault?_blamed {p : Nat} {ts : List Token} {fault : Fault}
    (h : endFault? ts = some fault) : Blamed p ts fault := by
  cases ts with
  | nil => cases h
  | cons t ts =>
    rw [endFault?] at h
    cases hkind : t.kind with
    | finish => rw [hkind] at h; cases h
    | fault cause =>
      rw [hkind] at h
      cases h
      exact FaultAt.blamed (.lexical hkind rfl)
    | _ =>
      rw [hkind] at h
      cases h
      exact FaultAt.blamed (.token (by rintro ⟨⟩) rfl)

/-- **A fault is at a place that the parser comes to.** -/
theorem parse_blamed {ts : List Token} {fault : Fault} (h : parse ts = .error fault) :
    Blamed 0 ts fault := by
  have hstatements := statements_accounted 0 0 ts
  rw [parse] at h
  generalize statements 0 0 ts = reading at hstatements h
  cases hstatements with
  | failed hfault =>
    cases h
    exact hfault
  | @done es us q _ hreach =>
    simp only [bind, Except.bind] at h
    cases hend : endFault? us with
    | none => rw [hend] at h; cases h
    | some fault' =>
      rw [hend] at h
      cases h
      exact (endFault?_blamed hend).after hreach

end Calculator.Tokens
