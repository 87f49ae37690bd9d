import Calculator.Proofs.Parse.Refinement
import Calculator.Proofs.Token.Spaced
import Calculator.Proofs.Tree

/-!
# Places decide nothing

The rules of the grammar look at what tokens are and never at where they stand: a span goes into a
tree or a fault and has no other use. Two lists of the same tokens at other places are read alike,
as the same tree at other places or as the same fault at another place (`Tokens.parse_alike`). The
relation goes through the rules one by one, on the list of tokens, where there are no positions to
come back to.

A source and the text of its lexemes with single spaces between them have such lists, so layout
does not matter to the tree or the fault of a source (`Expr.parse_spaced`).
-/

namespace Calculator

/-- One token, at two places. -/
def Token.SameButSpan (t u : Token) : Prop := t.unplaced = u.unplaced

theorem Token.SameButSpan.kind {t u : Token} (h : t.SameButSpan u) : t.kind = u.kind :=
  congrArg Prod.fst h

/-- One tree, at other places. -/
def Expr.SameButSpans (e e' : Expr) : Prop := e.Matches (fun _ _ => True) Eq e'

/-- The trees of two lists are the same at other places. -/
def Expr.AllSameButSpans (es es' : List Expr) : Prop := AllMatch (fun _ _ => True) Eq es es'

/-- One fault, at two places. -/
structure Fault.SameButSpan (f g : Fault) : Prop where
  cause : f.cause = g.cause
  advice : f.advice = g.advice

/-- Lists of the same trees have the same length. -/
theorem Expr.AllSameButSpans.length_eq {es es' : List Expr} (h : AllSameButSpans es es') :
    es.length = es'.length := by
  induction es generalizing es' with
  | nil => cases h; rfl
  | cons e es ih =>
    cases h with
    | cons _ hes => rw [List.length_cons, List.length_cons, ih hes]

/-- The same statements make the same program. -/
theorem Expr.sameButSpans_ofStatements {es es' : List Expr} (h : AllSameButSpans es es') :
    (ofStatements es).SameButSpans (ofStatements es') := by
  match h with
  | .nil => exact .sequence .nil trivial
  | .cons he .nil => exact he
  | .cons he (.cons he' hes) => exact .sequence (.cons he (.cons he' hes)) trivial

namespace Tokens

open Calculator.Parser (Tier tooDeep)

/-- The same tokens, at other places. -/
abbrev SameTokens : List Token → List Token → Prop := List.Forall₂ Token.SameButSpan

/-! ## Readings that are alike -/

section

variable {α β γ δ : Type} {m n m' n' : Nat} {R : α → β → Prop} {T : γ → δ → Prop}

/-- Both have read values that `R` relates and leave the same tokens at other places, or both have
failed with one fault at two places. -/
inductive ReadAlike (R : α → β → Prop) : Reading α m → Reading β n → Prop
  | done {a : α} {b : β} {ts us : List Token} {p q : Nat} {ht : ts.length < m} {hu : us.length < n}
      (hvalue : R a b) (htokens : SameTokens ts us) :
      ReadAlike R (.ok ⟨a, ts, p, ht⟩) (.ok ⟨b, us, q, hu⟩)
  | failed {f g : Fault} (h : f.SameButSpan g) : ReadAlike R (.error f) (.error g)

/-- Going on is alike if it starts alike and goes on alike from the same tokens. -/
theorem ReadAlike.bind {x : Reading α m} {y : Reading β n} (h : ReadAlike R x y)
    {f : Read α m → Reading γ m'} {g : Read β n → Reading δ n'}
    (hnext : ∀ a b ts us p q (ht : ts.length < m) (hu : us.length < n), R a b → SameTokens ts us →
      ReadAlike T (f ⟨a, ts, p, ht⟩) (g ⟨b, us, q, hu⟩)) :
    ReadAlike T (x >>= f) (y >>= g) := by
  cases h with
  | done hvalue htokens => exact hnext _ _ _ _ _ _ _ _ hvalue htokens
  | failed h => exact .failed h

theorem ReadAlike.advise {x : Reading α m} {y : Reading β n} (h : ReadAlike R x y)
    (advice : Advice) : ReadAlike R (Tokens.advise advice x) (Tokens.advise advice y) := by
  cases h with
  | done hvalue htokens => exact .done hvalue htokens
  | failed h => exact .failed ⟨h.cause, rfl⟩

end

/-! ## Single tokens -/

variable {ts us : List Token}

/-- One cause at two places. -/
theorem failed_alike {α β : Type} {m n : Nat} {R : α → β → Prop} (cause : Cause) (a b : Span) :
    ReadAlike R (.error { cause, span := a } : Reading α m)
      (.error { cause, span := b } : Reading β n) :=
  .failed ⟨rfl, rfl⟩

/-- A token is found in both lists or in neither. -/
theorem take?_alike (looked : TokenKind → Prop) [DecidablePred looked] (h : SameTokens ts us) :
    (∃ t u ts' us' ht hu, take? looked ts = some ⟨t, ts', t.span.stop, ht⟩
        ∧ take? looked us = some ⟨u, us', u.span.stop, hu⟩ ∧ SameTokens ts' us')
      ∨ take? looked ts = none ∧ take? looked us = none := by
  cases h with
  | nil => exact .inr ⟨rfl, rfl⟩
  | @cons t u ts us htu hrest =>
    by_cases hlooked : looked u.kind
    · left
      refine ⟨t, u, ts, us, Nat.lt_succ_self _, Nat.lt_succ_self _, ?_, ?_, hrest⟩
      · rw [take?, htu.kind, if_pos hlooked]
      · rw [take?, if_pos hlooked]
    · right
      exact ⟨by rw [take?, htu.kind, if_neg hlooked], by rw [take?, if_neg hlooked]⟩

/-- The same operator is taken, or none in both. -/
theorem takeOp?_alike (tier : Tier) (h : SameTokens ts us) :
    (∃ op t u ts' us' ht hu, takeOp? tier ts = some (op, ⟨t, ts', t.span.stop, ht⟩)
        ∧ takeOp? tier us = some (op, ⟨u, us', u.span.stop, hu⟩) ∧ SameTokens ts' us')
      ∨ takeOp? tier ts = none ∧ takeOp? tier us = none := by
  cases h with
  | nil => exact .inr ⟨rfl, rfl⟩
  | @cons t u ts us htu hrest =>
    cases hop : tier.op? u.kind with
    | some op =>
      left
      refine ⟨op, t, u, ts, us, Nat.lt_succ_self _, Nat.lt_succ_self _, ?_, ?_, hrest⟩
      · rw [takeOp?, htu.kind, hop]
      · rw [takeOp?, hop]
    | none =>
      right
      rw [takeOp?, takeOp?, htu.kind, hop]
      exact ⟨rfl, rfl⟩

theorem missing_alike (cause : Cause) (p q : Nat) (h : SameTokens ts us) :
    (missing cause p ts).SameButSpan (missing cause q us) := by
  cases h with
  | nil => exact ⟨rfl, rfl⟩
  | @cons t u ts us htu _ =>
    rw [missing, missing, htu.kind]
    cases u.kind <;> exact ⟨rfl, rfl⟩

/-- The same token is found, or missed in both. -/
theorem token_alike (kind : TokenKind) (cause : Cause) (p q : Nat) (h : SameTokens ts us) :
    ReadAlike (fun _ _ => True) (token kind cause p ts) (token kind cause q us) := by
  rw [token, token]
  obtain ⟨t, u, ts', us', ht, hu, htake, htake', hrest⟩ | ⟨htake, htake'⟩ :=
    take?_alike (· = kind) h
  · rw [htake, htake']
    exact .done trivial hrest
  · rw [htake, htake']
    exact .failed (missing_alike cause p q h)

/-- A call is checked for its name and number of arguments, and both are the same. -/
theorem checkCall_alike (name : String) {args args' : List Expr}
    (hargs : Expr.AllSameButSpans args args') (a b : Span) {ts us : List Token}
    (hrest : SameTokens ts us) {m n p q : Nat} (ht : ts.length < m) (hu : us.length < n) :
    ReadAlike Expr.SameButSpans
      (checkCall name args a >>= fun e => (.ok ⟨e, ts, p, ht⟩ : Reading Expr m))
      (checkCall name args' b >>= fun e => (.ok ⟨e, us, q, hu⟩ : Reading Expr n)) := by
  have hcall : (Expr.call name args a).SameButSpans (.call name args' b) := .call rfl hargs trivial
  rw [checkCall, checkCall, hargs.length_eq]
  cases Builtin.find? name with
  | none => exact .done hcall hrest
  | some builtin =>
    dsimp only
    split
    · exact .done hcall hrest
    · exact failed_alike _ _ _

/-! ## Rules -/

mutual

/-- Every rule reads the same tokens alike. The theorems follow the rules, with the measure that
makes them end. -/
theorem expression_alike {ts us : List Token} (h : SameTokens ts us) (depth p q : Nat) :
    ReadAlike Expr.SameButSpans (expression depth p ts) (expression depth q us) := by
  rw [expression, expression]
  split
  · exact assignment_alike h (depth + 1) p q
  · exact failed_alike _ _ _
termination_by 11 * ts.length + 9

theorem assignment_alike {ts us : List Token} (h : SameTokens ts us) (depth p q : Nat) :
    ReadAlike Expr.SameButSpans (assignment depth p ts) (assignment depth q us) := by
  have hsum := chain_alike .sum h depth p q
  cases h with
  | nil =>
    rw [assignment, assignment]
    exact hsum
  | @cons t u ts us htu hrest =>
    rw [assignment, assignment, htu.kind]
    obtain ⟨_, _, ts', us', ht, hu, htake, htake', hrest'⟩ | ⟨htake, htake'⟩ :=
      take?_alike (· = .equal) hrest
    · rw [htake, htake']
      cases u.kind with
      | identifier target =>
        refine (expression_alike hrest' depth _ _).bind fun e e' _ _ _ _ _ _ he htokens => ?_
        exact .done (.assign he trivial) htokens
      | _ => exact hsum
    · rw [htake, htake']
      cases u.kind <;> exact hsum
termination_by 11 * ts.length + 8
decreasing_by all_goals simp only [List.length_cons, Tier.looseness]; omega

/-- A chain is alike if its operands and operators are. -/
theorem chain_alike (tier : Tier) {ts us : List Token} (h : SameTokens ts us) (depth p q : Nat) :
    ReadAlike Expr.SameButSpans (chain tier depth p ts) (chain tier depth q us) := by
  rw [chain, chain]
  refine (operand_alike tier h depth p q).bind fun l l' _ _ _ _ _ _ hl htokens => ?_
  refine (tail_alike tier htokens depth hl _ _).bind fun e e' _ _ _ _ _ _ he htokens => ?_
  exact .done he htokens
termination_by 11 * ts.length + 5 + tier.looseness
decreasing_by all_goals omega

/-- What was read so far may differ in places. -/
theorem tail_alike (tier : Tier) {ts us : List Token} (h : SameTokens ts us) (depth : Nat)
    {l l' : Expr} (hl : l.SameButSpans l') (p q : Nat) :
    ReadAlike Expr.SameButSpans (tail tier depth l p ts) (tail tier depth l' q us) := by
  rw [tail, tail]
  obtain ⟨op, _, _, ts', us', ht, hu, htake, htake', hrest⟩ | ⟨htake, htake'⟩ :=
    takeOp?_alike tier h
  · rw [htake, htake']
    dsimp only
    split
    · refine (operand_alike tier hrest (depth + 1) _ _).bind fun r r' _ _ _ _ _ _ hr htokens => ?_
      refine (tail_alike tier htokens (depth + 1) (.binary hl hr trivial) _ _).bind
        fun e e' _ _ _ _ _ _ he htokens => ?_
      exact .done he htokens
    · exact failed_alike _ _ _
  · rw [htake, htake']
    exact .done hl h
termination_by 11 * ts.length
decreasing_by
  all_goals
    have := tier.looseness_le
    omega

theorem operand_alike (tier : Tier) {ts us : List Token} (h : SameTokens ts us) (depth p q : Nat) :
    ReadAlike Expr.SameButSpans (operand tier depth p ts) (operand tier depth q us) := by
  cases tier with
  | sum =>
    rw [operand, operand]
    exact chain_alike .product h depth p q
  | product =>
    rw [operand, operand]
    exact factor_alike h depth p q
termination_by 11 * ts.length + 4 + tier.looseness
decreasing_by all_goals simp only [Tier.looseness]; omega

theorem factor_alike {ts us : List Token} (h : SameTokens ts us) (depth p q : Nat) :
    ReadAlike Expr.SameButSpans (factor depth p ts) (factor depth q us) := by
  rw [factor, factor]
  refine (power_alike h depth p q).bind fun e e' _ _ _ _ _ _ he htokens => ?_
  dsimp only
  obtain ⟨_, _, _, _, _, _, htake, htake', hrest⟩ | ⟨htake, htake'⟩ :=
    take?_alike (· = .bang) htokens
  · rw [htake, htake']
    exact .done (.unary he trivial) hrest
  · rw [htake, htake']
    exact .done he htokens
termination_by 11 * ts.length + 3
decreasing_by omega

/-- An exponent is read one level deeper on both sides. -/
theorem power_alike {ts us : List Token} (h : SameTokens ts us) (depth p q : Nat) :
    ReadAlike Expr.SameButSpans (power depth p ts) (power depth q us) := by
  rw [power, power]
  refine (atom_alike h depth p q).bind fun base base' _ _ _ _ _ _ hbase htokens => ?_
  dsimp only
  obtain ⟨_, _, _, _, _, _, htake, htake', hrest⟩ | ⟨htake, htake'⟩ :=
    take?_alike (· = .caret) htokens
  · rw [htake, htake']
    dsimp only
    split
    · refine (power_alike hrest (depth + 1) _ _).bind fun e e' _ _ _ _ _ _ he htokens => ?_
      exact .done (.binary hbase he trivial) htokens
    · exact failed_alike _ _ _
  · rw [htake, htake']
    exact .done hbase htokens
termination_by 11 * ts.length + 2
decreasing_by all_goals omega

/-- The first token tells the atom, and it is the same. -/
theorem atom_alike {ts us : List Token} (h : SameTokens ts us) (depth p q : Nat) :
    ReadAlike Expr.SameButSpans (atom depth p ts) (atom depth q us) := by
  cases h with
  | nil =>
    rw [atom, atom]
    exact failed_alike _ _ _
  | @cons t u ts us htu hrest =>
    obtain ⟨kind, lexeme, a⟩ := t
    obtain ⟨kind', lexeme', b⟩ := u
    cases htu
    rw [atom, atom]
    cases kind with
    | number value => exact .done (.number trivial) hrest
    | text value => exact .done (.text trivial) hrest
    | identifier id =>
      obtain ⟨_, _, _, _, _, _, htake, htake', _⟩ | ⟨htake, htake'⟩ :=
        take?_alike (· = .opening) hrest
      · dsimp only
        rw [htake, htake']
        exact failed_alike _ _ _
      · dsimp only
        rw [htake, htake']
        exact .done (.name trivial) hrest
    | function name =>
      refine (call_alike name a b hrest depth _ _).bind fun e e' _ _ _ _ _ _ he htokens => ?_
      exact .done he htokens
    | opening =>
      refine (expression_alike hrest depth _ _).bind fun e e' _ _ _ _ _ _ he htokens => ?_
      refine ((token_alike .closing .missingClosing _ _ htokens).advise _).bind
        fun _ _ _ _ _ _ _ _ _ htokens => ?_
      exact .done he htokens
    | minus =>
      dsimp only
      split
      · refine (atom_alike hrest (depth + 1) _ _).bind fun e e' _ _ _ _ _ _ he htokens => ?_
        exact .done (.unary he trivial) htokens
      · exact failed_alike _ _ _
    | _ => exact failed_alike _ _ _
termination_by 11 * ts.length + 1
decreasing_by all_goals simp only [List.length_cons]; omega

/-- The name stands at another place, and so does the whole call. -/
theorem call_alike (name : String) (a b : Span) {ts us : List Token} (h : SameTokens ts us)
    (depth p q : Nat) :
    ReadAlike Expr.SameButSpans (call name a depth p ts) (call name b depth q us) := by
  rw [call, call]
  refine (token_alike .opening _ p q h).bind fun _ _ _ _ _ _ _ _ _ htokens => ?_
  refine (arguments_alike htokens depth _ _).bind fun args args' _ _ _ _ _ _ hargs htokens => ?_
  refine (token_alike .closing _ _ _ htokens).bind fun _ _ _ _ _ _ _ _ _ htokens => ?_
  exact checkCall_alike name hargs _ _ htokens _ _
termination_by 11 * ts.length + 1
decreasing_by omega

theorem arguments_alike {ts us : List Token} (h : SameTokens ts us) (depth p q : Nat) :
    ReadAlike Expr.AllSameButSpans (arguments depth p ts) (arguments depth q us) := by
  rw [arguments, arguments]
  obtain ⟨_, _, _, _, _, _, htake, htake', _⟩ | ⟨htake, htake'⟩ := take?_alike (· = .closing) h
  · rw [htake, htake']
    exact .done .nil h
  · rw [htake, htake']
    refine (listed_alike h depth p q).bind fun es es' _ _ _ _ _ _ hes htokens => ?_
    exact .done hes htokens
termination_by 11 * ts.length + 11
decreasing_by omega

/-- The arguments are alike one by one. -/
theorem listed_alike {ts us : List Token} (h : SameTokens ts us) (depth p q : Nat) :
    ReadAlike Expr.AllSameButSpans (listed depth p ts) (listed depth q us) := by
  rw [listed, listed]
  refine (expression_alike h depth p q).bind fun e e' _ _ _ _ _ _ he htokens => ?_
  dsimp only
  obtain ⟨_, _, _, _, _, _, htake, htake', hrest⟩ | ⟨htake, htake'⟩ :=
    take?_alike (· = .comma) htokens
  · rw [htake, htake']
    refine (listed_alike hrest depth _ _).bind fun es es' _ _ _ _ _ _ hes htokens => ?_
    exact .done (.cons he hes) htokens
  · rw [htake, htake']
    exact .done (.cons he .nil) htokens
termination_by 11 * ts.length + 10
decreasing_by all_goals omega

end

/-! ## Programs -/

/-- Separators are tokens too, so the same ones are skipped. -/
theorem skipSeparators_alike {ts us : List Token} (h : SameTokens ts us) (p q : Nat) :
    SameTokens (skipSeparators p ts).tokens (skipSeparators q us).tokens := by
  rw [skipSeparators, skipSeparators]
  obtain ⟨_, _, _, _, ht, _, htake, htake', hrest⟩ | ⟨htake, htake'⟩ :=
    take?_alike (·.isSeparator = true) h
  · rw [htake, htake']
    exact skipSeparators_alike hrest _ _
  · rw [htake, htake']
    exact h
termination_by ts.length

theorem atEnd_alike (h : SameTokens ts us) : atEnd ts = atEnd us := by
  cases h with
  | nil => rfl
  | @cons t u _ _ htu _ =>
    rw [atEnd, atEnd, htu.kind]

/-- The statements are alike one by one. -/
theorem statements_alike {ts us : List Token} (h : SameTokens ts us) (depth p q : Nat) :
    ReadAlike Expr.AllSameButSpans (statements depth p ts) (statements depth q us) := by
  have hskip := skipSeparators_alike h p q
  rw [statements, statements]
  generalize skipSeparators p ts = read at hskip
  generalize skipSeparators q us = read' at hskip
  obtain ⟨_, rest, stop, hfewer⟩ := read
  obtain ⟨_, rest', stop', hfewer'⟩ := read'
  dsimp only at hskip ⊢
  rw [atEnd_alike hskip]
  split
  · exact .done .nil hskip
  · refine (expression_alike hskip depth _ _).bind fun e e' _ _ _ _ _ _ he htokens => ?_
    dsimp only
    obtain ⟨_, _, _, _, _, _, htake, htake', hrest⟩ | ⟨htake, htake'⟩ :=
      take?_alike (·.isSeparator = true) htokens
    · rw [htake, htake']
      refine (statements_alike hrest depth _ _).bind fun es es' _ _ _ _ _ _ hes htokens => ?_
      exact .done (.cons he hes) htokens
    · rw [htake, htake']
      exact .done (.cons he .nil) htokens
termination_by ts.length
decreasing_by omega

theorem endFault?_alike (h : SameTokens ts us) :
    Option.Rel Fault.SameButSpan (endFault? ts) (endFault? us) := by
  cases h with
  | nil => exact .none
  | @cons t u _ _ htu _ =>
    rw [endFault?, endFault?, htu.kind]
    cases u.kind with
    | finish => exact .none
    | _ => exact .some ⟨rfl, rfl⟩

/-- One tree at other places, or one fault at two places. -/
def ParsedAlike : Except Fault Expr → Except Fault Expr → Prop
  | .ok e, .ok e' => e.SameButSpans e'
  | .error f, .error g => f.SameButSpan g
  | _, _ => False

/-- **Places decide nothing.** -/
theorem parse_alike (h : SameTokens ts us) : ParsedAlike (parse ts) (parse us) := by
  have hstatements := statements_alike h 0 0 0
  rw [parse, parse]
  generalize statements 0 0 ts = reading at hstatements
  generalize statements 0 0 us = reading' at hstatements
  cases hstatements with
  | failed h => exact h
  | @done es es' rest rest' _ _ _ _ hes htokens =>
    have hend := endFault?_alike htokens
    simp only [bind, Except.bind]
    generalize endFault? rest = fault? at hend
    generalize endFault? rest' = fault?' at hend
    cases hend with
    | none => exact Expr.sameButSpans_ofStatements hes
    | some hfault => exact hfault

end Tokens

namespace Expr

/-- **Layout does not matter.** Let the tokens of a source go up to its end without a fault. The
text of their lexemes with single spaces between them has the same tokens, by kind and lexeme. Both
texts have the same tree but for its spans, or the same fault but for its span: of one kind, and
with the same message and advice in each language. -/
theorem parse_spaced {source : String} (h : endsFaultless (tokenize source) = true) :
    (tokenize (spaced (tokenize source))).map Token.unplaced
        = (tokenize source).map Token.unplaced
      ∧ match parse source, parse (spaced (tokenize source)) with
        | .ok e, .ok e' => e.SameButSpans e'
        | .error f, .error g => ∀ language,
          (f.notice language).kind = (g.notice language).kind
            ∧ (f.notice language).message = (g.notice language).message
            ∧ (f.notice language).advice = (g.notice language).advice
        | _, _ => False := by
  have htokens := tokenize_spaced h
  have hsame : Tokens.SameTokens (tokenize source) (tokenize (spaced (tokenize source))) := by
    rw [← List.forall₂_eq_eq_eq, List.forall₂_map_left_iff, List.forall₂_map_right_iff] at htokens
    exact htokens.flip.imp fun _ _ heq => heq.symm
  refine ⟨htokens, ?_⟩
  have halike := Tokens.parse_alike hsame
  rw [← parse_eq_tokens, ← parse_eq_tokens] at halike
  cases hparse : parse source with
  | ok e =>
    cases hparse' : parse (spaced (tokenize source)) with
    | ok e' => rw [hparse, hparse'] at halike; exact halike
    | error g => rw [hparse, hparse'] at halike; exact halike
  | error f =>
    cases hparse' : parse (spaced (tokenize source)) with
    | ok e' => rw [hparse, hparse'] at halike; exact halike
    | error g =>
      rw [hparse, hparse'] at halike
      intro language
      unfold Fault.notice Fault.kind
      rw [halike.cause, halike.advice]
      exact ⟨rfl, rfl, rfl⟩

/-- A comment ends a line and another one stands between two tokens without a blank. -/
theorem parse_spaced_comments :
    endsFaultless (tokenize "x=1//\n-x/**//\"#\"") = true
      ∧ spaced (tokenize "x=1//\n-x/**//\"#\"") = "x = 1 \n - x / \"#\" "
      ∧ ∃ e e', parse "x=1//\n-x/**//\"#\"" = .ok e
        ∧ parse "x = 1 \n - x / \"#\" " = .ok e' ∧ e.SameButSpans e' := by
  have hends : endsFaultless (tokenize "x=1//\n-x/**//\"#\"") = true := by decide +kernel
  have hspaced : spaced (tokenize "x=1//\n-x/**//\"#\"") = "x = 1 \n - x / \"#\" " := by
    decide +kernel
  have hok : (parse "x=1//\n-x/**//\"#\"").isOk = true := by decide +kernel
  have hparsed := (parse_spaced hends).2
  rw [hspaced] at hparsed
  cases hparse : parse "x=1//\n-x/**//\"#\"" with
  | error f => rw [hparse] at hok; cases hok
  | ok e =>
    cases hparse' : parse "x = 1 \n - x / \"#\" " with
    | error g => rw [hparse, hparse'] at hparsed; exact hparsed.elim
    | ok e' =>
      rw [hparse, hparse'] at hparsed
      exact ⟨hends, hspaced, e, e', rfl, rfl, hparsed⟩

end Expr

end Calculator
