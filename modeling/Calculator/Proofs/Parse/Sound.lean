import Calculator.Proofs.Parse.Grammar
import Calculator.Proofs.Parse.Rules
import Calculator.Proofs.Token.Lexed
import Calculator.Proofs.Tree

/-!
# What is read is derivable

Each rule of the parser, where it succeeds, has read what the grammar derives: the tokens before
those it leaves, with the tree it gives and at most as many levels as were free. `Derives` says so
for one rule at one place.

The rules call each other at places where less is left to read, except down the ladder from
expressions to atoms. So the proof is by induction on what is left to read, for all rules together
(`RulesDerive`), with one lemma for each rule in the order of the ladder from below.
-/

namespace Calculator.Parser

open Grammar

/-- Where the result is a success, it is derived by `X` within the levels that are free at `p`, it
has the property `Good`, and the levels that were opened are closed. -/
def Derives {α : Type} (X : Nat → List Token → α → List Token → Prop) (Good : α → Prop) (p : Parser)
    (r : Result α) : Prop :=
  p.depth ≤ maxNesting → ∀ a q, r = .ok (a, q) →
    q.depth = p.depth ∧ Good a ∧ ∃ n, X n p.tokens a q.tokens ∧ p.depth + n ≤ maxNesting

/-- A tail goes on with a chain that started at depth `d`. -/
def TailDerives (tier : Tier) (left : Expr) (p : Parser) : Prop :=
  ∀ d k n ts, p.depth = d + k → Chain tier k n ts left p.tokens → d + n ≤ maxNesting →
    left.CallsAccepted → ∀ e q, p.readTail tier left = .ok (e, q) →
      e.CallsAccepted ∧ ∃ k n, Chain tier k n ts e q.tokens ∧ d + n ≤ maxNesting

/-- The rules that call themselves derive what they read, where fewer than `bound` characters are
left. -/
structure RulesDerive (bound : Nat) : Prop where
  expression (p : Parser) (hp : p.unread < bound) :
    Derives Expression Expr.CallsAccepted p p.readExpression
  operand (tier : Tier) (p : Parser) (hp : p.unread < bound) :
    Derives (Operand tier) Expr.CallsAccepted p (p.readOperand tier)
  tail (tier : Tier) (left : Expr) (p : Parser) (hp : p.unread < bound) : TailDerives tier left p
  power (p : Parser) (hp : p.unread < bound) : Derives Power Expr.CallsAccepted p p.readPower
  atom (p : Parser) (hp : p.unread < bound) : Derives Atom Expr.CallsAccepted p p.readAtom
  arguments (p : Parser) (hp : p.unread < bound) :
    Derives Listed (fun args => ∀ e ∈ args, e.CallsAccepted) p p.readArguments

variable {p : Parser}

/-- The name of a function token is in the table, so a count that the table accepts is one that the
function takes. -/
theorem takesArguments_of_current {name : String} (h : p.current.kind = .function name)
    {count : Nat} (hcount : ∀ builtin, Builtin.find? name = some builtin →
      builtin.arity.accepts count = true) : Expr.TakesArguments name count := by
  have hname := p.current_lexed
  rw [h] at hname
  obtain ⟨builtin, hb⟩ := Option.isSome_iff_exists.1 hname
  exact ⟨builtin, hb, hcount builtin hb⟩

/-! ## Atoms -/

/-- Numbers, texts and names: one token and no level. -/
theorem leaf_derives {e : Expr} (hlast : p.current.kind.isLast = false) (hgood : e.CallsAccepted)
    (h : ∀ rest, Atom 0 (p.current :: rest) e rest) :
    Derives Atom Expr.CallsAccepted p (.ok (e, p.advance)) := by
  intro hdepth _ _ hread
  cases hread
  refine ⟨p.depth_advance, hgood, 0, ?_, hdepth⟩
  rw [tokens_advance hlast]
  exact h _

/-- What stands between the parentheses of a call: nothing, or a list of arguments. -/
theorem arguments_derive (ih : RulesDerive p.unread) (q : Parser) (hq : q.unread < p.unread) :
    Derives Arguments (fun args => ∀ e ∈ args, e.CallsAccepted) q
      (if q.current.kind = .closing then .ok ([], q) else q.readArguments) := by
  intro hdepth args r hread
  split at hread
  · cases hread
    exact ⟨rfl, by simp, 0, .none, hdepth⟩
  · obtain ⟨hr, hgood, n, hlisted, hn⟩ := ih.arguments q hq hdepth args r hread
    exact ⟨hr, hgood, n, .some hlisted, hn⟩

/-- A call: opening parenthesis, arguments, closing parenthesis, and the count is checked. -/
theorem call_derives (ih : RulesDerive p.unread) {name : String}
    (h : p.current.kind = .function name) :
    Derives Atom Expr.CallsAccepted p (p.advance.readCall name p.current.span) := by
  intro hdepth e q hread
  rw [readCall_eq] at hread
  obtain ⟨opening, q₁, hopening, hread⟩ := Result.andThen_eq_ok hread
  obtain ⟨hkind₁, rfl, rfl⟩ := readToken_eq_ok hopening
  obtain ⟨args, q₂, hargs, hread⟩ := Result.andThen_eq_ok hread
  obtain ⟨closing, q₃, hclosing, hread⟩ := Result.andThen_eq_ok hread
  obtain ⟨hkind₂, rfl, rfl⟩ := readToken_eq_ok hclosing
  have hless : p.advance.advance.unread < p.unread :=
    Nat.lt_of_le_of_lt p.advance.unread_advance_le (p.unread_advance_lt (isLast_of_eq h rfl))
  obtain ⟨hq₂, hgood, n, hderived, hn⟩ :=
    arguments_derive ih _ hless (by simpa using hdepth) args q₂ hargs
  have htree : e = .call name args (p.current.span.cover q₂.current.span) ∧ q₂.advance = q
      ∧ ∀ builtin, Builtin.find? name = some builtin →
          builtin.arity.accepts args.length = true := by
    cases hfind : Builtin.find? name with
    | none =>
      rw [hfind] at hread
      cases hread
      exact ⟨rfl, rfl, by simp⟩
    | some builtin =>
      rw [hfind] at hread
      dsimp only at hread
      split at hread
      · cases hread
        exact ⟨rfl, rfl, by simpa⟩
      · cases hread
  obtain ⟨rfl, rfl, haccepts⟩ := htree
  refine ⟨by simp [hq₂], ?_, n, ?_, by simpa using hn⟩
  · exact (Expr.callsAccepted_call _ _ _).2 ⟨takesArguments_of_current h haccepts, hgood⟩
  · rw [tokens_advance (isLast_of_eq h rfl), tokens_advance (isLast_of_eq hkind₁ rfl)]
    rw [tokens_advance (isLast_of_eq hkind₂ rfl)] at hderived
    exact .call h hkind₁ hderived hkind₂

/-- Parentheses leave the tree within as it is. -/
theorem group_derives (ih : RulesDerive p.unread) (h : p.current.kind = .opening) :
    Derives Atom Expr.CallsAccepted p
      (p.advance.readExpression.andThen fun inner q =>
        ((q.readToken .closing .missingClosing).advise .matchingParentheses).andThen
          fun _ r => .ok (inner, r)) := by
  intro hdepth e q hread
  obtain ⟨inner, q₁, hinner, hread⟩ := Result.andThen_eq_ok hread
  obtain ⟨closing, q₂, hclosing, hread⟩ := Result.andThen_eq_ok hread
  obtain ⟨hkind, rfl, rfl⟩ := readToken_eq_ok (Result.advise_eq_ok hclosing)
  cases hread
  obtain ⟨hq₁, hgood, n, hderived, hn⟩ :=
    ih.expression _ (p.unread_advance_lt (isLast_of_eq h rfl)) (by simpa using hdepth) _ _ hinner
  refine ⟨by simp [hq₁], hgood, n, ?_, by simpa using hn⟩
  rw [tokens_advance (isLast_of_eq h rfl)]
  rw [tokens_advance (isLast_of_eq hkind rfl)] at hderived
  exact .group h hderived hkind

/-- A sign takes the level that its operand stands at. -/
theorem negated_derives (ih : RulesDerive p.unread) (h : p.current.kind = .minus)
    (hfree : p.depth < maxNesting) :
    Derives Atom Expr.CallsAccepted p
      (((p.advance.withDepth (p.depth + 1)).readAtom.closeTo p.depth).andThen fun operand q =>
        .ok (.unary .negate operand (p.current.span.cover operand.span), q)) := by
  intro hdepth e q hread
  obtain ⟨operand, q₁, hclosed, hread⟩ := Result.andThen_eq_ok hread
  obtain ⟨q₂, hoperand, rfl⟩ := Result.closeTo_eq_ok hclosed
  cases hread
  obtain ⟨-, hgood, n, hderived, hn⟩ := ih.atom (p.advance.withDepth (p.depth + 1))
    (p.unread_advance_lt (isLast_of_eq h rfl)) hfree _ _ hoperand
  refine ⟨rfl, (Expr.callsAccepted_unary _ _ _).2 hgood, n + 1, ?_, ?_⟩
  · rw [tokens_advance (isLast_of_eq h rfl)]
    exact .negated h hderived
  · rw [depth_withDepth] at hn
    omega

/-- An atom is one of these, and its first token tells which. -/
theorem atom_derives (ih : RulesDerive p.unread) :
    Derives Atom Expr.CallsAccepted p p.readAtom := by
  rw [readAtom_eq]
  split
  case h_1 value h => exact leaf_derives (isLast_of_eq h rfl) (by simp) fun _ => .number h
  case h_2 value h => exact leaf_derives (isLast_of_eq h rfl) (by simp) fun _ => .text h
  case h_3 id h =>
    split
    · intro _ _ _ hread
      cases hread
    · exact leaf_derives (isLast_of_eq h rfl) (by simp) fun _ => .name h
  case h_4 name h => exact call_derives ih h
  case h_5 h => exact group_derives ih h
  case h_6 h =>
    split
    · exact negated_derives ih h (by assumption)
    · intro _ _ _ hread
      cases hread
  all_goals
    intro _ _ _ hread
    cases hread

/-! ## From powers to expressions -/

/-- An exponent stands one level deeper, and less is left to read there. -/
theorem power_derives (ih : RulesDerive p.unread) :
    Derives Power Expr.CallsAccepted p p.readPower := by
  intro hdepth e q hread
  rw [readPower_eq] at hread
  obtain ⟨base, q₁, hbase, hread⟩ := Result.andThen_eq_ok hread
  have hless := Outcome.unread_of_result hbase
  obtain ⟨hq₁, hgood, n, hderived, hn⟩ := atom_derives ih hdepth _ _ hbase
  split at hread
  case isFalse =>
    cases hread
    exact ⟨hq₁, hgood, n, .plain hderived, hn⟩
  case isTrue hkind =>
    split at hread
    case isFalse => cases hread
    case isTrue hfree =>
      obtain ⟨exponent, q₂, hclosed, hread⟩ := Result.andThen_eq_ok hread
      obtain ⟨q₃, hexponent, rfl⟩ := Result.closeTo_eq_ok hclosed
      cases hread
      obtain ⟨-, hgood', m, hderived', hm⟩ := ih.power (q₁.advance.withDepth (q₁.depth + 1))
        (Nat.lt_of_le_of_lt q₁.unread_advance_le hless) hfree _ _ hexponent
      rw [tokens_advance (isLast_of_eq hkind rfl)] at hderived
      refine ⟨hq₁, (Expr.callsAccepted_binary _ _ _ _).2 ⟨hgood, hgood'⟩, _,
        .raised hderived hkind hderived', ?_⟩
      rw [depth_withDepth, hq₁] at hm
      omega

/-- A factor is a power, with or without an exclamation mark. -/
theorem factor_derives (ih : RulesDerive p.unread) :
    Derives Factor Expr.CallsAccepted p p.readFactor := by
  intro hdepth e q hread
  rw [readFactor_eq] at hread
  obtain ⟨operand, q₁, hoperand, hread⟩ := Result.andThen_eq_ok hread
  obtain ⟨hq₁, hgood, n, hderived, hn⟩ := power_derives ih hdepth _ _ hoperand
  split at hread
  case isTrue hkind =>
    cases hread
    rw [tokens_advance (isLast_of_eq hkind rfl)] at hderived
    exact ⟨by simp [hq₁], (Expr.callsAccepted_unary _ _ _).2 hgood, n, .factorial hderived hkind,
      hn⟩
  case isFalse =>
    cases hread
    exact ⟨hq₁, hgood, n, .plain hderived, hn⟩

/-- A chain starts with an operand, and its tail goes on from there. Its levels are given back. -/
theorem chain_derives (ih : RulesDerive p.unread) {tier : Tier}
    (hoperand : Derives (Operand tier) Expr.CallsAccepted p (p.readOperand tier)) :
    Derives (fun n ts e rest => ∃ k, Chain tier k n ts e rest) Expr.CallsAccepted p
      (p.readChain tier) := by
  intro hdepth e q hread
  rw [readChain_eq] at hread
  obtain ⟨q₁, hopen, rfl⟩ := Result.closeTo_eq_ok hread
  obtain ⟨left, q₂, hleft, htail⟩ := Result.andThen_eq_ok hopen
  obtain ⟨hq₂, hgood, n, hderived, hn⟩ := hoperand hdepth _ _ hleft
  obtain ⟨hgood', k, m, hchain, hm⟩ := ih.tail tier left q₂ (Outcome.unread_of_result hleft)
    p.depth 0 n p.tokens hq₂ (.first hderived) hn hgood e q₁ htail
  exact ⟨rfl, hgood', m, ⟨k, hchain⟩, hm⟩

/-- Products are the operands of sums, and factors those of products. -/
theorem operand_derives (ih : RulesDerive p.unread) (tier : Tier) :
    Derives (Operand tier) Expr.CallsAccepted p (p.readOperand tier) := by
  have hproduct : Derives (Operand .product) Expr.CallsAccepted p (p.readOperand .product) := by
    intro hdepth e q hread
    rw [readOperand_product] at hread
    obtain ⟨hq, hgood, n, hderived, hn⟩ := factor_derives ih hdepth e q hread
    exact ⟨hq, hgood, n, .factor hderived, hn⟩
  cases tier with
  | product => exact hproduct
  | sum =>
    intro hdepth e q hread
    rw [readOperand_sum] at hread
    obtain ⟨hq, hgood, n, ⟨k, hderived⟩, hn⟩ := chain_derives ih hproduct hdepth e q hread
    exact ⟨hq, hgood, n, .product hderived, hn⟩

/-- Each operator of a tail makes the chain that has been read one operator longer. -/
theorem tail_derives (ih : RulesDerive p.unread) (tier : Tier) (left : Expr) :
    TailDerives tier left p := by
  intro d k n ts hdepth hchain hn hgood e q hread
  rw [readTail_eq] at hread
  split at hread
  case h_1 =>
    cases hread
    exact ⟨hgood, k, n, hchain, hn⟩
  case h_2 op hop =>
    split at hread
    case isFalse => cases hread
    case isTrue hfree =>
      have hlast := isLast_of_op? hop
      have hless := p.unread_advance_lt hlast
      obtain ⟨right, q₁, hright, hread⟩ := Result.andThen_eq_ok hread
      obtain ⟨hq₁, hgood', m, hderived, hm⟩ :=
        ih.operand tier (p.advance.withDepth (p.depth + 1)) hless hfree _ _ hright
      rw [tokens_advance hlast] at hchain
      rw [depth_withDepth, hdepth] at hq₁ hm
      exact ih.tail tier _ q₁ (Nat.lt_trans (Outcome.unread_of_result hright) hless) d (k + 1)
        (max n (k + 1 + m)) ts (by omega) (.next hchain (sign_iff.2 hop) hderived) (by omega)
        ((Expr.callsAccepted_binary _ _ _ _).2 ⟨hgood, hgood'⟩) e q hread

/-- A name with an equals sign behind it is assigned to; all else is a sum. -/
theorem assignment_derives (ih : RulesDerive p.unread) :
    Derives (fun n => Expression (n + 1)) Expr.CallsAccepted p p.readAssignment := by
  have hsum : Derives (fun n => Expression (n + 1)) Expr.CallsAccepted p (p.readChain .sum) := by
    intro hdepth e q hread
    obtain ⟨hq, hgood, n, ⟨k, hderived⟩, hn⟩ :=
      chain_derives ih (operand_derives ih .sum) hdepth e q hread
    exact ⟨hq, hgood, n, .sum hderived, hn⟩
  rw [readAssignment_eq]
  split
  case h_2 => exact hsum
  case h_1 target htarget =>
    split
    case isFalse => exact hsum
    case isTrue hequal =>
      intro hdepth e q hread
      obtain ⟨value, q₁, hvalue, hread⟩ := Result.andThen_eq_ok hread
      cases hread
      have hless : p.advance.advance.unread < p.unread := Nat.lt_of_le_of_lt
        p.advance.unread_advance_le (p.unread_advance_lt (isLast_of_eq htarget rfl))
      obtain ⟨hq₁, hgood, n, hderived, hn⟩ :=
        ih.expression p.advance.advance hless (by simpa using hdepth) _ _ hvalue
      refine ⟨by simpa using hq₁, (Expr.callsAccepted_assign _ _ _).2 hgood, n, ?_,
        by simpa using hn⟩
      rw [tokens_advance (isLast_of_eq htarget rfl), tokens_advance (isLast_of_eq hequal rfl)]
      exact .assign htarget hequal hderived

/-- An expression opens the level that it uses. -/
theorem expression_derives (ih : RulesDerive p.unread) :
    Derives Expression Expr.CallsAccepted p p.readExpression := by
  intro hdepth e q hread
  rw [readExpression_eq] at hread
  split at hread
  case isFalse => cases hread
  case isTrue hfree =>
    obtain ⟨q₁, hopen, rfl⟩ := Result.closeTo_eq_ok hread
    obtain ⟨-, hgood, n, hderived, hn⟩ :=
      assignment_derives (p := p.withDepth (p.depth + 1)) ih hfree e q₁ hopen
    rw [depth_withDepth] at hn
    exact ⟨rfl, hgood, n + 1, hderived, by omega⟩

theorem listed_derive (ih : RulesDerive p.unread) :
    Derives Listed (fun args => ∀ e ∈ args, e.CallsAccepted) p p.readArguments := by
  intro hdepth args q hread
  rw [readArguments_eq] at hread
  obtain ⟨arg, q₁, harg, hread⟩ := Result.andThen_eq_ok hread
  obtain ⟨hq₁, hgood, n, hderived, hn⟩ := expression_derives ih hdepth _ _ harg
  split at hread
  case isFalse =>
    cases hread
    exact ⟨hq₁, by simpa using hgood, n, .last hderived, hn⟩
  case isTrue hkind =>
    obtain ⟨rest, q₂, hrest, hread⟩ := Result.andThen_eq_ok hread
    cases hread
    have hless := Nat.lt_of_le_of_lt q₁.unread_advance_le (Outcome.unread_of_result harg)
    obtain ⟨hq₂, hgoods, m, hderived', hm⟩ :=
      ih.arguments q₁.advance hless (by simpa [hq₁] using hdepth) _ _ hrest
    rw [tokens_advance (isLast_of_eq hkind rfl)] at hderived
    rw [depth_advance, hq₁] at hq₂ hm
    exact ⟨hq₂, List.forall_mem_cons.2 ⟨hgood, hgoods⟩, _, .more hderived hkind hderived', by omega⟩

/-- **The rules read what the grammar derives.** -/
theorem rules_derive (bound : Nat) : RulesDerive bound := by
  induction bound with
  | zero =>
    constructor <;> intros <;> exact absurd (by assumption) (Nat.not_lt_zero _)
  | succ bound ih =>
    have hbelow (p : Parser) (hp : p.unread < bound + 1) : RulesDerive p.unread := by
      have hle : ∀ q : Parser, q.unread < p.unread → q.unread < bound := fun q hq => by omega
      exact ⟨fun q hq => ih.expression q (hle q hq), fun tier q hq => ih.operand tier q (hle q hq),
        fun tier left q hq => ih.tail tier left q (hle q hq), fun q hq => ih.power q (hle q hq),
        fun q hq => ih.atom q (hle q hq), fun q hq => ih.arguments q (hle q hq)⟩
    exact ⟨fun p hp => expression_derives (hbelow p hp),
      fun tier p hp => operand_derives (hbelow p hp) tier,
      fun tier left p hp => tail_derives (hbelow p hp) tier left,
      fun p hp => power_derives (hbelow p hp), fun p hp => atom_derives (hbelow p hp),
      fun p hp => listed_derive (hbelow p hp)⟩

/-! ## Programs -/

/-- What is skipped between statements are separators. -/
theorem skipSeparators_derives (p : Parser) :
    Separators p.tokens p.skipSeparators.tokens ∧ p.skipSeparators.depth = p.depth := by
  fun_induction skipSeparators p with
  | case1 p h ih =>
    rw [tokens_advance (isLast_of_isSeparator h)]
    exact ⟨.more (separator_iff.2 h) ih.1, by rw [ih.2, depth_advance]⟩
  | case2 => exact ⟨.none, rfl⟩

/-- The statements up to where no separator follows are those of a program. -/
theorem statements_derive (p : Parser) :
    Derives Program (fun es => ∀ e ∈ es, e.CallsAccepted) p p.readStatements := by
  induction hunread : p.unread using Nat.strongRecOn generalizing p with
  | ind bound ih =>
    intro hdepth es q hread
    obtain ⟨hbefore, hskipped⟩ := p.skipSeparators_derives
    rw [readStatements_eq] at hread
    split at hread
    case isTrue =>
      cases hread
      exact ⟨hskipped, by simp, 0, .empty hbefore, hdepth⟩
    case isFalse =>
      obtain ⟨e, q₁, hstatement, hread⟩ := Result.andThen_eq_ok hread
      have hless : q₁.unread < p.unread :=
        Nat.lt_of_lt_of_le (Outcome.unread_of_result hstatement) p.unread_skipSeparators_le
      obtain ⟨hq₁, hgood, n, hderived, hn⟩ :=
        (rules_derive _).expression p.skipSeparators (Nat.lt_succ_self _)
          (by rw [hskipped]; exact hdepth) e q₁ hstatement
      rw [hskipped] at hq₁ hn
      split at hread
      case isFalse =>
        cases hread
        exact ⟨hq₁, by simpa using hgood, n, .series hbefore (.last hderived) .none, hn⟩
      case isTrue hkind =>
        obtain ⟨rest, q₂, hrest, hread⟩ := Result.andThen_eq_ok hread
        cases hread
        have hlast := isLast_of_isSeparator hkind
        have hseparator := separator_iff.2 hkind
        obtain ⟨hq₂, hgoods, m, hprogram, hm⟩ := ih q₁.advance.unread
          (by have := q₁.unread_advance_le; omega) q₁.advance rfl
          (by rw [depth_advance, hq₁]; exact hdepth) rest q hrest
        rw [depth_advance, hq₁] at hq₂ hm
        rw [tokens_advance hlast] at hderived
        refine ⟨hq₂, List.forall_mem_cons.2 ⟨hgood, hgoods⟩, ?_⟩
        cases hprogram with
        | empty hafter =>
          exact ⟨n, .series hbefore (.last hderived) (.more hseparator hafter), hn⟩
        | series hbetween hseries hafter =>
          exact ⟨_, .series hbefore (.more hderived hseparator hbetween hseries) hafter, by omega⟩

end Calculator.Parser
