import Calculator.Proofs.Localized.Parser
import Calculator.Proofs.Parse.Rules
import Calculator.Proofs.Token.Lexed

/-!
# Words on the way and words at the end

Parsing in a language comes to what parsing without one does, with the fault put into words at the
end (`Localized.parse_eq`); in particular it does come to something.

`Renders` says this of a rule and the equation for its result: run from a parser in words, the rule
ends in the result in words. The lemmas about it follow the ways in which rules are built, and there
is one theorem for each rule. The induction is on the fuel, with the measure that makes the rules
without fuel end.
-/

open Calculator.Parser (Result Tier tooDeep)

namespace Calculator

/-! ## Parsers and results in words -/

namespace Parser

/-- The parser that stands at the same place and has a language. -/
def localize (language : Language) (p : Parser) : Localized.Parser where
  lexer := ⟨language, p.after⟩
  current := p.current.localize language
  start := p.start
  previousEnd := p.previousEnd
  depth := p.depth

namespace Result

variable {α β : Type}

/-- A result in words. -/
def localize (language : Language) : Result α → Except Notice α × Localized.Parser
  | .ok (a, p) => (.ok a, p.localize language)
  | .error (fault, p) => (.error (fault.notice language), p.localize language)

/-- The result with something else in the place of its value. -/
def map (f : α → β) (r : Result α) : Result β := r.andThen fun a p => .ok (f a, p)

theorem advise_map (f : α → β) (r : Result α) (advice : Advice) :
    (r.map f).advise advice = (r.advise advice).map f := by
  cases r <;> rfl

end Result

end Parser

namespace Localized

variable {α β γ : Type} {language : Language}

/-! ## Running rules -/

/-- A rule goes on from where its first part succeeds, and ends where that fails or runs out of
fuel. -/
theorem run_bind (rule : Rule α) (f : α → Rule β) (p : Parser) :
    (rule >>= f).run.run p = (rule.run.run p).bind fun x => match x.1 with
      | .ok a => (f a).run.run x.2
      | .error notice => some (.error notice, x.2) := by
  show Option.bind _ _ = _
  refine congrArg _ (funext fun x => ?_)
  obtain ⟨_ | _, q⟩ := x <;> rfl

section

variable {rule : Rule α} {p q : Parser} {x : Except Notice α}

theorem run_lift (h : rule.run.run p = some (x, q)) :
    (ExceptT.lift rule.run : Rule (Except Notice α)).run.run p = some (.ok x, q) := by
  show (rule.run.run p).bind _ = _
  rw [h]
  rfl

/-- The levels are given back whatever the rule comes to. -/
theorem run_keepingDepth (h : rule.run.run p = some (x, q)) :
    (keepingDepth rule).run.run p = some (x, { q with depth := p.depth }) := by
  show (ExceptT.lift rule.run >>= fun result => _ : Rule α).run.run p = _
  rw [run_bind, run_lift h]
  cases x <;> rfl

/-- Advice is added to a failure, in the language that the parser has there. -/
theorem run_advising {advice : Advice} (h : rule.run.run p = some (x, q)) :
    (advising advice rule).run.run p = some (x.mapError (q.withAdvice advice), q) := by
  show (rule.run.run p).bind _ = _
  rw [h]
  cases x <;> rfl

end

/-- From a parser in words, the rule comes to the result in words. -/
def Renders (language : Language) (rule : Rule α) (p : Calculator.Parser) (r : Result α) : Prop :=
  rule.run.run (p.localize language) = some (r.localize language)

namespace Renders

variable {rule : Rule α} {p : Calculator.Parser} {r : Result α}

theorem done (a : α) (p : Calculator.Parser) : Renders language (pure a) p (.ok (a, p)) := rfl

/-- A failure is one in words if its notice is that of the fault. -/
theorem failed {notice : Notice} {fault : Fault} (h : notice = fault.notice language)
    (p : Calculator.Parser) : Renders language (throw notice : Rule α) p (.error (fault, p)) := by
  subst h
  rfl

/-- A fault ends both, and otherwise the rest of the rule starts where its first part ends. -/
theorem bind (h : Renders language rule p r) {f : α → Rule β}
    {g : α → Calculator.Parser → Result β}
    (hf : ∀ a q, r = .ok (a, q) → Renders language (f a) q (g a q)) :
    Renders language (rule >>= f) p (r.andThen g) := by
  unfold Renders at h
  rw [Renders, run_bind, h]
  cases r with
  | ok x => exact hf x.1 x.2 rfl
  | error e => rfl

/-- Behind a rule that is known to succeed. -/
theorem bind_ok {a : α} {q : Calculator.Parser} (h : Renders language rule p (.ok (a, q)))
    {f : α → Rule β} {s : Result β} (hf : Renders language (f a) q s) :
    Renders language (rule >>= f) p s := by
  refine h.bind (g := fun _ _ => s) ?_
  rintro _ _ ⟨⟩
  exact hf

/-- Behind a rule that is known to fail nothing is done. -/
theorem bind_error {e : Fault × Calculator.Parser} (h : Renders language rule p (.error e))
    (f : α → Rule β) : Renders language (rule >>= f) p (.error e) :=
  h.bind (g := fun _ _ => .error e) (by rintro _ _ ⟨⟩)

/-- A rule that looks at the parser sees it in words. -/
theorem get_bind {f : Parser → Rule α} (h : Renders language (f (p.localize language)) p r) :
    Renders language (get >>= f) p r := h

theorem keepingDepth (h : Renders language rule p r) :
    Renders language (keepingDepth rule) p (r.closeTo p.depth) := by
  cases r with
  | ok x => exact run_keepingDepth h
  | error e => exact run_keepingDepth h

theorem advising (h : Renders language rule p r) (advice : Advice) :
    Renders language (advising advice rule) p (r.advise advice) := by
  cases r with
  | ok x => exact run_advising h
  | error e => exact run_advising h

end Renders

/-! ## Single tokens -/

section

variable (p : Calculator.Parser)

/-- Reading the token at a cursor in words is reading it and putting it into words. -/
theorem startingAt_localize (cursor : Cursor) (previousEnd depth : Nat) :
    (Calculator.Parser.startingAt cursor previousEnd depth).localize language
      = { lexer := (Lexer.next ⟨language, cursor⟩).2
          current := (Lexer.next ⟨language, cursor⟩).1
          start := cursor
          previousEnd
          depth } := by
  rw [Lexer.next_eq]
  rfl

theorem ofSource_localize (source : String) :
    (Calculator.Parser.ofSource source).localize language = .ofSource language source :=
  startingAt_localize _ _ _

/-- Both move behind the current token, and stay before a last one. -/
theorem advance_renders :
    Renders language advance p (.ok (p.current.localize language, p.advance)) := by
  refine Renders.get_bind ?_
  have hlast : (p.localize language).current.kind.isLast = p.current.kind.isLast :=
    TokenKind.isLast_localize language _
  rw [hlast, Calculator.Parser.advance]
  split
  · exact .done _ _
  · rw [Renders, Result.localize, startingAt_localize]
    rfl

/-- Both come back to a checkpoint and read the token there again. -/
theorem restore_renders (q : Calculator.Parser) :
    Renders language (restore ⟨p.start, p.previousEnd⟩) q (.ok ((), q.restore p.checkpoint)) := by
  rw [Renders, Result.localize, Calculator.Parser.restore, startingAt_localize]
  rfl

/-- The words of a token that is no word are those of its cause, which is a lexical one. -/
theorem lexicalNotice_localize {cause : Cause} (h : p.current.kind = .fault cause) :
    (p.localize language).lexicalNotice (cause.text language)
      = Fault.notice language { cause, span := p.current.span } := by
  have hlexed := p.current_lexed
  rw [h] at hlexed
  have hkind : cause.kind = .lexical := hlexed
  rw [Fault.notice, Fault.kind, hkind]
  rfl

/-- A notice whose family is that of the cause is the fault in words. -/
theorem notice_localize {kind : FaultKind} {message : Cause} (h : message.kind = kind)
    (span : Span) :
    (p.localize language).notice kind span message
      = Fault.notice language { cause := message, span } := by
  rw [Fault.notice, Fault.kind, h]
  rfl

theorem grammatical_renders (message : Cause) (h : message.kind = .grammatical) (span : Span) :
    Renders language (throw ((p.localize language).notice .grammatical span message) : Rule α) p
      (.error ({ cause := message, span }, p)) :=
  .failed (notice_localize p h span) p

/-- The token at hand is the one in words. -/
theorem kind_localize :
    (p.localize language).current.kind = p.current.kind.localize language := rfl

/-- What is missed is told in words, unless the token at hand has its own. -/
theorem missing_localize {message : Cause} (h : message.kind = .grammatical) :
    (p.localize language).missing message = (p.missing message).notice language := by
  rw [Parser.missing, Calculator.Parser.missing, kind_localize]
  cases hcurrent : p.current.kind
  case fault => exact lexicalNotice_localize p hcurrent
  all_goals exact notice_localize p h _

/-- Kinds that have no words in them are told apart as they are without a language. -/
theorem kind_localize_iff {kind : TokenKind} (h : ∀ cause, kind ≠ .fault cause) :
    (p.localize language).current.kind = kind.localize language ↔ p.current.kind = kind :=
  TokenKind.localize_eq_iff language h

/-- Both find the token of a kind or miss it. -/
theorem consume_renders (kind : TokenKind) (hkind : ∀ cause, kind ≠ .fault cause) {message : Cause}
    (hmessage : message.kind = .grammatical) :
    Renders language (consume (kind.localize language) message) p
      ((p.readToken kind message).map (Token.localize language)) := by
  refine Renders.get_bind ?_
  rw [Calculator.Parser.readToken]
  by_cases h : p.current.kind = kind
  · rw [if_pos h, if_pos ((kind_localize_iff p hkind).2 h)]
    exact advance_renders p
  · rw [if_neg h, if_neg (mt (kind_localize_iff p hkind).1 h)]
    exact .failed (missing_localize p hmessage) p

/-- Both have a level left or not. -/
theorem deepen_renders (span : Span) :
    Renders language (deepen span) p
      (if p.depth < maxNesting then .ok ((), p.withDepth (p.depth + 1))
        else .error (tooDeep span, p)) := by
  refine Renders.get_bind ?_
  have hdepth : (p.localize language).depth = p.depth := rfl
  rw [hdepth]
  by_cases h : p.depth < maxNesting
  · rw [if_pos h, if_neg (Nat.not_le.2 h)]
    rfl
  · rw [if_neg h, if_pos (Nat.not_lt.1 h)]
    have hkind : (Cause.nestedTooDeeply maxNesting).kind = .resource := rfl
    exact .failed (notice_localize p hkind span) p

end

/-! ## The rest of a rule -/

namespace Renders

variable {p : Calculator.Parser} {r : Result α}

theorem advance_bind {f : Token → Rule α}
    (h : Renders language (f (p.current.localize language)) p.advance r) :
    Renders language (advance >>= f) p r :=
  (advance_renders p).bind_ok h

/-- A branch on the kind of the current token. -/
theorem ite_kind (kind : TokenKind) (hkind : ∀ cause, kind ≠ .fault cause) {a b : Rule α}
    {s : Result α} (ha : p.current.kind = kind → Renders language a p r)
    (hb : p.current.kind ≠ kind → Renders language b p s) :
    Renders language
      (if (p.localize language).current.kind = kind.localize language then a else b) p
      (if p.current.kind = kind then r else s) := by
  by_cases h : p.current.kind = kind
  · rw [if_pos h, if_pos ((kind_localize_iff p hkind).2 h)]
    exact ha h
  · rw [if_neg h, if_neg (mt (kind_localize_iff p hkind).1 h)]
    exact hb h

/-- What a rule gives in words may be something else without: here tokens are. -/
theorem map_bind {rule : Rule β} {s : Result α} {f : α → β} {next : β → Rule γ}
    {g : α → Calculator.Parser → Result γ} (h : Renders language rule p (s.map f))
    (hnext : ∀ a q, s = .ok (a, q) → Renders language (next (f a)) q (g a q)) :
    Renders language (rule >>= next) p (s.andThen g) := by
  cases s with
  | ok x => exact h.bind_ok (hnext x.1 x.2 rfl)
  | error e => exact h.bind_error next

theorem deepen_bind {f : Unit → Rule α} (span : Span)
    (h : Renders language (f ()) (p.withDepth (p.depth + 1)) r) :
    Renders language (deepen span >>= f) p
      (if p.depth < maxNesting then r else .error (tooDeep span, p)) := by
  have hdeepen : Renders language (deepen span) p _ := deepen_renders p span
  by_cases hdepth : p.depth < maxNesting
  · rw [if_pos hdepth] at hdeepen ⊢
    exact hdeepen.bind_ok h
  · rw [if_neg hdepth] at hdeepen ⊢
    exact hdeepen.bind_error f

theorem nested {rule : Rule α} (h : Renders language rule (p.withDepth (p.depth + 1)) r) :
    Renders language (nested rule) p
      (if p.depth < maxNesting then r.closeTo p.depth else .error (tooDeep p.current.span, p)) := by
  have hdeeper : Renders language (do deepen (← get).current.span; rule) p _ :=
    get_bind (deepen_bind p.current.span h)
  have hkept := hdeeper.keepingDepth
  rw [apply_ite (Result.closeTo p.depth)] at hkept
  exact hkept

/-- A rule one level deeper and what is done with its result. -/
theorem nested_bind {rule : Rule α} {f : α → Rule β} {g : α → Calculator.Parser → Result β}
    (h : Renders language rule (p.withDepth (p.depth + 1)) r)
    (hf : ∀ a q, Renders language (f a) q (g a q)) :
    Renders language (Localized.nested rule >>= f) p
      (if p.depth < maxNesting then (r.closeTo p.depth).andThen g
        else .error (tooDeep p.current.span, p)) := by
  have hbind := h.nested.bind fun a q _ => hf a q
  by_cases hdepth : p.depth < maxNesting
  · rw [if_pos hdepth] at hbind ⊢
    exact hbind
  · rw [if_neg hdepth] at hbind ⊢
    exact hbind

/-- A number of arguments that the function does not take is a fault of the whole call. -/
theorem checkCount_bind {f : Unit → Rule α} (name : String) (span : Span) (count : Nat)
    (h : Renders language (f ()) p r) :
    Renders language (checkCount name span count >>= f) p
      (match Builtin.find? name with
        | some builtin =>
          if builtin.arity.accepts count then r
          else .error ({ cause := .wrongArgumentCount name builtin.arity, span }, p)
        | none => r) := by
  cases hfind : Builtin.find? name with
  | none =>
    have hcheck : checkCount name span count = pure () := by
      rw [checkCount, hfind]
    rw [hcheck]
    exact h
  | some builtin =>
    dsimp only
    by_cases haccepts : builtin.arity.accepts count = true
    · have hcheck : checkCount name span count = pure () := by
        rw [checkCount, hfind]
        simp only [Arity.check, if_pos haccepts]
      rw [hcheck, if_pos haccepts]
      exact h
    · have hthrown : Renders language (checkCount name span count) p
          (.error ({ cause := .wrongArgumentCount name builtin.arity, span }, p)) := by
        have hkind : (Cause.wrongArgumentCount name builtin.arity).kind = .grammatical := rfl
        rw [checkCount, hfind]
        simp only [Arity.check, if_neg haccepts]
        exact get_bind (.failed (notice_localize p hkind span) p)
      rw [if_neg haccepts]
      exact hthrown.bind_error f

end Renders

/-- The operators of a tier are the same in words. -/
theorem binaryOperator?_localize (p : Calculator.Parser) (tier : Tier) :
    (p.localize language).binaryOperator? (operators tier) = tier.op? p.current.kind := by
  rw [Parser.binaryOperator?, kind_localize]
  cases tier <;> cases p.current.kind <;> rfl

/-! ## Rules -/

mutual

/-- A rule with fuel enough for what is left to read comes to the result of the rule without. Fuel
enough is more than the measure by which that rule ends. -/
theorem expression_renders : ∀ (fuel : Nat) (p : Calculator.Parser), 11 * p.unread + 9 < fuel →
    Renders language (expression fuel) p p.readExpression
  | 0, _, h => absurd h (Nat.not_lt_zero _)
  | fuel + 1, p, h => by
    rw [expression, p.readExpression_eq]
    exact (assignment_renders fuel (p.withDepth (p.depth + 1)) (by
      rw [Calculator.Parser.unread_withDepth]; omega)).nested

/-- A name with an equals sign behind it is assigned to. Without one, coming back to the name leaves
the parser as it was. -/
theorem assignment_renders : ∀ (fuel : Nat) (p : Calculator.Parser), 11 * p.unread + 8 < fuel →
    Renders language (assignment fuel) p p.readAssignment
  | 0, _, h => absurd h (Nat.not_lt_zero _)
  | fuel + 1, p, h => by
    have hsum : Renders language (chain .sum fuel) p (p.readChain .sum) :=
      chain_renders .sum fuel p (by rw [Tier.looseness]; omega)
    rw [assignment, p.readAssignment_eq]
    refine .get_bind ?_
    rw [kind_localize]
    cases hcurrent : p.current.kind
    case identifier name =>
      have hless := p.unread_advance_lt (Calculator.Parser.isLast_of_eq hcurrent rfl)
      have hle := p.advance.unread_advance_le
      refine .advance_bind (.get_bind (.ite_kind .equal (by simp) (fun _ => ?_) fun _ => ?_))
      · refine .advance_bind ((expression_renders fuel p.advance.advance (by omega)).bind ?_)
        intro value q _
        exact .done _ q
      · refine (restore_renders p p.advance).bind_ok ?_
        rw [p.restore_checkpoint]
        exact hsum
    all_goals exact hsum

theorem chain_renders (tier : Tier) : ∀ (fuel : Nat) (p : Calculator.Parser),
    11 * p.unread + 5 + tier.looseness < fuel →
    Renders language (chain tier fuel) p (p.readChain tier)
  | 0, _, h => absurd h (Nat.not_lt_zero _)
  | fuel + 1, p, h => by
    rw [chain, p.readChain_eq]
    refine ((operand_renders tier fuel p (by omega)).bind fun left q hleft => ?_).keepingDepth
    have hless : q.unread < p.unread := Calculator.Parser.Outcome.unread_of_result hleft
    exact chainTail_renders tier left fuel q (by omega)

/-- The operators of a tail are told apart by their kinds, which have no words in them. -/
theorem chainTail_renders (tier : Tier) (left : Expr) : ∀ (fuel : Nat) (p : Calculator.Parser),
    11 * p.unread < fuel → Renders language (chainTail tier left fuel) p (p.readTail tier left)
  | 0, _, h => absurd h (Nat.not_lt_zero _)
  | fuel + 1, p, h => by
    rw [chainTail, p.readTail_eq]
    refine .get_bind ?_
    rw [binaryOperator?_localize]
    cases hop : tier.op? p.current.kind with
    | none => exact .done _ _
    | some op =>
      have hless := p.unread_advance_lt (Calculator.Parser.isLast_of_op? hop)
      have hloose := tier.looseness_le
      refine .advance_bind ?_
      rw [← p.depth_advance]
      refine .deepen_bind _ ?_
      refine (operand_renders tier fuel _ ?_).bind fun right q hright => ?_
      · rw [Calculator.Parser.unread_withDepth]; omega
      · have hfewer : q.unread < p.advance.unread :=
          Calculator.Parser.Outcome.unread_of_result hright
        exact chainTail_renders tier _ fuel q (by omega)

theorem operand_renders (tier : Tier) : ∀ (fuel : Nat) (p : Calculator.Parser),
    11 * p.unread + 4 + tier.looseness < fuel →
    Renders language (operand tier fuel) p (p.readOperand tier)
  | 0, _, h => absurd h (Nat.not_lt_zero _)
  | fuel + 1, p, h => by
    cases tier with
    | sum =>
      rw [p.readOperand_sum]
      exact chain_renders .product fuel p (by simp only [Tier.looseness] at h ⊢; omega)
    | product =>
      rw [p.readOperand_product]
      exact factor_renders fuel p (by simp only [Tier.looseness] at h; omega)

theorem factor_renders : ∀ (fuel : Nat) (p : Calculator.Parser), 11 * p.unread + 3 < fuel →
    Renders language (factor fuel) p p.readFactor
  | 0, _, h => absurd h (Nat.not_lt_zero _)
  | fuel + 1, p, h => by
    rw [factor, p.readFactor_eq]
    refine (power_renders fuel p (by omega)).bind fun operand q _ => ?_
    refine .get_bind (.ite_kind .bang (by simp) (fun _ => ?_) fun _ => ?_)
    · exact .advance_bind (.done _ _)
    · exact .done _ _

theorem power_renders : ∀ (fuel : Nat) (p : Calculator.Parser), 11 * p.unread + 2 < fuel →
    Renders language (power fuel) p p.readPower
  | 0, _, h => absurd h (Nat.not_lt_zero _)
  | fuel + 1, p, h => by
    rw [power, p.readPower_eq]
    refine (atom_renders fuel p (by omega)).bind fun base q hbase => ?_
    have hless : q.unread < p.unread := Calculator.Parser.Outcome.unread_of_result hbase
    have hle := q.unread_advance_le
    refine .get_bind (.ite_kind .caret (by simp) (fun _ => ?_) fun _ => .done _ _)
    rw [← q.depth_advance]
    refine .advance_bind (.nested_bind (power_renders fuel _ ?_) fun exponent r => .done _ _)
    rw [Calculator.Parser.unread_withDepth]
    omega

/-- The only token with words in it is one that could not be read: its message is passed on. -/
theorem atom_renders : ∀ (fuel : Nat) (p : Calculator.Parser), 11 * p.unread + 1 < fuel →
    Renders language (atom fuel) p p.readAtom
  | 0, _, h => absurd h (Nat.not_lt_zero _)
  | fuel + 1, p, h => by
    have hless (hlast : p.current.kind.isLast = false) := p.unread_advance_lt hlast
    rw [atom, p.readAtom_eq]
    refine .get_bind ?_
    rw [kind_localize]
    cases hcurrent : p.current.kind <;> rw [hcurrent] at hless
    case number | text => exact .advance_bind (.done _ _)
    case identifier name =>
      refine .advance_bind (.get_bind (.ite_kind .opening (by simp) (fun _ => ?_) fun _ => ?_))
      · have hnaming : (Cause.unknownFunction name).kind = .naming := rfl
        exact .failed (notice_localize p.advance hnaming _) _
      · exact .done _ _
    case function name =>
      have hless := hless rfl
      exact .advance_bind (call_renders name p.current.span fuel p.advance (by omega))
    case opening =>
      have hless := hless rfl
      refine .advance_bind ((expression_renders fuel p.advance (by omega)).bind fun inner q _ => ?_)
      have hclosing : Renders language (consume .closing .missingClosing) q
          ((q.readToken .closing .missingClosing).map (Token.localize language)) :=
        consume_renders q .closing (by simp) rfl
      have hadvised := hclosing.advising .matchingParentheses
      rw [Result.advise_map] at hadvised
      exact hadvised.map_bind fun _ r _ => .done inner r
    case minus =>
      have hless := hless rfl
      rw [← p.depth_advance]
      refine .advance_bind (.nested_bind (atom_renders fuel _ ?_) fun operand q => .done _ _)
      rw [Calculator.Parser.unread_withDepth]
      omega
    case fault cause => exact .failed (lexicalNotice_localize p hcurrent) p
    case finish => exact grammatical_renders p .unexpectedEnd rfl _
    case newline | semicolon => exact grammatical_renders p .invalidExpression rfl _
    all_goals exact grammatical_renders p (.unexpectedToken p.current.lexeme) rfl _

/-- A call is read behind its name. The number of arguments is checked on both sides alike. -/
theorem call_renders (name : String) (span : Span) : ∀ (fuel : Nat) (p : Calculator.Parser),
    11 * p.unread + 1 < fuel → Renders language (call name span fuel) p (p.readCall name span)
  | 0, _, h => absurd h (Nat.not_lt_zero _)
  | fuel + 1, p, h => by
    rw [call, p.readCall_eq]
    have hopening : Renders language (consume .opening (.missingOpeningAfter name)) p _ :=
      consume_renders p .opening (by simp) rfl
    refine hopening.map_bind fun _ q hq => ?_
    obtain ⟨hkind, -, rfl⟩ := Calculator.Parser.readToken_eq_ok hq
    have hless := p.unread_advance_lt (Calculator.Parser.isLast_of_eq hkind rfl)
    refine .get_bind (Renders.bind ?_ fun args r _ => ?_)
    · exact .ite_kind .closing (by simp) (fun _ => .done _ _)
        fun _ => arguments_renders fuel p.advance (by omega)
    · have hclosing :
          Renders language (consume .closing (.missingClosingAfterArguments name)) r _ :=
        consume_renders r .closing (by simp) rfl
      exact hclosing.map_bind fun close s _ => .checkCount_bind _ _ _ (.done _ _)

theorem arguments_renders : ∀ (fuel : Nat) (p : Calculator.Parser), 11 * p.unread + 10 < fuel →
    Renders language (arguments fuel) p p.readArguments
  | 0, _, h => absurd h (Nat.not_lt_zero _)
  | fuel + 1, p, h => by
    rw [arguments, p.readArguments_eq]
    refine (expression_renders fuel p (by omega)).bind fun arg q harg => ?_
    have hless : q.unread < p.unread := Calculator.Parser.Outcome.unread_of_result harg
    have hle := q.unread_advance_le
    refine .get_bind (.ite_kind .comma (by simp) (fun _ => ?_) fun _ => .done _ _)
    refine .advance_bind ((arguments_renders fuel q.advance (by omega)).bind fun args r _ => ?_)
    exact .done _ _

end

/-! ## Programs -/

/-- Both find a separator and pass it, or stay. -/
theorem matchSeparator_bind {p : Calculator.Parser} {f : Bool → Rule α} {r s : Result α}
    (hr : p.current.kind.isSeparator = true → Renders language (f true) p.advance r)
    (hs : p.current.kind.isSeparator = false → Renders language (f false) p s) :
    Renders language (matchSeparator >>= f) p (if p.current.kind.isSeparator then r else s) := by
  have hseparator : (p.localize language).current.kind.isSeparator = p.current.kind.isSeparator :=
    TokenKind.isSeparator_localize language _
  cases h : p.current.kind.isSeparator with
  | true =>
    have hmatch : Renders language matchSeparator p (.ok (true, p.advance)) := by
      refine .get_bind ?_
      rw [if_pos (by rw [hseparator, h])]
      exact .advance_bind (.done _ _)
    exact hmatch.bind_ok (hr h)
  | false =>
    have hmatch : Renders language matchSeparator p (.ok (false, p)) := by
      refine .get_bind ?_
      rw [if_neg (by rw [hseparator, h]; simp)]
      exact .done _ _
    exact hmatch.bind_ok (hs h)

theorem skipSeparators_renders : ∀ (fuel : Nat) (p : Calculator.Parser), p.unread < fuel →
    Renders language (skipSeparators fuel) p (.ok ((), p.skipSeparators))
  | 0, _, h => absurd h (Nat.not_lt_zero _)
  | fuel + 1, p, h => by
    have hskip : (.ok ((), p.skipSeparators) : Result Unit)
        = if p.current.kind.isSeparator then .ok ((), p.advance.skipSeparators)
          else .ok ((), p) := by
      rw [Calculator.Parser.skipSeparators]
      split <;> rfl
    rw [skipSeparators, hskip]
    refine matchSeparator_bind (fun hseparator => ?_) fun _ => .done _ _
    have hless := p.unread_advance_lt (Calculator.Parser.isLast_of_isSeparator hseparator)
    exact skipSeparators_renders fuel p.advance (by omega)

/-- Statements are read as long as separators follow. -/
theorem statements_renders : ∀ (fuel : Nat) (p : Calculator.Parser), 11 * p.unread + 10 < fuel →
    Renders language (statements fuel) p p.readStatements
  | 0, _, h => absurd h (Nat.not_lt_zero _)
  | fuel + 1, p, h => by
    have hle := p.unread_skipSeparators_le
    rw [statements, p.readStatements_eq]
    refine (skipSeparators_renders fuel p (by omega)).bind_ok ?_
    refine .get_bind (.ite_kind .finish (by simp) (fun _ => .done _ _) fun _ => ?_)
    refine (expression_renders fuel p.skipSeparators (by omega)).bind fun statement q hq => ?_
    have hfewer : q.unread < p.skipSeparators.unread :=
      Calculator.Parser.Outcome.unread_of_result hq
    refine matchSeparator_bind (fun hseparator => ?_) fun _ => .done _ _
    have hless := q.unread_advance_lt (Calculator.Parser.isLast_of_isSeparator hseparator)
    refine (statements_renders fuel q.advance (by omega)).bind fun rest r _ => ?_
    exact .done _ _

/-- What is wrong with a token that stands where the source should end, in words. -/
theorem expectEnd_localize (p : Calculator.Parser) :
    (p.localize language).expectEnd
      = match p.endFault? with
        | some fault => .error (fault.notice language)
        | none => .ok () := by
  rw [Parser.expectEnd, Calculator.Parser.endFault?, kind_localize]
  cases hcurrent : p.current.kind
  case fault => exact congrArg Except.error (lexicalNotice_localize p hcurrent)
  all_goals rfl

/-- A program is read to its end, or what stands there is the fault. -/
theorem program_renders (fuel : Nat) (p : Calculator.Parser) (h : 11 * p.unread + 10 < fuel) :
    Renders language (program fuel) p
      (p.readStatements.andThen fun statements q =>
        match q.endFault? with
        | some fault => .error (fault, q)
        | none => .ok (.ofStatements statements, q)) := by
  refine (statements_renders fuel p h).bind fun statements q _ => ?_
  refine .get_bind ?_
  rw [expectEnd_localize]
  cases q.endFault? <;> rfl

/-- **Words on the way are words at the end.** Parsing in a language comes to the tree of the
source, or to its fault in the words of the language. -/
theorem parse_eq (language : Language) (source : String) :
    parse language source
      = some (match Expr.parse source with
        | .ok e => .ok e
        | .error fault => .error (fault.notice language)) := by
  have hunread : (Calculator.Parser.ofSource source).unread = source.length :=
    String.length_toList
  have hprogram : Renders language (program (11 * (source.length + 1)))
      (Calculator.Parser.ofSource source) _ := program_renders _ _ (by rw [hunread]; omega)
  rw [Renders, ofSource_localize] at hprogram
  simp only [parse, hprogram, Option.map_some]
  rw [Expr.parse, Calculator.Parser.readStatements]
  cases (Calculator.Parser.ofSource source).statements with
  | failed fault p => rfl
  | done statements p _ =>
    simp only [Calculator.Parser.Outcome.result, Result.andThen]
    cases p.endFault? <;> rfl

end Localized

end Calculator
