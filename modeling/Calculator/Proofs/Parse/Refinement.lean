import Calculator.Proofs.Parse.Accepts
import Calculator.Proofs.Parse.Tokens

/-!
# Pulling tokens from a cursor is reading their list

The parser pulls its tokens from a cursor. Behind an identifier it goes on as if an assignment
followed, and it comes back and reads the same characters again when none does. That gives what
reading the finished list of tokens gives, which needs no coming back (`Tokens.parse`): the same
tree or the same fault, with the same spans.

* `Parser.Reaches`: all states that the parser's moves can make of one, by advancing, by opening and
  closing levels, and by coming back to any checkpoint taken on the way.
* `Parser.Agrees`: a rule of the parser and a rule on lists come to the same. The parser then stands
  before the tokens that are left in the list, and behind the same end of a token.
* `Parser.rules_agree`: each rule agrees with its counterpart, at every place and depth. The
  induction is on the number of tokens that are left.
-/

namespace Calculator.Parser

/-! ## Moves -/

/-- Coming back to a checkpoint gives the place where it was taken, with the levels that are open
now. -/
theorem restore_eq_withDepth (p q : Parser) : q.restore p.checkpoint = p.withDepth q.depth := by
  have hscanned := p.scanned
  unfold restore checkpoint startingAt withDepth
  cases p
  simp_all

/-- The states that the moves of a parser make of `p`. -/
inductive Reaches (p : Parser) : Parser → Prop
  | here : Reaches p p
  | advance {q : Parser} (h : Reaches p q) : Reaches p q.advance
  | withDepth {q : Parser} (h : Reaches p q) (depth : Nat) : Reaches p (q.withDepth depth)
  | restore {q r : Parser} (hq : Reaches p q) (hr : Reaches p r) :
      Reaches p (q.restore r.checkpoint)

/-- One place leads to another, which leads to a third. -/
theorem Reaches.trans {p q r : Parser} (hpq : p.Reaches q) (hqr : q.Reaches r) : p.Reaches r := by
  induction hqr with
  | here => exact hpq
  | advance _ ih => exact ih.advance
  | withDepth _ depth ih => exact ih.withDepth depth
  | restore _ _ ihq ihr => exact ihq.restore ihr

theorem tokens_advance_suffix (p : Parser) : p.advance.tokens <:+ p.tokens := by
  cases h : p.current.kind.isLast with
  | true => rw [advance, if_pos h]
  | false => rw [tokens_advance h]; exact List.suffix_cons _ _

/-- No move leaves the tokens that were left to read at the start. -/
theorem Reaches.suffix {p q : Parser} (h : p.Reaches q) : q.tokens <:+ p.tokens := by
  induction h with
  | here => exact List.suffix_rfl
  | advance _ ih => exact (tokens_advance_suffix _).trans ih
  | withDepth _ _ ih => exact ih
  | restore _ _ _ ihr =>
    rw [restore_eq_withDepth]
    exact ihr

/-- Wherever a parser gets, its token is one that was left to read. -/
theorem Reaches.current_mem {p q : Parser} (h : p.Reaches q) : q.current ∈ p.tokens :=
  h.suffix.subset (List.mem_of_mem_head? q.head_tokens)

/-- Where a rule called at `p` may leave the parser: with the levels open that were open. -/
structure Leaves (p q : Parser) : Prop where
  reaches : p.Reaches q
  depth : q.depth = p.depth

theorem Leaves.here (p : Parser) : p.Leaves p := ⟨.here, rfl⟩

/-- A rule may leave its parser one token further on. -/
theorem Leaves.advance {p q : Parser} (h : p.Leaves q) : p.Leaves q.advance :=
  ⟨h.reaches.advance, by rw [depth_advance, h.depth]⟩

theorem Leaves.trans {p q r : Parser} (hpq : p.Leaves q) (hqr : q.Leaves r) : p.Leaves r :=
  ⟨hpq.reaches.trans hqr.reaches, hqr.depth.trans hpq.depth⟩

/-- A rule that is called one level deeper leaves the parser within the level. -/
theorem Leaves.close {p q r : Parser} (hpq : p.Leaves q) {depth : Nat}
    (hqr : (q.withDepth depth).Reaches r) : p.Leaves (r.withDepth p.depth) :=
  ⟨((hpq.reaches.withDepth depth).trans hqr).withDepth p.depth, rfl⟩

/-! ## Agreement -/

variable {α β : Type} {m n : Nat} {L L' : Parser → Prop}

/-- The results are the same, and the parser is left at a state with the property `L`. -/
inductive Agrees (L : Parser → Prop) : Result α → Tokens.Reading α n → Prop
  | done {a : α} {q : Parser} {h : q.tokens.length < n} (hq : L q) :
      Agrees L (.ok (a, q)) (.ok ⟨a, q.tokens, q.previousEnd, h⟩)
  | failed {fault : Fault} {q : Parser} (hq : L q) : Agrees L (.error (fault, q)) (.error fault)

/-- Going on agrees if what comes first does and what follows does where it starts. -/
theorem Agrees.andThen {r : Result α} {x : Tokens.Reading α m} (h : Agrees L r x)
    {f : α → Parser → Result β} {g : Tokens.Read α m → Tokens.Reading β n}
    (hfailed : ∀ q, L q → L' q)
    (hdone : ∀ a q hq, L q → Agrees L' (f a q) (g ⟨a, q.tokens, q.previousEnd, hq⟩)) :
    Agrees L' (r.andThen f) (x >>= g) := by
  cases h with
  | done hq => exact hdone _ _ _ hq
  | failed hq => exact .failed (hfailed _ hq)

/-- The list of tokens has no count of levels to give back. -/
theorem Agrees.closeTo {r : Result α} {x : Tokens.Reading α n} (h : Agrees L r x) {depth : Nat}
    (hclosed : ∀ q, L q → L' (q.withDepth depth)) : Agrees L' (r.closeTo depth) x := by
  cases h with
  | done hq => exact .done (hclosed _ hq)
  | failed hq => exact .failed (hclosed _ hq)

theorem Agrees.advise {r : Result α} {x : Tokens.Reading α n} (h : Agrees L r x)
    (advice : Advice) : Agrees L (r.advise advice) (Tokens.advise advice x) := by
  cases h with
  | done hq => exact .done hq
  | failed hq => exact .failed hq

theorem Agrees.mono {r : Result α} {x : Tokens.Reading α n} (h : Agrees L r x)
    (hL : ∀ q, L q → L' q) : Agrees L' r x := by
  cases h with
  | done hq => exact .done (hL _ hq)
  | failed hq => exact .failed (hL _ hq)

/-- Giving a weaker bound on the tokens that are left changes nothing. -/
theorem Agrees.weaken {r : Result α} {x : Tokens.Reading α m} (h : Agrees L r x)
    {g : Tokens.Read α m → Tokens.Reading α n}
    (hg : ∀ a ts stop hts, ∃ hts', g ⟨a, ts, stop, hts⟩ = .ok ⟨a, ts, stop, hts'⟩) :
    Agrees L r (x >>= g) := by
  cases h with
  | @done a q hfewer hq =>
    obtain ⟨hfewer', hdone⟩ := hg a q.tokens q.previousEnd hfewer
    change Agrees L (.ok (a, q)) (g ⟨a, q.tokens, q.previousEnd, hfewer⟩)
    rw [hdone]
    exact .done hq
  | failed hq => exact .failed hq

/-! ## Single tokens -/

/-- The end of what was read is that of the token passed. -/
theorem previousEnd_advance {p : Parser} (h : p.current.kind.isLast = false) :
    p.advance.previousEnd = p.current.span.stop := by
  rw [advance, if_neg (by simp [h])]
  rfl

/-- There is always a token left to read. -/
theorem tokens_eq_cons (p : Parser) : ∃ ts, p.tokens = p.current :: ts := by
  cases h : p.current.kind.isLast with
  | true => exact ⟨[], tokens_of_isLast h⟩
  | false => exact ⟨p.advance.tokens, tokens_advance h⟩

theorem length_tokens_advance_lt {p : Parser} (h : p.current.kind.isLast = false) :
    p.advance.tokens.length < p.tokens.length := by
  rw [tokens_advance h]
  exact Nat.lt_succ_self _

theorem nextSpan_tokens (p : Parser) (stop : Nat) :
    Tokens.nextSpan stop p.tokens = p.current.span := by
  obtain ⟨ts, hts⟩ := p.tokens_eq_cons
  rw [hts]
  rfl

/-- A missing token is missed at the same place in both. -/
theorem missing_tokens (p : Parser) (cause : Cause) :
    Tokens.missing cause p.previousEnd p.tokens = p.missing cause := by
  obtain ⟨ts, hts⟩ := p.tokens_eq_cons
  rw [hts]
  rfl

section Take

variable (looked : TokenKind → Prop) [DecidablePred looked]

/-- Looking for a token in the list is looking at the parser's current one. -/
theorem take?_tokens (p : Parser) (hlast : looked p.current.kind → p.current.kind.isLast = false) :
    (looked p.current.kind ∧ ∃ h, Tokens.take? looked p.tokens
        = some ⟨p.current, p.advance.tokens, p.advance.previousEnd, h⟩)
      ∨ (¬looked p.current.kind ∧ Tokens.take? looked p.tokens = none) := by
  by_cases hp : looked p.current.kind
  · left
    rw [tokens_advance (hlast hp), previousEnd_advance (hlast hp), Tokens.take?, if_pos hp]
    exact ⟨hp, Nat.lt_succ_self _, rfl⟩
  · right
    obtain ⟨ts, hts⟩ := p.tokens_eq_cons
    rw [hts, Tokens.take?, if_neg hp]
    exact ⟨hp, rfl⟩

end Take

/-- The operator at hand is the first of the tokens that are left. -/
theorem takeOp?_tokens (p : Parser) (tier : Tier) :
    (∃ op, tier.op? p.current.kind = some op ∧ ∃ h, Tokens.takeOp? tier p.tokens
        = some (op, ⟨p.current, p.advance.tokens, p.advance.previousEnd, h⟩))
      ∨ (tier.op? p.current.kind = none ∧ Tokens.takeOp? tier p.tokens = none) := by
  cases hop : tier.op? p.current.kind with
  | some op =>
    left
    have hlast := isLast_of_op? hop
    rw [tokens_advance hlast, previousEnd_advance hlast, Tokens.takeOp?, hop]
    exact ⟨op, rfl, Nat.lt_succ_self _, rfl⟩
  | none =>
    right
    obtain ⟨ts, hts⟩ := p.tokens_eq_cons
    rw [hts, Tokens.takeOp?, hop]
    exact ⟨rfl, rfl⟩

/-- A token is found in both, or missed in both. -/
theorem token_agrees (p : Parser) {kind : TokenKind} (hlast : kind.isLast = false) (cause : Cause) :
    Agrees p.Leaves (p.readToken kind cause) (Tokens.token kind cause p.previousEnd p.tokens) := by
  rw [readToken, Tokens.token]
  obtain ⟨hp, _, htake⟩ | ⟨hp, htake⟩ := take?_tokens (· = kind) p (isLast_of_eq · hlast)
  · rw [if_pos hp, htake]
    exact .done (Leaves.here p).advance
  · rw [if_neg hp, htake, missing_tokens]
    exact .failed (.here p)

/-! ## Rules -/

/-- The rules that call themselves agree with their counterparts, where fewer than `bound` tokens
are left. -/
structure RulesAgree (bound : Nat) : Prop where
  expression (p : Parser) (hp : p.tokens.length < bound) :
    Agrees p.Leaves p.readExpression (Tokens.expression p.depth p.previousEnd p.tokens)
  operand (tier : Tier) (p : Parser) (hp : p.tokens.length < bound) :
    Agrees p.Leaves (p.readOperand tier) (Tokens.operand tier p.depth p.previousEnd p.tokens)
  tail (tier : Tier) (left : Expr) (p : Parser) (hp : p.tokens.length < bound) :
    Agrees p.Reaches (p.readTail tier left)
      (Tokens.tail tier p.depth left p.previousEnd p.tokens)
  power (p : Parser) (hp : p.tokens.length < bound) :
    Agrees p.Leaves p.readPower (Tokens.power p.depth p.previousEnd p.tokens)
  atom (p : Parser) (hp : p.tokens.length < bound) :
    Agrees p.Leaves p.readAtom (Tokens.atom p.depth p.previousEnd p.tokens)
  arguments (p : Parser) (hp : p.tokens.length < bound) :
    Agrees p.Leaves p.readArguments (Tokens.listed p.depth p.previousEnd p.tokens)

variable {p : Parser}

/-- A call closes at once, or a list of arguments is read. -/
theorem arguments_agree {bound : Nat} (ih : RulesAgree bound) (q : Parser)
    (hq : q.tokens.length < bound) :
    Agrees q.Leaves (if q.current.kind = .closing then .ok ([], q) else q.readArguments)
      (Tokens.arguments q.depth q.previousEnd q.tokens) := by
  rw [Tokens.arguments]
  obtain ⟨hclosing, _, htake⟩ | ⟨hclosing, htake⟩ :=
    take?_tokens (· = .closing) q (isLast_of_eq · rfl)
  · rw [if_pos hclosing, htake]
    exact .done (.here q)
  · rw [if_neg hclosing, htake]
    exact (ih.arguments q hq).weaken fun _ _ _ _ => ⟨_, rfl⟩

theorem checkCall_agrees {name : String} {args : List Expr} {span : Span} {q : Parser} (hq : L q)
    (h : q.tokens.length < n) :
    Agrees L
      (match Builtin.find? name with
        | some builtin =>
          if builtin.arity.accepts args.length then .ok (.call name args span, q)
          else .error ({ cause := .wrongArgumentCount name builtin.arity, span }, q)
        | none => .ok (.call name args span, q))
      (Tokens.checkCall name args span >>= fun e =>
        (.ok ⟨e, q.tokens, q.previousEnd, h⟩ : Tokens.Reading Expr n)) := by
  rw [Tokens.checkCall]
  cases Builtin.find? name with
  | none => exact .done hq
  | some builtin =>
    dsimp only
    split
    · exact .done hq
    · exact .failed hq

/-- A call is read with the same arguments and checked for the same number. -/
theorem call_agrees {bound : Nat} (ih : RulesAgree bound) (name : String) (span : Span)
    (q : Parser) (hq : q.tokens.length < bound) :
    Agrees q.Leaves (q.readCall name span)
      (Tokens.call name span q.depth q.previousEnd q.tokens) := by
  rw [readCall_eq, Tokens.call]
  refine (q.token_agrees rfl _).andThen (fun _ h => h) fun _ q₁ hfewer hq₁ => ?_
  have hargs := arguments_agree ih q₁ (by omega)
  rw [hq₁.depth] at hargs
  refine hargs.andThen (fun _ h => hq₁.trans h) fun args q₂ _ hq₂ => ?_
  refine (q₂.token_agrees rfl _).andThen (fun _ h => (hq₁.trans hq₂).trans h) fun _ q₃ _ hq₃ => ?_
  exact checkCall_agrees ((hq₁.trans hq₂).trans hq₃) _

theorem group_agrees (ih : RulesAgree p.tokens.length) (h : p.current.kind = .opening) :
    Agrees p.Leaves
      (p.advance.readExpression.andThen fun inner q =>
        ((q.readToken .closing .missingClosing).advise .matchingParentheses).andThen
          fun _ r => .ok (inner, r))
      (Tokens.atom p.depth p.previousEnd p.tokens) := by
  have hlast := isLast_of_eq h rfl
  have hinner := ih.expression p.advance (length_tokens_advance_lt hlast)
  have hadvance := (Leaves.here p).advance
  rw [depth_advance, previousEnd_advance hlast] at hinner
  rw [tokens_advance hlast, Tokens.atom, h]
  refine hinner.andThen (fun _ h => hadvance.trans h) fun inner q _ hq => ?_
  refine ((q.token_agrees rfl _).advise _).andThen (fun _ h => (hadvance.trans hq).trans h)
    fun _ r _ hr => ?_
  exact .done ((hadvance.trans hq).trans hr)

theorem negated_agrees (ih : RulesAgree p.tokens.length) (h : p.current.kind = .minus) :
    Agrees p.Leaves
      (if p.depth < maxNesting then
        ((p.advance.withDepth (p.depth + 1)).readAtom.closeTo p.depth).andThen fun operand q =>
          .ok (.unary .negate operand (p.current.span.cover operand.span), q)
      else .error (tooDeep p.advance.current.span, p.advance))
      (Tokens.atom p.depth p.previousEnd p.tokens) := by
  have hlast := isLast_of_eq h rfl
  have hoperand := ih.atom (p.advance.withDepth (p.depth + 1)) (length_tokens_advance_lt hlast)
  have hadvance := (Leaves.here p).advance
  have hclosed := hoperand.closeTo fun _ hq => hadvance.close hq.reaches
  rw [tokens_advance hlast, Tokens.atom, h, ← previousEnd_advance hlast]
  dsimp only
  split
  · exact hclosed.andThen (fun _ h => h) fun _ _ _ hq => .done hq
  · rw [nextSpan_tokens]
    exact .failed hadvance

/-- The first token tells the atom in both. -/
theorem atom_agrees (ih : RulesAgree p.tokens.length) :
    Agrees p.Leaves p.readAtom (Tokens.atom p.depth p.previousEnd p.tokens) := by
  have hadvance := (Leaves.here p).advance
  rw [readAtom_eq]
  split
  case h_1 h | h_2 h =>
    have hlast := isLast_of_eq h rfl
    rw [tokens_advance hlast, Tokens.atom, h, ← previousEnd_advance hlast]
    exact .done hadvance
  case h_3 id h =>
    have hlast := isLast_of_eq h rfl
    rw [tokens_advance hlast, Tokens.atom, h, ← previousEnd_advance hlast]
    obtain ⟨hopening, _, htake⟩ | ⟨hopening, htake⟩ :=
      take?_tokens (· = .opening) p.advance (isLast_of_eq · rfl)
    · rw [if_pos hopening]
      dsimp only
      rw [htake]
      exact .failed hadvance
    · rw [if_neg hopening]
      dsimp only
      rw [htake]
      exact .done hadvance
  case h_4 name h =>
    have hlast := isLast_of_eq h rfl
    have hcall := call_agrees ih name p.current.span p.advance (length_tokens_advance_lt hlast)
    rw [depth_advance, previousEnd_advance hlast] at hcall
    rw [tokens_advance hlast, Tokens.atom, h]
    exact (hcall.mono fun _ hq => hadvance.trans hq).weaken fun _ _ _ _ => ⟨_, rfl⟩
  case h_5 h => exact group_agrees ih h
  case h_6 h => exact negated_agrees ih h
  all_goals
    -- No operand starts here, and nothing is read.
    obtain ⟨ts, hts⟩ := p.tokens_eq_cons
    rw [hts, Tokens.atom]
    simp only [*]
    exact .failed (.here p)

/-! ## From powers to expressions -/

/-- An exponent stands one level deeper in both. -/
theorem power_agrees (ih : RulesAgree p.tokens.length) :
    Agrees p.Leaves p.readPower (Tokens.power p.depth p.previousEnd p.tokens) := by
  rw [readPower_eq, Tokens.power]
  refine (atom_agrees ih).andThen (fun _ h => h) fun base q hfewer hq => ?_
  dsimp only
  obtain ⟨hcaret, _, htake⟩ | ⟨hcaret, htake⟩ :=
    take?_tokens (· = .caret) q (isLast_of_eq · rfl)
  · have hlast := isLast_of_eq hcaret rfl
    have hless := length_tokens_advance_lt hlast
    have hexponent := ih.power (q.advance.withDepth (q.depth + 1)) (Nat.lt_trans hless hfewer)
    have hclosed := hexponent.closeTo fun _ hr => hq.advance.close hr.reaches
    rw [if_pos hcaret, htake, hq.depth]
    rw [hq.depth] at hclosed
    dsimp only
    split
    · exact hclosed.andThen (fun _ h => h) fun _ _ _ hr => .done hr
    · rw [nextSpan_tokens]
      exact .failed hq.advance
  · rw [if_neg hcaret, htake]
    exact .done hq

theorem factor_agrees (ih : RulesAgree p.tokens.length) :
    Agrees p.Leaves p.readFactor (Tokens.factor p.depth p.previousEnd p.tokens) := by
  rw [readFactor_eq, Tokens.factor]
  refine (power_agrees ih).andThen (fun _ h => h) fun operand q hfewer hq => ?_
  dsimp only
  obtain ⟨hbang, _, htake⟩ | ⟨hbang, htake⟩ := take?_tokens (· = .bang) q (isLast_of_eq · rfl)
  · rw [if_pos hbang, htake]
    exact .done hq.advance
  · rw [if_neg hbang, htake]
    exact .done hq

/-- Operand and tail agree, and so do the levels behind them. -/
theorem chain_agrees (ih : RulesAgree p.tokens.length) {tier : Tier}
    (hoperand : Agrees p.Leaves (p.readOperand tier)
      (Tokens.operand tier p.depth p.previousEnd p.tokens)) :
    Agrees p.Leaves (p.readChain tier) (Tokens.chain tier p.depth p.previousEnd p.tokens) := by
  rw [readChain_eq, Tokens.chain]
  refine Agrees.closeTo (L := p.Reaches) ?_ fun q hq => ⟨hq.withDepth _, rfl⟩
  refine hoperand.andThen (fun _ h => h.reaches) fun left q hfewer hq => ?_
  have htail := ih.tail tier left q hfewer
  rw [hq.depth] at htail
  exact (htail.mono fun _ h => hq.reaches.trans h).weaken fun _ _ _ _ => ⟨_, rfl⟩

theorem operand_agrees (ih : RulesAgree p.tokens.length) (tier : Tier) :
    Agrees p.Leaves (p.readOperand tier)
      (Tokens.operand tier p.depth p.previousEnd p.tokens) := by
  have hproduct : Agrees p.Leaves (p.readOperand .product)
      (Tokens.operand .product p.depth p.previousEnd p.tokens) := by
    rw [readOperand_product, Tokens.operand]
    exact factor_agrees ih
  cases tier with
  | product => exact hproduct
  | sum =>
    rw [readOperand_sum, Tokens.operand]
    exact chain_agrees ih hproduct

/-- The levels of a tail's operators stay open until the chain closes them, so a list's depth at the
next operator is the parser's. -/
theorem tail_agrees (ih : RulesAgree p.tokens.length) (tier : Tier) (left : Expr) :
    Agrees p.Reaches (p.readTail tier left)
      (Tokens.tail tier p.depth left p.previousEnd p.tokens) := by
  rw [readTail_eq, Tokens.tail]
  obtain ⟨op, hop, _, htake⟩ | ⟨hop, htake⟩ := p.takeOp?_tokens tier
  · have hadvance := Reaches.here.advance (q := p)
    have hless := length_tokens_advance_lt (isLast_of_op? hop)
    have hright := ih.operand tier (p.advance.withDepth (p.depth + 1)) hless
    rw [hop, htake]
    dsimp only
    split
    · refine hright.andThen (fun _ h => (hadvance.withDepth _).trans h.reaches)
        fun right q hfewer hq => ?_
      have htail := ih.tail tier (.binary op left right (left.span.cover right.span)) q
        (Nat.lt_trans hfewer hless)
      rw [hq.depth] at htail
      exact (htail.mono fun _ h => ((hadvance.withDepth _).trans hq.reaches).trans h).weaken
        fun _ _ _ _ => ⟨_, rfl⟩
    · exact .failed hadvance
  · rw [hop, htake]
    exact .done .here

/-- Coming back is where the two differ: the list has the token behind the name at hand. -/
theorem assignment_agrees (ih : RulesAgree p.tokens.length) :
    Agrees p.Leaves p.readAssignment (Tokens.assignment p.depth p.previousEnd p.tokens) := by
  have hsum := chain_agrees ih (operand_agrees ih .sum)
  rw [readAssignment_eq]
  split
  case h_2 hkind =>
    obtain ⟨ts, hts⟩ := p.tokens_eq_cons
    rw [hts] at hsum ⊢
    rw [Tokens.assignment]
    split
    · exact absurd (by assumption) (hkind _)
    · exact hsum
  case h_1 target htarget =>
    have hlast := isLast_of_eq htarget rfl
    rw [tokens_advance hlast] at hsum ⊢
    rw [Tokens.assignment, htarget]
    obtain ⟨hequal, _, htake⟩ | ⟨hequal, htake⟩ :=
      take?_tokens (· = .equal) p.advance (isLast_of_eq · rfl)
    · have hless := length_tokens_advance_lt hlast
      have hvalue := ih.expression p.advance.advance
        (Nat.lt_trans (length_tokens_advance_lt (isLast_of_eq hequal rfl)) hless)
      have hbehind := (Leaves.here p).advance.advance
      rw [depth_advance, depth_advance] at hvalue
      rw [if_pos hequal, htake]
      exact hvalue.andThen (fun _ h => hbehind.trans h) fun _ _ _ hq => .done (hbehind.trans hq)
    · -- Here the parser has gone on and come back, which `readAssignment_eq` no longer shows.
      rw [if_neg hequal, htake]
      exact hsum

/-- A level is opened in both, or missing in both. -/
theorem expression_agrees (ih : RulesAgree p.tokens.length) :
    Agrees p.Leaves p.readExpression (Tokens.expression p.depth p.previousEnd p.tokens) := by
  rw [readExpression_eq, Tokens.expression]
  split
  · refine Agrees.closeTo (assignment_agrees (p := p.withDepth (p.depth + 1)) ih)
      fun _ hq => (Leaves.here p).close hq.reaches
  · rw [nextSpan_tokens]
    exact .failed (.here p)

theorem listed_agree (ih : RulesAgree p.tokens.length) :
    Agrees p.Leaves p.readArguments (Tokens.listed p.depth p.previousEnd p.tokens) := by
  rw [readArguments_eq, Tokens.listed]
  refine (expression_agrees ih).andThen (fun _ h => h) fun arg q hfewer hq => ?_
  dsimp only
  obtain ⟨hcomma, _, htake⟩ | ⟨hcomma, htake⟩ := take?_tokens (· = .comma) q (isLast_of_eq · rfl)
  · have hless := length_tokens_advance_lt (isLast_of_eq hcomma rfl)
    have hrest := ih.arguments q.advance (Nat.lt_trans hless hfewer)
    rw [depth_advance, hq.depth] at hrest
    rw [if_pos hcomma, htake]
    exact hrest.andThen (fun _ h => hq.advance.trans h) fun _ _ _ hr => .done (hq.advance.trans hr)
  · rw [if_neg hcomma, htake]
    exact .done hq

/-- **Each rule agrees with its counterpart on lists.** -/
theorem rules_agree (bound : Nat) : RulesAgree bound := by
  induction bound with
  | zero =>
    constructor <;> intros <;> exact absurd (by assumption) (Nat.not_lt_zero _)
  | succ bound ih =>
    have hbelow (p : Parser) (hp : p.tokens.length < bound + 1) : RulesAgree p.tokens.length := by
      have hle : ∀ q : Parser, q.tokens.length < p.tokens.length → q.tokens.length < bound :=
        fun q hq => by omega
      exact ⟨fun q hq => ih.expression q (hle q hq), fun tier q hq => ih.operand tier q (hle q hq),
        fun tier left q hq => ih.tail tier left q (hle q hq), fun q hq => ih.power q (hle q hq),
        fun q hq => ih.atom q (hle q hq), fun q hq => ih.arguments q (hle q hq)⟩
    exact ⟨fun p hp => expression_agrees (hbelow p hp),
      fun tier p hp => operand_agrees (hbelow p hp) tier,
      fun tier left p hp => tail_agrees (hbelow p hp) tier left,
      fun p hp => power_agrees (hbelow p hp), fun p hp => atom_agrees (hbelow p hp),
      fun p hp => listed_agree (hbelow p hp)⟩

/-! ## Programs -/

theorem skipSeparators_leaves (p : Parser) : p.Leaves p.skipSeparators := by
  fun_induction skipSeparators p with
  | case1 p _ ih => exact (Leaves.here p).advance.trans ih
  | case2 p => exact .here p

/-- The same separators are skipped. -/
theorem skipSeparators_tokens (p : Parser) :
    ∃ h, Tokens.skipSeparators p.previousEnd p.tokens
      = ⟨(), p.skipSeparators.tokens, p.skipSeparators.previousEnd, h⟩ := by
  fun_induction skipSeparators p with
  | case1 p hseparator ih =>
    obtain ⟨h, ih⟩ := ih
    obtain ⟨-, _, htake⟩ | ⟨hnot, -⟩ :=
      take?_tokens (·.isSeparator = true) p isLast_of_isSeparator
    · rw [Tokens.skipSeparators, htake]
      dsimp only
      rw [ih]
      exact ⟨_, rfl⟩
    · exact absurd hseparator hnot
  | case2 p hseparator =>
    obtain ⟨hfound, -⟩ | ⟨-, htake⟩ :=
      take?_tokens (·.isSeparator = true) p isLast_of_isSeparator
    · exact absurd hfound hseparator
    · rw [Tokens.skipSeparators, htake]
      exact ⟨_, rfl⟩

theorem atEnd_tokens (p : Parser) : Tokens.atEnd p.tokens = decide (p.current.kind = .finish) := by
  obtain ⟨ts, hts⟩ := p.tokens_eq_cons
  rw [hts]
  rfl

/-- What stands where the source should end is the same token. -/
theorem endFault?_tokens (p : Parser) : Tokens.endFault? p.tokens = p.endFault? := by
  obtain ⟨ts, hts⟩ := p.tokens_eq_cons
  rw [hts]
  rfl

/-- Statements are read as long as separators follow, by induction on what is left. -/
theorem statements_agree (p : Parser) :
    Agrees p.Leaves p.readStatements (Tokens.statements p.depth p.previousEnd p.tokens) := by
  have hskip := p.skipSeparators_leaves
  obtain ⟨hfewer, hrest⟩ := p.skipSeparators_tokens
  rw [readStatements_eq, Tokens.statements, hrest]
  dsimp only
  rw [atEnd_tokens]
  split
  · rw [if_pos (by simpa)]
    exact .done hskip
  · rw [if_neg (by simpa)]
    have hstatement := (rules_agree _).expression p.skipSeparators (Nat.lt_succ_self _)
    rw [hskip.depth] at hstatement
    refine hstatement.andThen (fun _ h => hskip.trans h) fun e q hq hleaves => ?_
    have hleaves := hskip.trans hleaves
    dsimp only
    obtain ⟨hseparator, hq', htake⟩ | ⟨hseparator, htake⟩ :=
      take?_tokens (·.isSeparator = true) q isLast_of_isSeparator
    · have hfurther := statements_agree q.advance
      rw [depth_advance, hleaves.depth] at hfurther
      rw [if_pos hseparator, htake]
      exact hfurther.andThen (fun _ h => hleaves.advance.trans h)
        fun _ _ _ hr => .done (hleaves.advance.trans hr)
    · rw [if_neg hseparator, htake]
      exact .done hleaves
termination_by p.tokens.length
decreasing_by omega

/-! ## Every rule -/

/-- Where a rule leaves the parser, in success and in failure. -/
def Outcome.left : Outcome α n → Parser
  | .done _ q _ => q
  | .failed _ q => q

theorem Agrees.left {o : Outcome α m} {x : Tokens.Reading α n} (h : Agrees L o.result x) :
    L o.left := by
  cases o with
  | done a q hq => cases h; assumption
  | failed fault q => cases h; assumption

/-- The rules of the parser. -/
inductive Rule where
  | expression
  | assignment
  | chain (tier : Tier)
  | tail (tier : Tier) (left : Expr)
  | operand (tier : Tier)
  | factor
  | power
  | atom
  | call (name : String) (span : Span)
  | arguments
  | statements

/-- Where a rule that is called at `p` leaves the parser. -/
def Rule.left (p : Parser) : Rule → Parser
  | .expression => p.expression.left
  | .assignment => p.assignment.left
  | .chain tier => (p.chain tier).left
  | .tail tier left => (p.chainTail tier left).left
  | .operand tier => (p.operand tier).left
  | .factor => p.factor.left
  | .power => p.power.left
  | .atom => p.atom.left
  | .call name span => (p.call name span).left
  | .arguments => p.arguments.left
  | .statements => p.statements.left

/-- A rule leaves the parser where its moves can bring it. -/
theorem reaches_left (p : Parser) (rule : Rule) : p.Reaches (rule.left p) := by
  have ih := rules_agree p.tokens.length
  cases rule with
  | expression => exact (expression_agrees ih).left.reaches
  | assignment => exact (assignment_agrees ih).left.reaches
  | chain tier => exact (chain_agrees ih (operand_agrees ih tier)).left.reaches
  | tail tier left => exact (tail_agrees ih tier left).left
  | operand tier => exact (operand_agrees ih tier).left.reaches
  | factor => exact (factor_agrees ih).left.reaches
  | power => exact (power_agrees ih).left.reaches
  | atom => exact (atom_agrees ih).left.reaches
  | call name span =>
    exact (call_agrees (rules_agree _) name span p (Nat.lt_succ_self _)).left.reaches
  | arguments => exact (listed_agree ih).left.reaches
  | statements => exact p.statements_agree.left.reaches

end Calculator.Parser

namespace Calculator.Expr

open Calculator.Parser (Rule)

/-- Parsing a source is parsing the list of its tokens. -/
theorem parse_eq_tokens (source : String) : parse source = Tokens.parse (tokenize source) := by
  have hagree : Parser.Agrees (Parser.ofSource source).Leaves
      (Parser.ofSource source).statements.result (Tokens.statements 0 0 (tokenize source)) :=
    (Parser.ofSource source).statements_agree
  rw [parse, Tokens.parse]
  generalize Tokens.statements 0 0 (tokenize source) = reading at hagree
  cases hstatements : (Parser.ofSource source).statements with
  | failed fault p =>
    rw [hstatements] at hagree
    cases hagree
    rfl
  | done es p hp =>
    rw [hstatements] at hagree
    cases hagree
    have hend := p.endFault?_tokens
    cases hfault : p.endFault? with
    | none => simp only [bind, Except.bind, hend, hfault]
    | some fault => simp only [bind, Except.bind, hend, hfault]

/-- **Coming back to a checkpoint changes nothing.** The tree or the fault of a source is the one
that is read from its finished list of tokens, looking one token ahead at an identifier. Wherever
the parser's moves bring it, with any number of returns to earlier places, it stands before a token
of that list, and each of its rules leaves it at such a place. Coming back gives the token, both
cursors and the end of the token before as they were. -/
theorem parse_refines_token_list (source : String) :
    parse source = Tokens.parse (tokenize source)
      ∧ (∀ p, (Parser.ofSource source).Reaches p →
          p.current ∈ tokenize source ∧ p.tokens <:+ tokenize source
            ∧ ∀ rule : Rule, (Parser.ofSource source).Reaches (rule.left p))
      ∧ ∀ p q : Parser, (q.restore p.checkpoint).current = p.current
          ∧ (q.restore p.checkpoint).start = p.start
          ∧ (q.restore p.checkpoint).previousEnd = p.previousEnd
          ∧ (q.restore p.checkpoint).after = p.after := by
  refine ⟨parse_eq_tokens source, fun p hp => ?_, fun p q => ?_⟩
  · exact ⟨hp.current_mem, hp.suffix, fun rule => hp.trans (p.reaches_left rule)⟩
  · rw [Parser.restore_eq_withDepth]
    exact ⟨rfl, rfl, rfl, rfl⟩

theorem parse_refines_token_list_product :
    (((Parser.ofSource "x * 2").advance.restore (Parser.ofSource "x * 2").checkpoint).current
      ∈ tokenize "x * 2") :=
  ((parse_refines_token_list "x * 2").2.1 _ (.restore (.advance .here) .here)).1

end Calculator.Expr
