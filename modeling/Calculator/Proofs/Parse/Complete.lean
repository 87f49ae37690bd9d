import Calculator.Proofs.Parse.Grammar
import Calculator.Proofs.Parse.Rules
import Calculator.Proofs.Tree

/-!
# What is derivable is read

The other direction: on tokens that the grammar derives, a rule of the parser succeeds with the tree
of the derivation, and leaves what the derivation leaves, provided there are as many levels free as
the derivation uses. With fewer it fails, and only for that reason. `Reads` says both at once.

The parser takes all it can: after an atom it looks for `^`, after a power for `!`, after an operand
for an operator. So a derivation is followed only where the next token does not go on with it.
`TokenKind.tightness` ranks the tokens by how far down the ladder they are looked for, and `Follow`
bounds the rank of the next token.
-/

namespace Calculator

/-- The rank of a token behind an operand: zero for those that end an expression, then the operators
from loose to tight, and last the tokens that cannot stand there. -/
def TokenKind.tightness : TokenKind → Nat
  | .closing | .comma | .semicolon | .newline | .finish => 0
  | .plus | .minus => 1
  | .star | .slash | .percent => 2
  | .bang => 3
  | .caret => 4
  | _ => 5

/-- The tokens that an operand starts with. -/
def TokenKind.startsOperand : TokenKind → Bool
  | .number _ | .text _ | .identifier _ | .function _ | .opening | .minus => true
  | _ => false

namespace Parser.Tier

/-- The rank of the operators of a tier. -/
def tightness : Tier → Nat
  | .sum => 1
  | .product => 2

/-- All operators of a tier have one rank. -/
theorem tightness_of_op? {tier : Tier} {kind : TokenKind} {op : BinaryOp}
    (h : tier.op? kind = some op) : kind.tightness = tier.tightness := by
  cases tier <;> cases kind <;> first | rfl | cases h

/-- A token of lower rank is no operator of the tier. -/
theorem op?_of_tightness_lt {tier : Tier} {kind : TokenKind}
    (h : kind.tightness < tier.tightness) : tier.op? kind = none := by
  cases hop : tier.op? kind with
  | none => rfl
  | some op => exact absurd (tightness_of_op? hop) (Nat.ne_of_lt h)

end Parser.Tier

namespace Grammar

open Calculator.Parser (Tier)

/-- There is a next token, of rank at most `bound`. -/
def Follow (bound : Nat) (rest : List Token) : Prop :=
  ∃ t ts, rest = t :: ts ∧ t.kind.tightness ≤ bound

/-- A bound on the next token may be raised. -/
theorem Follow.mono {a b : Nat} {rest : List Token} (h : Follow a rest) (hab : a ≤ b) :
    Follow b rest := by
  obtain ⟨t, ts, rfl, ht⟩ := h
  exact ⟨t, ts, rfl, Nat.le_trans ht hab⟩

/-- The kind of the next token gives its rank. -/
theorem follow_of_kind {bound : Nat} {t : Token} {kind : TokenKind} {ts : List Token}
    (h : t.kind = kind) (hkind : kind.tightness ≤ bound) : Follow bound (t :: ts) :=
  ⟨t, ts, rfl, h ▸ hkind⟩

theorem follow_of_op? {tier : Tier} {t : Token} {op : BinaryOp} {ts : List Token}
    (h : tier.op? t.kind = some op) : Follow tier.tightness (t :: ts) :=
  ⟨t, ts, rfl, Nat.le_of_eq (Tier.tightness_of_op? h)⟩

/-- The next token is of the kind `kind`. -/
def Next (kind : TokenKind) (rest : List Token) : Prop :=
  ∃ t ts, rest = t :: ts ∧ t.kind = kind

/-- A token of a known kind has a known rank. -/
theorem Next.follow {bound : Nat} {kind : TokenKind} {rest : List Token} (h : Next kind rest)
    (hkind : kind.tightness ≤ bound) : Follow bound rest := by
  obtain ⟨t, ts, rfl, ht⟩ := h
  exact follow_of_kind ht hkind

/-! ## First and second tokens -/

/-- The first token starts an operand. A name there is not followed by `=`, or by anything else that
cannot stand behind an operand. -/
def Opens (ts rest : List Token) : Prop :=
  ∃ t us, ts = t :: us ∧ t.kind.startsOperand = true
    ∧ ∀ id, t.kind = .identifier id → Follow 4 rest → Follow 4 us

/-- What opens an operand opens all that starts with it. -/
theorem Opens.trans {ts us rest : List Token} {t : Token} (h : Opens ts (t :: us))
    (ht : t.kind.tightness ≤ 4) : Opens ts rest := by
  obtain ⟨s, vs, rfl, hs, hname⟩ := h
  exact ⟨s, vs, rfl, hs, fun id hid _ => hname id hid ⟨t, us, rfl, ht⟩⟩

/-- An atom starts with a token that starts an operand, and a name is all there is of it. -/
theorem Atom.opens {n : Nat} {ts rest : List Token} {e : Expr} (h : Atom n ts e rest) :
    Opens ts rest := by
  cases h with
  | number h => exact ⟨_, _, rfl, by rw [h]; rfl, fun _ hid => by rw [h] at hid; cases hid⟩
  | text h => exact ⟨_, _, rfl, by rw [h]; rfl, fun _ hid => by rw [h] at hid; cases hid⟩
  | name h => exact ⟨_, _, rfl, by rw [h]; rfl, fun _ _ hrest => hrest⟩
  | call h => exact ⟨_, _, rfl, by rw [h]; rfl, fun _ hid => by rw [h] at hid; cases hid⟩
  | group h => exact ⟨_, _, rfl, by rw [h]; rfl, fun _ hid => by rw [h] at hid; cases hid⟩
  | negated h => exact ⟨_, _, rfl, by rw [h]; rfl, fun _ hid => by rw [h] at hid; cases hid⟩

theorem Power.opens {n : Nat} {ts rest : List Token} {e : Expr} (h : Power n ts e rest) :
    Opens ts rest := by
  cases h with
  | plain h => exact h.opens
  | raised hbase hcaret _ => exact hbase.opens.trans (by rw [hcaret]; decide)

theorem Factor.opens {n : Nat} {ts rest : List Token} {e : Expr} (h : Factor n ts e rest) :
    Opens ts rest := by
  cases h with
  | plain h => exact h.opens
  | factorial h hbang => exact h.opens.trans (by rw [hbang]; decide)

mutual

/-- A chain starts as its first operand does. -/
theorem Chain.opens {tier : Tier} {k n : Nat} {ts rest : List Token} {e : Expr} :
    Chain tier k n ts e rest → Opens ts rest
  | .first h => h.opens
  | .next hleft hsign _ =>
    hleft.opens.trans (by rw [Tier.tightness_of_op? (sign_iff.1 hsign)]; cases tier <;> decide)

theorem Operand.opens {tier : Tier} {n : Nat} {ts rest : List Token} {e : Expr} :
    Operand tier n ts e rest → Opens ts rest
  | .product h => h.opens
  | .factor h => h.opens

end

/-- An expression starts with an operand or with a name that is assigned to. -/
theorem Expression.starts {n : Nat} {ts rest : List Token} {e : Expr}
    (h : Expression n ts e rest) : ∃ t us, ts = t :: us ∧ t.kind.startsOperand = true := by
  cases h with
  | assign htarget => exact ⟨_, _, rfl, by rw [htarget]; rfl⟩
  | sum h =>
    obtain ⟨t, us, hts, ht, -⟩ := h.opens
    exact ⟨t, us, hts, ht⟩

theorem Listed.starts {n : Nat} {ts rest : List Token} {args : List Expr}
    (h : Listed n ts args rest) : ∃ t us, ts = t :: us ∧ t.kind.startsOperand = true := by
  cases h with
  | last h => exact h.starts
  | more h => exact h.starts

end Grammar

/-! ## Reading within the levels -/

namespace Parser

open Grammar

/-- Reading at depth `d` what takes `n` levels: with so many levels free the result is `a` and
leaves `rest`, with fewer it is the fault of a level too many. -/
structure Reads {α : Type} (d n : Nat) (a : α) (rest : List Token) (r : Result α) : Prop where
  fits (h : d + n ≤ maxNesting) : ∃ q, r = .ok (a, q) ∧ q.tokens = rest ∧ q.depth = d
  exceeds (h : maxNesting < d + n) :
    ∃ fault q, r = .error (fault, q) ∧ fault.cause = .nestedTooDeeply maxNesting

namespace Reads

variable {α β : Type} {d n m : Nat} {a : α} {b : β} {mid rest : List Token}

/-- A rule that takes no levels is done. -/
theorem ok {q : Parser} (hd : d ≤ maxNesting) (htokens : q.tokens = rest) (hdepth : q.depth = d) :
    Reads d 0 a rest (.ok (a, q)) :=
  ⟨fun _ => ⟨q, rfl, htokens, hdepth⟩, fun h => absurd hd (Nat.not_le_of_lt h)⟩

/-- The first shortage of levels is the one that is reported. -/
theorem andThen {r : Result α} {f : α → Parser → Result β} (h : Reads d n a mid r)
    (hf : ∀ q, q.tokens = mid → q.depth = d → Reads d m b rest (f a q)) :
    Reads d (max n m) b rest (r.andThen f) := by
  constructor
  · intro hfits
    obtain ⟨q, rfl, htokens, hdepth⟩ := h.fits (by omega)
    exact (hf q htokens hdepth).fits (by omega)
  · intro hexceeds
    by_cases hn : d + n ≤ maxNesting
    · obtain ⟨q, rfl, htokens, hdepth⟩ := h.fits hn
      exact (hf q htokens hdepth).exceeds (by omega)
    · obtain ⟨fault, q, rfl, hcause⟩ := h.exceeds (by omega)
      exact ⟨fault, q, rfl, hcause⟩

/-- `andThen` where going on takes no levels. -/
theorem thenOk {r : Result α} {f : α → Parser → Result β} (h : Reads d n a mid r)
    (hf : ∀ q, q.tokens = mid → q.depth = d → ∃ q', f a q = .ok (b, q') ∧ q'.tokens = rest
      ∧ q'.depth = d) : Reads d n b rest (r.andThen f) := by
  constructor
  · intro hfits
    obtain ⟨q, rfl, htokens, hdepth⟩ := h.fits hfits
    exact hf q htokens hdepth
  · intro hexceeds
    obtain ⟨fault, q, rfl, hcause⟩ := h.exceeds hexceeds
    exact ⟨fault, q, rfl, hcause⟩

/-- One level is opened, and closed again. -/
theorem deepen {r : Result α} {span : Span} {q : Parser}
    (h : d < maxNesting → Reads (d + 1) n a rest r) :
    Reads d (n + 1) a rest
      (if d < maxNesting then r.closeTo d else .error (tooDeep span, q)) := by
  constructor
  · intro hfits
    have hd : d < maxNesting := by omega
    obtain ⟨q', rfl, htokens, -⟩ := (h hd).fits (by omega)
    rw [if_pos hd]
    exact ⟨q'.withDepth d, rfl, htokens, rfl⟩
  · intro hexceeds
    by_cases hd : d < maxNesting
    · obtain ⟨fault, q', rfl, hcause⟩ := (h hd).exceeds (by omega)
      rw [if_pos hd]
      exact ⟨fault, q'.withDepth d, rfl, hcause⟩
    · rw [if_neg hd]
      exact ⟨tooDeep span, q, rfl, rfl⟩

/-- One level is opened and closed again, and going on takes no levels. -/
theorem deepenThen {r : Result α} {f : α → Parser → Result β} {span : Span} {q₀ : Parser}
    (h : d < maxNesting → Reads (d + 1) n a mid r) (hf : ∀ q, q.tokens = mid → q.depth = d →
      ∃ q', f a q = .ok (b, q') ∧ q'.tokens = rest ∧ q'.depth = d) :
    Reads d (n + 1) b rest
      (if d < maxNesting then (r.closeTo d).andThen f else .error (tooDeep span, q₀)) := by
  have hreads : Reads d (n + 1) b rest
      (Result.andThen (if d < maxNesting then r.closeTo d else .error (tooDeep span, q₀)) f) :=
    (deepen h).thenOk hf
  by_cases hd : d < maxNesting
  · rw [if_pos hd] at hreads ⊢
    exact hreads
  · rw [if_neg hd] at hreads ⊢
    exact hreads

end Reads

/-- The rule `f` reads `a` from the tokens of `ts` before `rest`, at every place, and uses `n`
levels: what the grammar says of the rule by `X n ts a rest`. -/
def ReadsFrom {α : Type} (f : Parser → Result α) (n : Nat) (ts : List Token) (a : α)
    (rest : List Token) : Prop :=
  ∀ p : Parser, p.tokens = ts → p.depth ≤ maxNesting → Reads p.depth n a rest (f p)

variable {p : Parser} {n m k : Nat} {ts us rest : List Token} {e : Expr} {t : Token}

/-- A bound on the next token rules out the kinds of higher rank. -/
theorem current_ne_of_follow {bound : Nat} {kind : TokenKind} (hp : p.tokens = rest)
    (hfollow : Follow bound rest) (hkind : bound < kind.tightness) : p.current.kind ≠ kind := by
  obtain ⟨next, vs, rfl, hnext⟩ := hfollow
  intro h
  rw [current_of_tokens hp] at h
  rw [h] at hnext
  exact absurd hnext (Nat.not_le_of_lt hkind)

/-- A token that is there is read. -/
theorem readToken_of_tokens {kind : TokenKind} {cause : Cause} (hp : p.tokens = t :: rest)
    (ht : t.kind = kind) : p.readToken kind cause = .ok (t, p.advance) := by
  rw [readToken, current_of_tokens hp, if_pos ht]

/-! ## Atoms -/

/-- Leaves take one token and no level. -/
theorem leaf_reads (hlast : t.kind.isLast = false)
    (h : ∀ p : Parser, p.tokens = t :: rest → p.readAtom = .ok (e, p.advance)) :
    ReadsFrom readAtom 0 (t :: rest) e rest := by
  intro p hp hd
  rw [h p hp]
  exact .ok hd (advance_of_tokens hp hlast) p.depth_advance

theorem number_reads {value : Number} (ht : t.kind = .number value) :
    ReadsFrom readAtom 0 (t :: rest) (.number value t.span) rest := by
  refine leaf_reads (isLast_of_eq ht rfl) fun p hp => ?_
  rw [readAtom_eq, current_of_tokens hp]
  simp only [ht]

theorem text_reads {value : String} (ht : t.kind = .text value) :
    ReadsFrom readAtom 0 (t :: rest) (.text value t.span) rest := by
  refine leaf_reads (isLast_of_eq ht rfl) fun p hp => ?_
  rw [readAtom_eq, current_of_tokens hp]
  simp only [ht]

/-- A name is a variable unless a parenthesis follows. -/
theorem name_reads {id : String} (ht : t.kind = .identifier id) (hfollow : Follow 4 rest) :
    ReadsFrom readAtom 0 (t :: rest) (.name id t.span) rest := by
  have hlast := isLast_of_eq ht rfl
  refine leaf_reads hlast fun p hp => ?_
  rw [readAtom_eq, current_of_tokens hp]
  simp only [ht]
  rw [if_neg (current_ne_of_follow (advance_of_tokens hp hlast) hfollow (by decide))]

/-- The arguments between the parentheses of a call. -/
def readBetween (p : Parser) : Result (List Expr) :=
  if p.current.kind = .closing then .ok ([], p) else p.readArguments

/-- A call reads its arguments between its parentheses, and their number is accepted. -/
theorem call_reads {name : String} {args : List Expr} {function opening closing : Token}
    (hfunction : function.kind = .function name) (hopening : opening.kind = .opening)
    (hclosing : closing.kind = .closing) (hcount : Expr.TakesArguments name args.length)
    (hargs : ReadsFrom readBetween n ts args (closing :: rest)) :
    ReadsFrom readAtom n (function :: opening :: ts)
      (.call name args (function.span.cover closing.span)) rest := by
  intro p hp hd
  obtain ⟨builtin, hfind, haccepts⟩ := hcount
  have hp₁ := advance_of_tokens hp (isLast_of_eq hfunction rfl)
  have hp₂ := advance_of_tokens hp₁ (isLast_of_eq hopening rfl)
  have hreads := hargs p.advance.advance hp₂ (by simpa using hd)
  rw [depth_advance, depth_advance] at hreads
  rw [readAtom_eq, current_of_tokens hp]
  simp only [hfunction]
  rw [readCall_eq, readToken_of_tokens hp₁ hopening]
  refine hreads.thenOk fun q hq hdepth => ?_
  refine ⟨q.advance, ?_, advance_of_tokens hq (isLast_of_eq hclosing rfl), by simp [hdepth]⟩
  simp only [readToken_of_tokens hq hclosing, Result.andThen, hfind, haccepts, if_true]

/-- Parentheses are read around an expression. -/
theorem group_reads {opening closing : Token} (hopening : opening.kind = .opening)
    (hclosing : closing.kind = .closing) (h : ReadsFrom readExpression n ts e (closing :: rest)) :
    ReadsFrom readAtom n (opening :: ts) e rest := by
  intro p hp hd
  have hreads := h p.advance (advance_of_tokens hp (isLast_of_eq hopening rfl)) (by simpa using hd)
  rw [depth_advance] at hreads
  rw [readAtom_eq, current_of_tokens hp]
  simp only [hopening]
  refine hreads.thenOk fun q hq hdepth => ?_
  refine ⟨q.advance, ?_, advance_of_tokens hq (isLast_of_eq hclosing rfl), by simp [hdepth]⟩
  rw [readToken_of_tokens hq hclosing]
  rfl

/-- A sign opens a level for its operand. -/
theorem negated_reads {minus : Token} (hminus : minus.kind = .minus)
    (h : ReadsFrom readAtom n ts e rest) :
    ReadsFrom readAtom (n + 1) (minus :: ts) (.unary .negate e (minus.span.cover e.span)) rest := by
  intro p hp hd
  have hp₁ := advance_of_tokens hp (isLast_of_eq hminus rfl)
  rw [readAtom_eq, current_of_tokens hp]
  simp only [hminus]
  exact Reads.deepenThen (h (p.advance.withDepth (p.depth + 1)) hp₁) fun q hq hdepth =>
    ⟨q, rfl, hq, hdepth⟩

/-- A call without arguments closes at once. -/
theorem nothing_reads (hcloses : Next .closing rest) : ReadsFrom readBetween 0 rest [] rest := by
  intro p hp hd
  obtain ⟨closing, us, rfl, hclosing⟩ := hcloses
  rw [readBetween, current_of_tokens hp, if_pos hclosing]
  exact .ok hd hp rfl

theorem some_reads {args : List Expr} (hstarts : ∃ t us, ts = t :: us ∧ t.kind.startsOperand = true)
    (h : ReadsFrom readArguments n ts args rest) : ReadsFrom readBetween n ts args rest := by
  intro p hp hd
  obtain ⟨t, us, rfl, ht⟩ := hstarts
  rw [readBetween, if_neg]
  · exact h p hp hd
  · intro hclosing
    rw [current_of_tokens hp] at hclosing
    rw [hclosing] at ht
    cases ht

/-- The last argument is followed by the closing parenthesis. -/
theorem last_reads (hcloses : Next .closing rest) (h : ReadsFrom readExpression n ts e rest) :
    ReadsFrom readArguments n ts [e] rest := by
  intro p hp hd
  rw [readArguments_eq]
  refine (h p hp hd).thenOk fun q hq hdepth => ⟨q, ?_, hq, hdepth⟩
  obtain ⟨closing, us, rfl, hclosing⟩ := hcloses
  rw [current_of_tokens hq, hclosing, if_neg (by decide)]

theorem more_reads {es : List Expr} {comma : Token} (hcomma : comma.kind = .comma)
    (h : ReadsFrom readExpression n ts e (comma :: us))
    (hrest : ReadsFrom readArguments m us es rest) :
    ReadsFrom readArguments (max n m) ts (e :: es) rest := by
  intro p hp hd
  rw [readArguments_eq]
  refine (h p hp hd).andThen fun q hq hdepth => ?_
  have hreads := hrest q.advance (advance_of_tokens hq (isLast_of_eq hcomma rfl))
    (by rw [depth_advance, hdepth]; exact hd)
  rw [depth_advance, hdepth] at hreads
  rw [current_of_tokens hq, if_pos hcomma]
  exact hreads.thenOk fun r hr hrdepth => ⟨r, rfl, hr, hrdepth⟩

/-! ## Powers and factors -/

/-- Where no caret follows, a power is its base. -/
theorem power_reads_plain (hfollow : Follow 3 rest) (h : ReadsFrom readAtom n ts e rest) :
    ReadsFrom readPower n ts e rest := by
  intro p hp hd
  rw [readPower_eq]
  refine (h p hp hd).thenOk fun q hq hdepth => ⟨q, ?_, hq, hdepth⟩
  rw [if_neg (current_ne_of_follow hq hfollow (by decide))]

/-- The exponent is read one level deeper, up to where the power ends. -/
theorem power_reads_raised {base exponent : Expr} {caret : Token} (hcaret : caret.kind = .caret)
    (hbase : ReadsFrom readAtom n ts base (caret :: us))
    (hexponent : ReadsFrom readPower m us exponent rest) :
    ReadsFrom readPower (max n (m + 1)) ts
      (.binary .power base exponent (base.span.cover exponent.span)) rest := by
  intro p hp hd
  rw [readPower_eq]
  refine (hbase p hp hd).andThen fun q hq hdepth => ?_
  have hq₁ := advance_of_tokens hq (isLast_of_eq hcaret rfl)
  rw [if_pos (by rw [current_of_tokens hq]; exact hcaret), hdepth]
  exact Reads.deepenThen (hexponent (q.advance.withDepth (p.depth + 1)) hq₁) fun r hr hdepth =>
    ⟨r, rfl, hr, hdepth⟩

/-- Where no exclamation mark follows, a factor is its power. -/
theorem factor_reads_plain (hfollow : Follow 2 rest) (h : ReadsFrom readPower n ts e rest) :
    ReadsFrom readFactor n ts e rest := by
  intro p hp hd
  rw [readFactor_eq]
  refine (h p hp hd).thenOk fun q hq hdepth => ⟨q, ?_, hq, hdepth⟩
  rw [if_neg (current_ne_of_follow hq hfollow (by decide))]

theorem factor_reads_factorial {bang : Token} (hbang : bang.kind = .bang)
    (h : ReadsFrom readPower n ts e (bang :: rest)) :
    ReadsFrom readFactor n ts (.unary .factorial e (e.span.cover bang.span)) rest := by
  intro p hp hd
  rw [readFactor_eq]
  refine (h p hp hd).thenOk fun q hq hdepth => ?_
  refine ⟨q.advance, ?_, advance_of_tokens hq (isLast_of_eq hbang rfl), by simp [hdepth]⟩
  rw [current_of_tokens hq, if_pos hbang]

/-! ## Chains

A chain is derived from the left, and the tail of the parser goes to the right. What both have in
common is a chain of `k` operators that has been read: the parser stands at its end, `k` levels
below its start, about to look for one more operator. -/

/-- A chain that is read without closing its levels. -/
def readOpenChain (tier : Tier) (p : Parser) : Result Expr :=
  (p.readOperand tier).andThen fun left q => q.readTail tier left

/-- Reading a chain at `p` comes to reading on after `k` operators, if the levels suffice. -/
structure ReadsChain (tier : Tier) (k n : Nat) (e : Expr) (rest : List Token) (p : Parser) :
    Prop where
  fits (h : p.depth + n ≤ maxNesting) : ∃ q : Parser,
    p.readOpenChain tier = q.readTail tier e ∧ q.tokens = rest ∧ q.depth = p.depth + k
  exceeds (h : maxNesting < p.depth + n) : ∃ fault q,
    p.readOpenChain tier = .error (fault, q) ∧ fault.cause = .nestedTooDeeply maxNesting

variable {tier : Tier}

/-- Before the first operator a chain is its operand. -/
theorem chain_reads_first (h : ReadsFrom (readOperand tier) n ts e rest) (hp : p.tokens = ts)
    (hd : p.depth ≤ maxNesting) : ReadsChain tier 0 n e rest p := by
  constructor
  · intro hfits
    obtain ⟨q, hq, htokens, hdepth⟩ := (h p hp hd).fits hfits
    exact ⟨q, by rw [readOpenChain, hq]; rfl, htokens, hdepth⟩
  · intro hexceeds
    obtain ⟨fault, q, hq, hcause⟩ := (h p hp hd).exceeds hexceeds
    exact ⟨fault, q, by rw [readOpenChain, hq]; rfl, hcause⟩

/-- After `k` operators one more is read, with an operand `k + 1` levels down. -/
theorem chain_reads_next {left right : Expr} {sign : Token} {op : BinaryOp}
    (hsign : tier.op? sign.kind = some op) (hleft : ReadsChain tier k n left (sign :: us) p)
    (hright : ReadsFrom (readOperand tier) m us right rest) :
    ReadsChain tier (k + 1) (max n (k + 1 + m))
      (.binary op left right (left.span.cover right.span)) rest p := by
  -- one more round of the tail, from where `k` operators have been read
  have hround (q : Parser) (hq : q.tokens = sign :: us) (hfree : q.depth < maxNesting) :
      q.readTail tier left
        = ((q.advance.withDepth (q.depth + 1)).readOperand tier).andThen fun right r =>
            r.readTail tier (.binary op left right (left.span.cover right.span)) := by
    rw [readTail_eq, current_of_tokens hq]
    simp only [hsign]
    rw [if_pos hfree]
  have hoperand (q : Parser) (hq : q.tokens = sign :: us) (hfree : q.depth < maxNesting) :
      Reads (q.depth + 1) m right rest ((q.advance.withDepth (q.depth + 1)).readOperand tier) :=
    hright (q.advance.withDepth (q.depth + 1)) (advance_of_tokens hq (isLast_of_op? hsign)) hfree
  constructor
  · intro hfits
    obtain ⟨q, hchain, hq, hdepth⟩ := hleft.fits (by omega)
    have hfree : q.depth < maxNesting := by omega
    obtain ⟨r, hr, htokens, hrdepth⟩ := (hoperand q hq hfree).fits (by omega)
    refine ⟨r, ?_, htokens, by omega⟩
    rw [hchain, hround q hq hfree, hr]
    rfl
  · intro hexceeds
    by_cases hn : p.depth + n ≤ maxNesting
    · obtain ⟨q, hchain, hq, hdepth⟩ := hleft.fits hn
      by_cases hfree : q.depth < maxNesting
      · obtain ⟨fault, r, hr, hcause⟩ := (hoperand q hq hfree).exceeds (by omega)
        refine ⟨fault, r, ?_, hcause⟩
        rw [hchain, hround q hq hfree, hr]
        rfl
      · refine ⟨tooDeep q.current.span, q.advance, ?_, rfl⟩
        rw [hchain, readTail_eq, current_of_tokens hq]
        simp only [hsign]
        rw [if_neg hfree]
    · exact hleft.exceeds (by omega)

/-- Where no operator follows, the chain is complete. -/
theorem chain_reads {bound : Nat} (hfollow : Follow bound rest) (hbound : bound < tier.tightness)
    (h : ∀ p : Parser, p.tokens = ts → p.depth ≤ maxNesting → ReadsChain tier k n e rest p) :
    ReadsFrom (readChain tier) n ts e rest := by
  intro p hp hd
  rw [readChain_eq]
  constructor
  · intro hfits
    obtain ⟨q, hchain, hq, -⟩ := (h p hp hd).fits hfits
    obtain ⟨next, vs, rfl, hnext⟩ := hfollow
    have hop : tier.op? q.current.kind = none := by
      rw [current_of_tokens hq]
      exact Tier.op?_of_tightness_lt (Nat.lt_of_le_of_lt hnext hbound)
    refine ⟨q.withDepth p.depth, ?_, hq, rfl⟩
    rw [readOpenChain] at hchain
    rw [hchain, readTail_eq, hop]
    rfl
  · intro hexceeds
    obtain ⟨fault, q, hchain, hcause⟩ := (h p hp hd).exceeds hexceeds
    refine ⟨fault, q.withDepth p.depth, ?_, hcause⟩
    rw [readOpenChain] at hchain
    rw [hchain]
    rfl

/-! ## Expressions -/

/-- A name with an equals sign behind it is not read as an operand. -/
theorem assign_reads {target equal : Token} {id : String} (htarget : target.kind = .identifier id)
    (hequal : equal.kind = .equal) (h : ReadsFrom readExpression n ts e rest) :
    ReadsFrom readExpression (n + 1) (target :: equal :: ts)
      (.assign id e (target.span.cover e.span)) rest := by
  intro p hp hd
  rw [readExpression_eq]
  refine Reads.deepen fun hfree => ?_
  have hq : (p.withDepth (p.depth + 1)).tokens = target :: equal :: ts := hp
  have hq₁ := advance_of_tokens hq (isLast_of_eq htarget rfl)
  have hq₂ := advance_of_tokens hq₁ (isLast_of_eq hequal rfl)
  have hreads := h _ hq₂ (by simp only [depth_advance]; exact hfree)
  rw [depth_advance, depth_advance] at hreads
  rw [readAssignment_eq, current_of_tokens hq, current_of_tokens hq₁]
  simp only [htarget, hequal, if_true]
  exact hreads.thenOk fun r hr hrdepth => ⟨r, rfl, hr, hrdepth⟩

/-- An operand that starts with a name is read after coming back to it. -/
theorem sum_reads (hopens : Opens ts rest) (hfollow : Follow 0 rest)
    (h : ReadsFrom (readChain .sum) n ts e rest) : ReadsFrom readExpression (n + 1) ts e rest := by
  intro p hp hd
  rw [readExpression_eq]
  refine Reads.deepen fun hfree => ?_
  have hq : (p.withDepth (p.depth + 1)).tokens = ts := hp
  have hreads := h _ hq hfree
  rw [readAssignment_eq]
  split
  case h_2 => exact hreads
  case h_1 target htarget =>
    obtain ⟨t, us, rfl, -, hname⟩ := hopens
    rw [current_of_tokens hq] at htarget
    have hus := hname target htarget (hfollow.mono (by decide))
    have hq₁ := advance_of_tokens hq (isLast_of_eq htarget rfl)
    rw [if_neg (current_ne_of_follow hq₁ hus (by decide))]
    exact hreads

end Parser

/-! ## Derivations are followed -/

namespace Grammar

open Calculator.Parser (Tier ReadsFrom ReadsChain)

mutual

/-- **What the grammar derives is read**, if the levels suffice. The induction is on the derivation;
the token behind what is derived has to be one that ends it. -/
theorem Expression.reads {n : Nat} {ts rest : List Token} {e : Expr} :
    Expression n ts e rest → e.CallsAccepted → Follow 0 rest →
      ReadsFrom Parser.readExpression n ts e rest
  | .assign htarget hequal hvalue, haccepted, hfollow =>
    Parser.assign_reads htarget hequal
      (hvalue.reads ((Expr.callsAccepted_assign _ _ _).1 haccepted) hfollow)
  | .sum h, haccepted, hfollow =>
    Parser.sum_reads h.opens hfollow (Parser.chain_reads hfollow (by decide)
      (h.reads haccepted (hfollow.mono (by decide))))

/-- A chain is derived operator by operator, and read in the same order. -/
theorem Chain.reads {tier : Tier} {k n : Nat} {ts rest : List Token} {e : Expr} :
    Chain tier k n ts e rest → e.CallsAccepted → Follow tier.tightness rest →
      ∀ p : Parser, p.tokens = ts → p.depth ≤ maxNesting → ReadsChain tier k n e rest p
  | .first h, haccepted, hfollow => fun _ hp hd =>
    Parser.chain_reads_first (h.reads haccepted hfollow) hp hd
  | .next hleft hsign hright, haccepted, hfollow => fun p hp hd =>
    have ⟨hl, hr⟩ := (Expr.callsAccepted_binary _ _ _ _).1 haccepted
    have hop := sign_iff.1 hsign
    Parser.chain_reads_next hop (hleft.reads hl (follow_of_op? hop) p hp hd)
      (hright.reads hr hfollow)

theorem Operand.reads {tier : Tier} {n : Nat} {ts rest : List Token} {e : Expr} :
    Operand tier n ts e rest → e.CallsAccepted → Follow tier.tightness rest →
      ReadsFrom (Parser.readOperand tier) n ts e rest
  | .product h, haccepted, hfollow => fun p hp hd => by
    rw [Parser.readOperand_sum]
    exact Parser.chain_reads hfollow (by decide)
      (h.reads haccepted (hfollow.mono (by decide))) p hp hd
  | .factor h, haccepted, hfollow => fun p hp hd => by
    rw [Parser.readOperand_product]
    exact h.reads haccepted hfollow p hp hd

/-- What follows a power within a factor may be an exclamation mark. -/
theorem Factor.reads {n : Nat} {ts rest : List Token} {e : Expr} :
    Factor n ts e rest → e.CallsAccepted → Follow 2 rest →
      ReadsFrom Parser.readFactor n ts e rest
  | .plain h, haccepted, hfollow =>
    Parser.factor_reads_plain hfollow (h.reads haccepted (hfollow.mono (by decide)))
  | .factorial h hbang, haccepted, _ =>
    Parser.factor_reads_factorial hbang
      (h.reads ((Expr.callsAccepted_unary _ _ _).1 haccepted) (follow_of_kind hbang (by decide)))

theorem Power.reads {n : Nat} {ts rest : List Token} {e : Expr} :
    Power n ts e rest → e.CallsAccepted → Follow 3 rest → ReadsFrom Parser.readPower n ts e rest
  | .plain h, haccepted, hfollow =>
    Parser.power_reads_plain hfollow (h.reads haccepted (hfollow.mono (by decide)))
  | .raised hbase hcaret hexponent, haccepted, hfollow =>
    have ⟨hb, he⟩ := (Expr.callsAccepted_binary _ _ _ _).1 haccepted
    Parser.power_reads_raised hcaret (hbase.reads hb (follow_of_kind hcaret (by decide)))
      (hexponent.reads he hfollow)

/-- Within parentheses the closing one ends what is derived. -/
theorem Atom.reads {n : Nat} {ts rest : List Token} {e : Expr} :
    Atom n ts e rest → e.CallsAccepted → Follow 4 rest → ReadsFrom Parser.readAtom n ts e rest
  | .number h, _, _ => Parser.number_reads h
  | .text h, _, _ => Parser.text_reads h
  | .name h, _, hfollow => Parser.name_reads h hfollow
  | .call hfunction hopening hargs hclosing, haccepted, _ =>
    have ⟨hcount, hall⟩ := (Expr.callsAccepted_call _ _ _).1 haccepted
    Parser.call_reads hfunction hopening hclosing hcount (hargs.reads hall ⟨_, _, rfl, hclosing⟩)
  | .group hopening h hclosing, haccepted, _ =>
    Parser.group_reads hopening hclosing (h.reads haccepted (follow_of_kind hclosing (by decide)))
  | .negated hminus h, haccepted, hfollow =>
    Parser.negated_reads hminus (h.reads ((Expr.callsAccepted_unary _ _ _).1 haccepted) hfollow)

theorem Arguments.reads {n : Nat} {ts rest : List Token} {args : List Expr} :
    Arguments n ts args rest → (∀ e ∈ args, e.CallsAccepted) → Next .closing rest →
      ReadsFrom Parser.readBetween n ts args rest
  | .none, _, hcloses => Parser.nothing_reads hcloses
  | .some h, haccepted, hcloses => Parser.some_reads h.starts (h.reads haccepted hcloses)

/-- Within a list a comma or the closing parenthesis ends an argument. -/
theorem Listed.reads {n : Nat} {ts rest : List Token} {args : List Expr} :
    Listed n ts args rest → (∀ e ∈ args, e.CallsAccepted) → Next .closing rest →
      ReadsFrom Parser.readArguments n ts args rest
  | .last h, haccepted, hcloses =>
    Parser.last_reads hcloses (h.reads (haccepted _ (by simp)) (hcloses.follow (by decide)))
  | .more h hcomma hrest, haccepted, hcloses =>
    have ⟨he, hes⟩ := List.forall_mem_cons.1 haccepted
    Parser.more_reads hcomma (h.reads he (follow_of_kind hcomma (by decide)))
      (hrest.reads hes hcloses)

end

end Grammar

end Calculator
