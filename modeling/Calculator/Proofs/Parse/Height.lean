import Calculator.Proofs.Parse.Accepts

/-!
# How high accepted trees are

The parser counts levels and not the height of the tree, and the two differ. A right operand, an
exponent, an argument, an assigned value and a negated operand have their level before they are
read. A left operand, a base and what stands before `!` are read first, and go below their operator
afterwards without another level. So a tree within the levels may be higher than there are levels.

* `Expression.height_le`: within `n` levels a tree has at most `(n + 1)² − 2` nodes on a way down.
* `Expression.height_le_iff`: it has at most `n` of them just if the operands that are read ahead of
  their operators fit (`Expr.aheadFits`).
* `Expr.height_of_parse`: both for the statements of a source, and the refusal of what uses more
  levels.
-/

namespace Calculator

/-! ## Operands read ahead -/

namespace Expr

mutual

/-- Whether the operands that are read before their operator leave it its place, when the whole is
to have at most `bound` nodes on a way down. -/
def aheadFits (bound : Nat) : Expr → Bool
  | .number .. | .text .. | .name .. => true
  | .binary _ left right _ => left.height < bound && right.aheadFits (bound - 1)
  | .unary .factorial operand _ => operand.height < bound
  | .unary .negate operand _ => operand.aheadFits (bound - 1)
  | .call _ args _ => allAheadFit (bound - 1) args
  | .assign _ value _ => value.aheadFits (bound - 1)
  | .sequence statements _ => allAheadFit (bound - 1) statements

/-- The same of all trees of a list. -/
def allAheadFit (bound : Nat) : List Expr → Bool
  | [] => true
  | e :: es => e.aheadFits bound && allAheadFit bound es

end

mutual

/-- Where the whole tree fits, so does every operand in it. -/
theorem aheadFits_of_height {bound : Nat} {e : Expr} (h : e.height ≤ bound) :
    e.aheadFits bound = true := by
  match e with
  | .number .. | .text .. | .name .. => simp only [aheadFits]
  | .binary _ left right _ =>
    rw [height] at h
    have hright : right.aheadFits (bound - 1) = true := aheadFits_of_height (by omega)
    rw [aheadFits, hright, Bool.and_true, decide_eq_true_eq]
    omega
  | .unary .factorial operand _ =>
    rw [height] at h
    rw [aheadFits, decide_eq_true_eq]
    omega
  | .unary .negate operand _ =>
    rw [height] at h
    rw [aheadFits]
    exact aheadFits_of_height (by omega)
  | .call _ args _ =>
    rw [height] at h
    rw [aheadFits]
    exact allAheadFit_of_heightAll (by omega)
  | .assign _ value _ =>
    rw [height] at h
    rw [aheadFits]
    exact aheadFits_of_height (by omega)
  | .sequence statements _ =>
    rw [height] at h
    rw [aheadFits]
    exact allAheadFit_of_heightAll (by omega)

theorem allAheadFit_of_heightAll {bound : Nat} {es : List Expr} (h : heightAll es ≤ bound) :
    allAheadFit bound es = true := by
  match es with
  | [] => rfl
  | e :: es =>
    rw [heightAll, Nat.max_le] at h
    rw [allAheadFit, aheadFits_of_height h.1, allAheadFit_of_heightAll h.2]
    rfl

end

end Expr

namespace Grammar

open Calculator.Parser (Tier)

/-! ## The height within the levels -/

/-- The square that bounds the height of a tree of `n` levels. -/
def ceiling (n : Nat) : Nat := (n + 1) * (n + 1)

theorem ceiling_zero : ceiling 0 = 1 := rfl

/-- From one level to the next the square grows by an odd number. -/
theorem ceiling_succ (n : Nat) : ceiling (n + 1) = ceiling n + 2 * n + 3 := by
  simp only [ceiling, Nat.add_mul, Nat.mul_add]
  omega

theorem ceiling_mono {m n : Nat} (h : m ≤ n) : ceiling m ≤ ceiling n :=
  Nat.mul_self_le_mul_self (Nat.succ_le_succ h)

/-- What an operand of a tier comes to within `n` levels. -/
def operandCeiling : Tier → Nat → Nat
  | .product, n => ceiling n + 1
  | .sum, n => ceiling n + 1 + n

/-- More levels leave room for higher operands. -/
theorem operandCeiling_mono (tier : Tier) {m n : Nat} (h : m ≤ n) :
    operandCeiling tier m ≤ operandCeiling tier n := by
  have := ceiling_mono h
  cases tier <;> simp only [operandCeiling] <;> omega

mutual

/-- A tree within `n` levels is at most as high as the square says. A chain of `k` operators is `k`
higher than its first operand, and its last operand stands `k` levels deeper: this makes the bound a
square. -/
theorem Expression.height_le {n : Nat} {ts rest : List Token} {e : Expr} :
    Expression n ts e rest → e.height + 2 ≤ ceiling n
  | .assign (n := m) _ _ hvalue => by
    have := hvalue.height_le
    rw [Expr.height, ceiling_succ]
    omega
  | .sum (n := m) h => by
    -- up to `m` operators of each tier and a factorial, all within the one level that was opened
    obtain ⟨hk, hheight⟩ := h.height_le
    rw [ceiling_succ]
    simp only [operandCeiling] at hheight
    omega

/-- Each operator of a chain adds a node on top of the operands before it. -/
theorem Chain.height_le {tier : Tier} {k n : Nat} {ts rest : List Token} {e : Expr} :
    Chain tier k n ts e rest → k ≤ n ∧ e.height ≤ operandCeiling tier n + k
  | .first h => ⟨Nat.zero_le _, h.height_le⟩
  | .next (k := j) (n := l) (m := r) hleft _ hright => by
    obtain ⟨hj, hl⟩ := hleft.height_le
    have hr := hright.height_le
    -- the chain so far goes below the new operator, and there is one more operator to show for it
    have hmono₁ := operandCeiling_mono tier (Nat.le_max_left l (j + 1 + r))
    have hmono₂ : operandCeiling tier r ≤ operandCeiling tier (max l (j + 1 + r)) :=
      operandCeiling_mono tier (by omega)
    rw [Expr.height]
    omega

theorem Operand.height_le {tier : Tier} {n : Nat} {ts rest : List Token} {e : Expr} :
    Operand tier n ts e rest → e.height ≤ operandCeiling tier n
  | .product h => by
    obtain ⟨hk, hheight⟩ := h.height_le
    simp only [operandCeiling] at hheight ⊢
    omega
  | .factor h => h.height_le

/-- An exclamation mark adds a node and takes no level. -/
theorem Factor.height_le {n : Nat} {ts rest : List Token} {e : Expr} :
    Factor n ts e rest → e.height ≤ ceiling n + 1
  | .plain h => Nat.le_succ_of_le h.height_le
  | .factorial h _ => Nat.succ_le_succ h.height_le

/-- An exponent stands one level deeper than its base. -/
theorem Power.height_le {n : Nat} {ts rest : List Token} {e : Expr} :
    Power n ts e rest → e.height ≤ ceiling n
  | .plain h => by
    have := ceiling_mono (Nat.zero_le n)
    rw [ceiling_zero] at this
    rcases h.height_le with hleaf | hheight <;> omega
  | .raised (n := l) (m := r) hbase _ hexponent => by
    have hr := hexponent.height_le
    have hmono₁ := ceiling_mono (Nat.le_max_left l (r + 1))
    have hmono₂ := ceiling_mono (Nat.le_max_right l (r + 1))
    rw [ceiling_succ] at hmono₂
    rw [Expr.height]
    rcases hbase.height_le with hleaf | hheight <;> omega

/-- Only a leaf can do without levels. -/
theorem Atom.height_le {n : Nat} {ts rest : List Token} {e : Expr} :
    Atom n ts e rest → e.height ≤ 1 ∨ e.height + 1 ≤ ceiling n
  | .number _ | .text _ | .name _ => .inl (Nat.le_refl 1)
  | .call _ _ hargs _ => by
    rw [Expr.height]
    rcases hargs.height_le with hnone | hheight
    · exact .inl (by omega)
    · exact .inr (by omega)
  | .group _ h _ => .inr (Nat.le_of_succ_le h.height_le)
  | .negated (n := m) _ h => by
    rw [Expr.height, ceiling_succ]
    rcases h.height_le with hleaf | hheight
    · exact .inr (by omega)
    · exact .inr (by omega)

/-- Arguments are expressions, which open levels of their own. -/
theorem Arguments.height_le {n : Nat} {ts rest : List Token} {args : List Expr} :
    Arguments n ts args rest → Expr.heightAll args = 0 ∨ Expr.heightAll args + 2 ≤ ceiling n
  | .none => .inl rfl
  | .some h => .inr h.height_le

theorem Listed.height_le {n : Nat} {ts rest : List Token} {args : List Expr} :
    Listed n ts args rest → Expr.heightAll args + 2 ≤ ceiling n
  | .last h => by
    have := h.height_le
    rw [Expr.heightAll, Expr.heightAll]
    omega
  | .more (n := l) (m := r) h _ hrest => by
    have hl := h.height_le
    have hr := hrest.height_le
    have hmono₁ := ceiling_mono (Nat.le_max_left l r)
    have hmono₂ := ceiling_mono (Nat.le_max_right l r)
    rw [Expr.heightAll]
    omega

end

/-! ## Exactly when the levels bound the height -/

mutual

/-- If the operands that are read ahead fit, the levels bound the height. Only these are higher than
the levels that are used for them. -/
theorem Expression.height_of_ahead {b n : Nat} {ts rest : List Token} {e : Expr} :
    Expression n ts e rest → n ≤ b → e.aheadFits b = true → e.height ≤ b
  | .assign _ _ hvalue, hn, hfits => by
    have := hvalue.height_of_ahead (b := b - 1) (by omega) hfits
    rw [Expr.height]
    omega
  | .sum h, hn, hfits => h.height_of_ahead hn hfits

/-- The left operand of an operator is read ahead of it and fits; the right one has a level of its
own. -/
theorem Chain.height_of_ahead {tier : Tier} {b k n : Nat} {ts rest : List Token} {e : Expr} :
    Chain tier k n ts e rest → n < b → e.aheadFits b = true → e.height ≤ b
  | .first h, hn, hfits => h.height_of_ahead hn hfits
  | .next hleft _ hright, hn, hfits => by
    rw [Expr.aheadFits, Bool.and_eq_true, decide_eq_true_eq] at hfits
    have := hright.height_of_ahead (b := b - 1) (by omega) hfits.2
    rw [Expr.height]
    omega

theorem Operand.height_of_ahead {tier : Tier} {b n : Nat} {ts rest : List Token} {e : Expr} :
    Operand tier n ts e rest → n < b → e.aheadFits b = true → e.height ≤ b
  | .product h, hn, hfits => h.height_of_ahead hn hfits
  | .factor h, hn, hfits => h.height_of_ahead hn hfits

/-- What stands before an exclamation mark is read ahead of it. -/
theorem Factor.height_of_ahead {b n : Nat} {ts rest : List Token} {e : Expr} :
    Factor n ts e rest → n < b → e.aheadFits b = true → e.height ≤ b
  | .plain h, hn, hfits => h.height_of_ahead hn hfits
  | .factorial _ _, _, hfits => by
    rw [Expr.aheadFits, decide_eq_true_eq] at hfits
    exact hfits

/-- The base is read ahead of the caret; the exponent has a level of its own. -/
theorem Power.height_of_ahead {b n : Nat} {ts rest : List Token} {e : Expr} :
    Power n ts e rest → n < b → e.aheadFits b = true → e.height ≤ b
  | .plain h, hn, hfits => h.height_of_ahead hn hfits
  | .raised _ _ hexponent, hn, hfits => by
    rw [Expr.aheadFits, Bool.and_eq_true, decide_eq_true_eq] at hfits
    have := hexponent.height_of_ahead (b := b - 1) (by omega) hfits.2
    rw [Expr.height]
    omega

/-- Signs, parentheses and calls are read before what stands in them, and nothing is read ahead. -/
theorem Atom.height_of_ahead {b n : Nat} {ts rest : List Token} {e : Expr} :
    Atom n ts e rest → n < b → e.aheadFits b = true → e.height ≤ b
  | .number _, hn, _ | .text _, hn, _ | .name _, hn, _ => Nat.succ_le_of_lt (Nat.zero_lt_of_lt hn)
  | .call _ _ hargs _, hn, hfits => by
    have := hargs.height_of_ahead (b := b - 1) (by omega) hfits
    rw [Expr.height]
    omega
  | .group _ h _, hn, hfits => h.height_of_ahead (Nat.le_of_lt hn) hfits
  | .negated _ h, hn, hfits => by
    have := h.height_of_ahead (b := b - 1) (by omega) hfits
    rw [Expr.height]
    omega

theorem Arguments.height_of_ahead {b n : Nat} {ts rest : List Token} {args : List Expr} :
    Arguments n ts args rest → n ≤ b → Expr.allAheadFit b args = true →
      Expr.heightAll args ≤ b
  | .none, _, _ => Nat.zero_le _
  | .some h, hn, hfits => h.height_of_ahead hn hfits

theorem Listed.height_of_ahead {b n : Nat} {ts rest : List Token} {args : List Expr} :
    Listed n ts args rest → n ≤ b → Expr.allAheadFit b args = true →
      Expr.heightAll args ≤ b
  | .last h, hn, hfits => by
    rw [Expr.allAheadFit, Bool.and_eq_true] at hfits
    exact Nat.max_le.2 ⟨h.height_of_ahead hn hfits.1, Nat.zero_le _⟩
  | .more h _ hrest, hn, hfits => by
    rw [Expr.allAheadFit, Bool.and_eq_true] at hfits
    obtain ⟨hl, hr⟩ := Nat.max_le.1 hn
    exact Nat.max_le.2 ⟨h.height_of_ahead hl hfits.1, hrest.height_of_ahead hr hfits.2⟩

end

/-- A tree within the levels is as high as they allow, unless an operand was read ahead. -/
theorem Expression.height_le_iff {b n : Nat} {ts rest : List Token} {e : Expr}
    (h : Expression n ts e rest) (hn : n ≤ b) :
    e.height ≤ b ↔ e.aheadFits b = true :=
  ⟨Expr.aheadFits_of_height, h.height_of_ahead hn⟩

/-! ## Statements -/

mutual

/-- An expression is one statement: sequences come about for whole programs only. -/
theorem Expression.statements {n : Nat} {ts rest : List Token} {e : Expr} :
    Expression n ts e rest → e.statements = [e]
  | .assign .. => rfl
  | .sum h => h.statements

theorem Chain.statements {tier : Tier} {k n : Nat} {ts rest : List Token} {e : Expr} :
    Chain tier k n ts e rest → e.statements = [e]
  | .first h => h.statements
  | .next .. => rfl

/-- The trees of operands are no sequences either. -/
theorem Operand.statements {tier : Tier} {n : Nat} {ts rest : List Token} {e : Expr} :
    Operand tier n ts e rest → e.statements = [e]
  | .product h => h.statements
  | .factor h => h.statements

theorem Factor.statements {n : Nat} {ts rest : List Token} {e : Expr} :
    Factor n ts e rest → e.statements = [e]
  | .plain h => h.statements
  | .factorial .. => rfl

theorem Power.statements {n : Nat} {ts rest : List Token} {e : Expr} :
    Power n ts e rest → e.statements = [e]
  | .plain h => h.statements
  | .raised .. => rfl

/-- Parentheses hold an expression, and all other atoms have a node of their own. -/
theorem Atom.statements {n : Nat} {ts rest : List Token} {e : Expr} :
    Atom n ts e rest → e.statements = [e]
  | .number .. | .text .. | .name .. | .call .. | .negated .. => rfl
  | .group _ h _ => h.statements

end

/-- Each statement of a series is derived as an expression. -/
theorem Series.statement {n : Nat} {ts rest : List Token} {es : List Expr} (h : Series n ts es rest)
    {e : Expr} (he : e ∈ es) : ∃ m us vs, Expression m us e vs ∧ m ≤ n := by
  induction h with
  | last h =>
    cases List.mem_singleton.1 he
    exact ⟨_, _, _, h, Nat.le_refl _⟩
  | more h _ _ _ ih =>
    rcases List.mem_cons.1 he with rfl | he
    · exact ⟨_, _, _, h, Nat.le_max_left ..⟩
    · obtain ⟨m, us, vs, hderived, hm⟩ := ih he
      exact ⟨m, us, vs, hderived, Nat.le_trans hm (Nat.le_max_right ..)⟩

/-- The statements of a program are expressions, none of which uses more levels. -/
theorem Program.statement {n : Nat} {ts rest : List Token} {es : List Expr}
    (h : Program n ts es rest) {e : Expr} (he : e ∈ es) :
    ∃ m us vs, Expression m us e vs ∧ m ≤ n := by
  cases h with
  | empty => cases he
  | series _ h _ => exact h.statement he

/-- The statements of the tree of a program are those that it was put together from. -/
theorem Program.statements_ofStatements {n : Nat} {ts rest : List Token} {es : List Expr}
    (h : Program n ts es rest) : (Expr.ofStatements es).statements = es := by
  match es with
  | [] => rfl
  | [e] =>
    obtain ⟨_, _, _, he, -⟩ := h.statement List.mem_cons_self
    exact he.statements
  | _ :: _ :: _ => rfl

end Grammar

namespace Expr

open Grammar (Program ceiling)

/-- What is known of expressions is so of each statement of a program. -/
theorem height_of_program {n : Nat} {ts rest : List Token} {es : List Expr}
    (h : Program n ts es rest) (hn : n ≤ maxNesting) {s : Expr} (hs : s ∈ es) :
    s.height ≤ 4223 ∧ (s.height ≤ 64 ↔ s.aheadFits 64 = true) := by
  obtain ⟨m, us, vs, hderived, hm⟩ := h.statement hs
  have hmax : m ≤ 64 := Nat.le_trans hm hn
  have hheight : s.height + 2 ≤ ceiling 64 :=
    Nat.le_trans hderived.height_le (Grammar.ceiling_mono hmax)
  exact ⟨Nat.le_of_add_le_add_right hheight, hderived.height_le_iff hmax⟩

/-- **Levels are not heights.** A statement of an accepted source has at most 4223 nodes on a way
down, and at most 64 just if the operands that are read ahead of their operators fit. A source that
could be accepted but for the levels is refused for want of resources, and only such a source is. -/
theorem height_of_parse (source : String) :
    (∀ e, parse source = .ok e → ∀ s ∈ e.statements,
      s.height ≤ 4223 ∧ (s.height ≤ 64 ↔ s.aheadFits 64 = true))
    ∧ ∀ n es finish, Program n (tokenize source) es [finish] → finish.kind = .finish →
        (∀ s ∈ es, s.CallsAccepted) →
        ((∃ fault, parse source = .error fault ∧ fault.cause.kind = .resource) ↔ 64 < n)
        ∧ ((∃ s ∈ es, 4223 < s.height) → 64 < n) := by
  refine ⟨fun e h s hs => ?_, fun n es finish hderived hfinish haccepted => ⟨⟨?_, ?_⟩, ?_⟩⟩
  · obtain ⟨n, es, finish, hderived, -, -, hn, rfl⟩ := derivable_of_parse h
    rw [hderived.statements_ofStatements] at hs
    exact height_of_program hderived hn hs
  · rintro ⟨fault, hparse, -⟩
    refine Nat.lt_of_not_le fun hn => ?_
    rw [parse_of_fits hderived hfinish haccepted hn] at hparse
    cases hparse
  · intro hn
    obtain ⟨fault, hparse, hcause⟩ := parse_of_exceeds hderived hfinish haccepted hn
    exact ⟨fault, hparse, by rw [hcause]; rfl⟩
  · rintro ⟨s, hs, hheight⟩
    refine Nat.lt_of_not_le fun hn => ?_
    exact absurd (height_of_program hderived hn hs).1 (Nat.not_le_of_lt hheight)

/-- Sixty-three signs take all the levels, and the sum goes on top of them. -/
theorem parse_signs : ∃ e,
    parse "---------------------------------------------------------------1+1" = .ok e
      ∧ ∃ s ∈ e.statements, s.height = 65 := by
  have hheights : Option.map (fun e => e.statements.map height)
      (parse "---------------------------------------------------------------1+1").toOption
        = some [65] := by decide +kernel
  cases hparse : parse "---------------------------------------------------------------1+1" with
  | error fault => rw [hparse] at hheights; cases hheights
  | ok e =>
    rw [hparse] at hheights
    have hmap : e.statements.map height = [65] := Option.some.inj hheights
    obtain ⟨s, hs, hheight⟩ := List.mem_map.1 (hmap ▸ List.mem_cons_self)
    exact ⟨e, rfl, s, hs, hheight⟩

/-- The height is one more than the levels, since the operand that was read ahead does not fit. -/
theorem height_of_parse_signs : ∃ e,
    parse "---------------------------------------------------------------1+1" = .ok e
      ∧ ∃ s ∈ e.statements, s.height = 65 ∧ s.height ≤ 4223
        ∧ (s.height ≤ 64 ↔ s.aheadFits 64 = true) := by
  obtain ⟨e, hparse, s, hs, hheight⟩ := parse_signs
  exact ⟨e, hparse, s, hs, hheight, (height_of_parse _).1 e hparse s hs⟩

/-- The levels do not bound the height. -/
theorem height_exceeds_levels :
    ¬ ∀ source e, parse source = .ok e → ∀ s ∈ e.statements, s.height ≤ 64 := by
  intro h
  obtain ⟨e, hparse, s, hs, hheight⟩ := parse_signs
  exact absurd (h _ e hparse s hs) (by omega)

end Expr

end Calculator
