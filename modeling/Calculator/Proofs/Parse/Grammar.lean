import Calculator.Expr.Parse

/-!
# The grammar (specification 4.2)

What the language accepts, said without the parser: the signs of the operators (`Sign`), the
separators and the tree of a program (`Tree`) are spelled out here again. The relations below read

    X n ts e rest

as: the tokens of `ts` before `rest` are an `X` with the tree `e`, and use `n` levels of nesting
below the place where the `X` stands.

    program    := separator* (expression (separator+ expression)* separator*)?
    expression := IDENTIFIER '=' expression | sum
    sum        := product (('+' | '-') product)*            grouped from the left
    product    := factor (('*' | '/' | '%') factor)*        grouped from the left
    factor     := power '!'?
    power      := atom ('^' power)?
    atom       := NUMBER | STRING | IDENTIFIER | FUNCTION '(' arguments? ')'
                | '(' expression ')' | '-' atom
    arguments  := expression (',' expression)*

Levels: an expression (a statement, what stands between parentheses, an argument, an assigned value)
opens one, and so do a negated operand and an exponent. The right operand of the `k`-th operator of
a sum or a product stands `k` levels below the chain. A program whose statements use at most `n`
levels has no token at a level beyond `n`, the statements themselves standing at level one.
-/

namespace Calculator.Grammar

open Calculator.Parser (Tier)

/-- The operators that group from the left: how each is written, and what it is. -/
inductive Sign : Tier → TokenKind → BinaryOp → Prop
  | add : Sign .sum .plus .add
  | subtract : Sign .sum .minus .subtract
  | multiply : Sign .product .star .multiply
  | divide : Sign .product .slash .divide
  | modulo : Sign .product .percent .modulo

/-- What may stand between statements. -/
inductive Separator : TokenKind → Prop
  | semicolon : Separator .semicolon
  | newline : Separator .newline

mutual

/-- An assignment, or a sum. -/
inductive Expression : Nat → List Token → Expr → List Token → Prop
  | assign {n : Nat} {target equal : Token} {ts rest : List Token} {id : String} {value : Expr}
      (htarget : target.kind = .identifier id) (hequal : equal.kind = .equal)
      (hvalue : Expression n ts value rest) :
      Expression (n + 1) (target :: equal :: ts)
        (.assign id value (target.span.cover value.span)) rest
  | sum {k n : Nat} {ts rest : List Token} {e : Expr} (h : Chain .sum k n ts e rest) :
      Expression (n + 1) ts e rest

/-- A chain of `k` operators of a tier. -/
inductive Chain : Tier → Nat → Nat → List Token → Expr → List Token → Prop
  | first {tier : Tier} {n : Nat} {ts rest : List Token} {e : Expr}
      (h : Operand tier n ts e rest) : Chain tier 0 n ts e rest
  | next {tier : Tier} {k n m : Nat} {ts us rest : List Token} {left right : Expr} {sign : Token}
      {op : BinaryOp} (hleft : Chain tier k n ts left (sign :: us))
      (hsign : Sign tier sign.kind op) (hright : Operand tier m us right rest) :
      Chain tier (k + 1) (max n (k + 1 + m)) ts
        (.binary op left right (left.span.cover right.span)) rest

/-- What the operators of a tier stand between. -/
inductive Operand : Tier → Nat → List Token → Expr → List Token → Prop
  | product {k n : Nat} {ts rest : List Token} {e : Expr} (h : Chain .product k n ts e rest) :
      Operand .sum n ts e rest
  | factor {n : Nat} {ts rest : List Token} {e : Expr} (h : Factor n ts e rest) :
      Operand .product n ts e rest

/-- A power with or without an exclamation mark behind it. -/
inductive Factor : Nat → List Token → Expr → List Token → Prop
  | plain {n : Nat} {ts rest : List Token} {e : Expr} (h : Power n ts e rest) : Factor n ts e rest
  | factorial {n : Nat} {ts rest : List Token} {e : Expr} {bang : Token}
      (h : Power n ts e (bang :: rest)) (hbang : bang.kind = .bang) :
      Factor n ts (.unary .factorial e (e.span.cover bang.span)) rest

/-- An atom, or an atom raised to a power. -/
inductive Power : Nat → List Token → Expr → List Token → Prop
  | plain {n : Nat} {ts rest : List Token} {e : Expr} (h : Atom n ts e rest) : Power n ts e rest
  | raised {n m : Nat} {ts us rest : List Token} {base exponent : Expr} {caret : Token}
      (hbase : Atom n ts base (caret :: us)) (hcaret : caret.kind = .caret)
      (hexponent : Power m us exponent rest) :
      Power (max n (m + 1)) ts
        (.binary .power base exponent (base.span.cover exponent.span)) rest

/-- What operators and marks are put to. -/
inductive Atom : Nat → List Token → Expr → List Token → Prop
  | number {t : Token} {rest : List Token} {value : Number} (h : t.kind = .number value) :
      Atom 0 (t :: rest) (.number value t.span) rest
  | text {t : Token} {rest : List Token} {value : String} (h : t.kind = .text value) :
      Atom 0 (t :: rest) (.text value t.span) rest
  | name {t : Token} {rest : List Token} {id : String} (h : t.kind = .identifier id) :
      Atom 0 (t :: rest) (.name id t.span) rest
  | call {n : Nat} {function opening closing : Token} {ts rest : List Token} {name : String}
      {args : List Expr} (hfunction : function.kind = .function name)
      (hopening : opening.kind = .opening) (hargs : Arguments n ts args (closing :: rest))
      (hclosing : closing.kind = .closing) :
      Atom n (function :: opening :: ts) (.call name args (function.span.cover closing.span)) rest
  | group {n : Nat} {opening closing : Token} {ts rest : List Token} {e : Expr}
      (hopening : opening.kind = .opening) (h : Expression n ts e (closing :: rest))
      (hclosing : closing.kind = .closing) : Atom n (opening :: ts) e rest
  | negated {n : Nat} {minus : Token} {ts rest : List Token} {e : Expr}
      (hminus : minus.kind = .minus) (h : Atom n ts e rest) :
      Atom (n + 1) (minus :: ts) (.unary .negate e (minus.span.cover e.span)) rest

/-- Nothing, or a list of arguments. -/
inductive Arguments : Nat → List Token → List Expr → List Token → Prop
  | none {rest : List Token} : Arguments 0 rest [] rest
  | some {n : Nat} {ts rest : List Token} {args : List Expr} (h : Listed n ts args rest) :
      Arguments n ts args rest

/-- One argument or more. -/
inductive Listed : Nat → List Token → List Expr → List Token → Prop
  | last {n : Nat} {ts rest : List Token} {e : Expr} (h : Expression n ts e rest) :
      Listed n ts [e] rest
  | more {n m : Nat} {ts us rest : List Token} {e : Expr} {es : List Expr} {comma : Token}
      (h : Expression n ts e (comma :: us)) (hcomma : comma.kind = .comma)
      (hrest : Listed m us es rest) : Listed (max n m) ts (e :: es) rest

end

/-- Any number of separators. -/
inductive Separators : List Token → List Token → Prop
  | none {rest : List Token} : Separators rest rest
  | more {t : Token} {ts rest : List Token} (ht : Separator t.kind) (h : Separators ts rest) :
      Separators (t :: ts) rest

/-- One statement or more, with separators between them. -/
inductive Series : Nat → List Token → List Expr → List Token → Prop
  | last {n : Nat} {ts rest : List Token} {e : Expr} (h : Expression n ts e rest) :
      Series n ts [e] rest
  | more {n m : Nat} {ts us vs rest : List Token} {e : Expr} {es : List Expr} {t : Token}
      (h : Expression n ts e (t :: us)) (ht : Separator t.kind)
      (hseparators : Separators us vs) (hrest : Series m vs es rest) :
      Series (max n m) ts (e :: es) rest

/-- Separators alone, or a series of statements with separators before it and behind it. -/
inductive Program : Nat → List Token → List Expr → List Token → Prop
  | empty {ts rest : List Token} (h : Separators ts rest) : Program 0 ts [] rest
  | series {n : Nat} {ts us vs rest : List Token} {es : List Expr} (hbefore : Separators ts us)
      (h : Series n us es vs) (hafter : Separators vs rest) : Program n ts es rest

/-- The tree of a whole program, from its statements: a statement alone stands for itself, and
several make a sequence from the first to the last. -/
inductive Tree : List Expr → Expr → Prop
  | empty : Tree [] (.sequence [] ⟨0, 0⟩)
  | single (e : Expr) : Tree [e] e
  | several (first : Expr) (between : List Expr) (last : Expr) :
      Tree (first :: (between ++ [last]))
        (.sequence (first :: (between ++ [last])) (first.span.cover last.span))

/-! ## The parser's view -/

/-- The parser knows the operators of each tier. -/
theorem sign_iff {tier : Tier} {kind : TokenKind} {op : BinaryOp} :
    Sign tier kind op ↔ tier.op? kind = some op := by
  constructor
  · rintro ⟨⟩ <;> rfl
  · intro h
    cases tier <;> cases kind <;> cases h <;> constructor

/-- The parser knows what separates statements. -/
theorem separator_iff {kind : TokenKind} : Separator kind ↔ kind.isSeparator = true := by
  constructor
  · rintro ⟨⟩ <;> rfl
  · intro h
    cases kind <;> cases h <;> constructor

/-- The place of several statements goes from the first to the last. -/
theorem ofStatements_several (first : Expr) (between : List Expr) (last : Expr) :
    .ofStatements (first :: (between ++ [last]))
      = Expr.sequence (first :: (between ++ [last])) (first.span.cover last.span) := by
  rw [Expr.ofStatements]
  · rw [List.getLastD_concat]
  · simp

/-- The parser builds the tree of a program. -/
theorem tree_iff {es : List Expr} {e : Expr} : Tree es e ↔ e = .ofStatements es := by
  constructor
  · rintro (_ | _ | ⟨first, between, last⟩)
    · rfl
    · rfl
    · exact (ofStatements_several first between last).symm
  · rintro rfl
    cases es with
    | nil => exact .empty
    | cons first rest =>
      rcases List.eq_nil_or_concat rest with rfl | ⟨between, last, rfl⟩
      · exact .single first
      · rw [List.concat_eq_append, ofStatements_several]
        exact .several first between last

/-! ## What is left is the end of what there was -/

theorem suffix_of_tail {t : Token} {ts rest : List Token} (h : rest <:+ ts) : rest <:+ t :: ts :=
  h.trans (List.suffix_cons t ts)

mutual

/-- A derivation takes its tokens from the front, one rule after the other. -/
theorem Expression.suffix {n : Nat} {ts rest : List Token} {e : Expr} :
    Expression n ts e rest → rest <:+ ts
  | .assign _ _ hvalue => suffix_of_tail (suffix_of_tail hvalue.suffix)
  | .sum h => h.suffix

theorem Chain.suffix {tier : Tier} {k n : Nat} {ts rest : List Token} {e : Expr} :
    Chain tier k n ts e rest → rest <:+ ts
  | .first h => h.suffix
  | .next hleft _ hright => (suffix_of_tail hright.suffix).trans hleft.suffix

theorem Operand.suffix {tier : Tier} {n : Nat} {ts rest : List Token} {e : Expr} :
    Operand tier n ts e rest → rest <:+ ts
  | .product h => h.suffix
  | .factor h => h.suffix

theorem Factor.suffix {n : Nat} {ts rest : List Token} {e : Expr} :
    Factor n ts e rest → rest <:+ ts
  | .plain h => h.suffix
  | .factorial h _ => (List.suffix_cons _ _).trans h.suffix

theorem Power.suffix {n : Nat} {ts rest : List Token} {e : Expr} :
    Power n ts e rest → rest <:+ ts
  | .plain h => h.suffix
  | .raised hbase _ hexponent => (suffix_of_tail hexponent.suffix).trans hbase.suffix

theorem Atom.suffix {n : Nat} {ts rest : List Token} {e : Expr} :
    Atom n ts e rest → rest <:+ ts
  | .number _ | .text _ | .name _ => List.suffix_cons _ _
  | .call _ _ hargs _ => suffix_of_tail (suffix_of_tail ((List.suffix_cons _ _).trans hargs.suffix))
  | .group _ h _ => suffix_of_tail ((List.suffix_cons _ _).trans h.suffix)
  | .negated _ h => suffix_of_tail h.suffix

theorem Arguments.suffix {n : Nat} {ts rest : List Token} {args : List Expr} :
    Arguments n ts args rest → rest <:+ ts
  | .none => List.suffix_rfl
  | .some h => h.suffix

theorem Listed.suffix {n : Nat} {ts rest : List Token} {args : List Expr} :
    Listed n ts args rest → rest <:+ ts
  | .last h => h.suffix
  | .more h _ hrest => (suffix_of_tail hrest.suffix).trans h.suffix

end

theorem Separators.suffix {ts rest : List Token} (h : Separators ts rest) : rest <:+ ts := by
  induction h with
  | none => exact List.suffix_rfl
  | more _ _ ih => exact suffix_of_tail ih

theorem Series.suffix {n : Nat} {ts rest : List Token} {es : List Expr}
    (h : Series n ts es rest) : rest <:+ ts := by
  induction h with
  | last h => exact h.suffix
  | more h _ hseparators _ ih => exact (suffix_of_tail (ih.trans hseparators.suffix)).trans h.suffix

/-- What a program leaves is a last part of its tokens. -/
theorem Program.suffix {n : Nat} {ts rest : List Token} {es : List Expr}
    (h : Program n ts es rest) : rest <:+ ts := by
  cases h with
  | empty h => exact h.suffix
  | series hbefore h hafter => exact (hafter.suffix.trans h.suffix).trans hbefore.suffix

end Calculator.Grammar
