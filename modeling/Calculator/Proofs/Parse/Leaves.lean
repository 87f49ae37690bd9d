import Calculator.Proofs.Parse.Accepts
import Calculator.Proofs.Token.Lexed

/-!
# What trees are made of

The numbers, texts and names of a tree are those of the tokens it was read from. So what holds of
every token of a source holds of every leaf of its tree (`Expr.builtOf_of_parse`): texts are within
the bound, and the names that are assigned to are words and not names of the language.
-/

namespace Calculator

namespace Expr

mutual

/-- The numbers, texts and names in a tree satisfy `P`, each taken as the token it is written by. -/
def BuiltOf (P : TokenKind → Prop) : Expr → Prop
  | .number value _ => P (.number value)
  | .text value _ => P (.text value)
  | .name id _ => P (.identifier id)
  | .binary _ left right _ => left.BuiltOf P ∧ right.BuiltOf P
  | .unary _ operand _ => operand.BuiltOf P
  | .call function args _ => P (.function function) ∧ AllBuiltOf P args
  | .assign target value _ => P (.identifier target) ∧ value.BuiltOf P
  | .sequence statements _ => AllBuiltOf P statements

/-- The same of all trees of a list. -/
def AllBuiltOf (P : TokenKind → Prop) : List Expr → Prop
  | [] => True
  | e :: es => e.BuiltOf P ∧ AllBuiltOf P es

end

variable {P : TokenKind → Prop}

mutual

/-- What holds of every token holds of those in a tree. -/
theorem builtOf_of_forall (hP : ∀ kind, P kind) (e : Expr) : e.BuiltOf P := by
  match e with
  | .number .. | .text .. | .name .. => exact hP _
  | .binary _ left right _ => exact ⟨builtOf_of_forall hP left, builtOf_of_forall hP right⟩
  | .unary _ operand _ => exact builtOf_of_forall hP operand
  | .call _ args _ => exact ⟨hP _, allBuiltOf_of_forall hP args⟩
  | .assign _ value _ => exact ⟨hP _, builtOf_of_forall hP value⟩
  | .sequence statements _ => exact allBuiltOf_of_forall hP statements

theorem allBuiltOf_of_forall (hP : ∀ kind, P kind) (es : List Expr) : AllBuiltOf P es := by
  match es with
  | [] => trivial
  | e :: es => exact ⟨builtOf_of_forall hP e, allBuiltOf_of_forall hP es⟩

end

end Expr

/-! ## Derived trees -/

namespace Grammar

open Calculator.Parser (Tier)

variable {P : TokenKind → Prop}

/-- What holds of all tokens of a list holds of those behind some of them. -/
theorem holds_of_suffix {ts rest : List Token} (hts : ∀ t ∈ ts, P t.kind) (h : rest <:+ ts) :
    ∀ t ∈ rest, P t.kind :=
  fun t ht => hts t (h.subset ht)

/-- What holds of all tokens holds of the kind that the first of them has. -/
theorem holds_of_head {t : Token} {ts : List Token} {kind : TokenKind}
    (hts : ∀ t' ∈ t :: ts, P t'.kind) (h : t.kind = kind) : P kind :=
  h ▸ hts t List.mem_cons_self

theorem holds_of_tail {t : Token} {ts : List Token} (hts : ∀ t' ∈ t :: ts, P t'.kind) :
    ∀ t' ∈ ts, P t'.kind :=
  holds_of_suffix hts (List.suffix_cons t ts)

mutual

/-- A derived tree is built of the tokens that it is derived from. A rule hands on what is left of
the tokens, and that is a last part of them. -/
theorem Expression.builtOf {n : Nat} {ts rest : List Token} {e : Expr} :
    Expression n ts e rest → (∀ t ∈ ts, P t.kind) → e.BuiltOf P
  | .assign htarget _ hvalue, hts =>
    ⟨holds_of_head hts htarget, hvalue.builtOf (holds_of_tail (holds_of_tail hts))⟩
  | .sum h, hts => h.builtOf hts

theorem Chain.builtOf {tier : Tier} {k n : Nat} {ts rest : List Token} {e : Expr} :
    Chain tier k n ts e rest → (∀ t ∈ ts, P t.kind) → e.BuiltOf P
  | .first h, hts => h.builtOf hts
  | .next hleft _ hright, hts =>
    ⟨hleft.builtOf hts, hright.builtOf (holds_of_tail (holds_of_suffix hts hleft.suffix))⟩

/-- An operand leaves the work to the chain or factor that it is. -/
theorem Operand.builtOf {tier : Tier} {n : Nat} {ts rest : List Token} {e : Expr} :
    Operand tier n ts e rest → (∀ t ∈ ts, P t.kind) → e.BuiltOf P
  | .product h, hts => h.builtOf hts
  | .factor h, hts => h.builtOf hts

theorem Factor.builtOf {n : Nat} {ts rest : List Token} {e : Expr} :
    Factor n ts e rest → (∀ t ∈ ts, P t.kind) → e.BuiltOf P
  | .plain h, hts => h.builtOf hts
  | .factorial h _, hts => h.builtOf hts

/-- Base and exponent are derived from the tokens before and behind the caret. -/
theorem Power.builtOf {n : Nat} {ts rest : List Token} {e : Expr} :
    Power n ts e rest → (∀ t ∈ ts, P t.kind) → e.BuiltOf P
  | .plain h, hts => h.builtOf hts
  | .raised hbase _ hexponent, hts =>
    ⟨hbase.builtOf hts, hexponent.builtOf (holds_of_tail (holds_of_suffix hts hbase.suffix))⟩

/-- The leaves: here numbers, texts and names are taken from tokens. -/
theorem Atom.builtOf {n : Nat} {ts rest : List Token} {e : Expr} :
    Atom n ts e rest → (∀ t ∈ ts, P t.kind) → e.BuiltOf P
  | .number h, hts => holds_of_head hts h
  | .text h, hts => holds_of_head hts h
  | .name h, hts => holds_of_head hts h
  | .call hfunction _ hargs _, hts =>
    ⟨holds_of_head hts hfunction, hargs.builtOf (holds_of_tail (holds_of_tail hts))⟩
  | .group _ h _, hts => h.builtOf (holds_of_tail hts)
  | .negated _ h, hts => h.builtOf (holds_of_tail hts)

theorem Arguments.builtOf {n : Nat} {ts rest : List Token} {args : List Expr} :
    Arguments n ts args rest → (∀ t ∈ ts, P t.kind) → Expr.AllBuiltOf P args
  | .none, _ => trivial
  | .some h, hts => h.builtOf hts

/-- The arguments of a call one after the other, with commas between them. -/
theorem Listed.builtOf {n : Nat} {ts rest : List Token} {args : List Expr} :
    Listed n ts args rest → (∀ t ∈ ts, P t.kind) → Expr.AllBuiltOf P args
  | .last h, hts => ⟨h.builtOf hts, trivial⟩
  | .more h _ hrest, hts =>
    ⟨h.builtOf hts, hrest.builtOf (holds_of_tail (holds_of_suffix hts h.suffix))⟩

end

theorem Series.builtOf {n : Nat} {ts rest : List Token} {es : List Expr} (h : Series n ts es rest)
    (hts : ∀ t ∈ ts, P t.kind) : Expr.AllBuiltOf P es := by
  induction h with
  | last h => exact ⟨h.builtOf hts, trivial⟩
  | more h _ hseparators _ ih =>
    have hus := holds_of_tail (holds_of_suffix hts h.suffix)
    exact ⟨h.builtOf hts, ih (holds_of_suffix hus hseparators.suffix)⟩

/-- So are the statements of a program. -/
theorem Program.builtOf {n : Nat} {ts rest : List Token} {es : List Expr}
    (h : Program n ts es rest) (hts : ∀ t ∈ ts, P t.kind) : Expr.AllBuiltOf P es := by
  cases h with
  | empty => trivial
  | series hbefore h => exact h.builtOf (holds_of_suffix hts hbefore.suffix)

end Grammar

/-! ## Parsed trees -/

/-- Every token of a source is as the scanner makes them. -/
theorem tokenize_lexed (source : String) : ∀ t ∈ tokenize source, t.kind.Lexed := by
  unfold tokenize
  fun_induction Cursor.tokens (Cursor.ofSource source) with
  | case1 cursor => simpa using cursor.next_lexed
  | case2 cursor _ ih => exact List.forall_mem_cons.2 ⟨cursor.next_lexed, ih⟩

/-- Putting statements together adds no leaves. -/
theorem Expr.builtOf_ofStatements {P : TokenKind → Prop} {es : List Expr}
    (h : AllBuiltOf P es) : (ofStatements es).BuiltOf P := by
  match es, h with
  | [], h => exact h
  | [_], h => exact h.1
  | _ :: _ :: _, h => exact h

/-- The tree of a source is built of what the scanner makes. -/
theorem Expr.builtOf_of_parse {P : TokenKind → Prop} (hP : ∀ kind : TokenKind, kind.Lexed → P kind)
    {source : String} {e : Expr} (h : parse source = .ok e) : e.BuiltOf P := by
  obtain ⟨n, es, finish, hderived, -, -, -, rfl⟩ := derivable_of_parse h
  exact builtOf_ofStatements (hderived.builtOf fun t ht => hP _ (tokenize_lexed source t ht))

end Calculator
