import Calculator.Proofs.Parse.Complete
import Calculator.Proofs.Parse.Sound

/-!
# The accepted programs

Statements and the separators between them, and then whole sources: a source has a tree just if its
tokens come to an end without a fault, the grammar derives them, every call has as many arguments as
its function takes, and the derivation stays within the levels.

* `Grammar.Program.reads`: the statements of a program that is derived up to the end are read.
* `Expr.parse_ok_iff_derivable`: the accepted sources and their trees.
* `Expr.parse_of_exceeds`: a derivable program that uses more levels is refused for that reason.
-/

namespace Calculator

theorem TokenKind.isSeparator_of_startsOperand {kind : TokenKind} (h : kind.startsOperand = true) :
    kind.isSeparator = false := by
  cases kind <;> first | rfl | cases h

/-! ## Statements -/

namespace Parser

open Grammar

variable {n m : Nat} {ts us rest : List Token} {e : Expr} {es : List Expr} {t : Token}

theorem skipSeparators_of_tokens {p : Parser} (h : Separators ts (t :: rest))
    (ht : t.kind.isSeparator = false) (hp : p.tokens = ts) :
    p.skipSeparators.tokens = t :: rest ∧ p.skipSeparators.depth = p.depth := by
  generalize hus : t :: rest = us at h
  induction h generalizing p with
  | none =>
    subst hus
    rw [skipSeparators, dif_neg (by rw [current_of_tokens hp, ht]; exact Bool.false_ne_true)]
    exact ⟨hp, rfl⟩
  | more hs _ ih =>
    have hs := separator_iff.1 hs
    rw [skipSeparators, dif_pos (by rw [current_of_tokens hp]; exact hs)]
    obtain ⟨htokens, hdepth⟩ := ih (advance_of_tokens hp (isLast_of_isSeparator hs)) hus
    exact ⟨htokens, by rw [hdepth, depth_advance]⟩

/-- What is read behind a statement. -/
def readFurther (statement : Expr) (p : Parser) : Result (List Expr) :=
  if p.current.kind.isSeparator then
    p.advance.readStatements.andThen fun rest q => .ok (statement :: rest, q)
  else .ok ([statement], p)

theorem empty_reads (h : Separators ts rest) (hend : Next .finish rest) :
    ReadsFrom readStatements 0 ts [] rest := by
  intro p hp hd
  obtain ⟨finish, us, rfl, hfinish⟩ := hend
  obtain ⟨htokens, hdepth⟩ := skipSeparators_of_tokens h (by rw [hfinish]; rfl) hp
  rw [readStatements_eq, if_pos (by rw [current_of_tokens htokens]; exact hfinish)]
  exact .ok hd htokens hdepth

theorem statement_reads (hbefore : Separators ts us)
    (hstarts : ∃ t vs, us = t :: vs ∧ t.kind.startsOperand = true) {vs : List Token}
    (h : ReadsFrom readExpression n us e vs) (hfurther : ReadsFrom (readFurther e) m vs es rest) :
    ReadsFrom readStatements (max n m) ts es rest := by
  intro p hp hd
  obtain ⟨t, ws, rfl, ht⟩ := hstarts
  obtain ⟨htokens, hdepth⟩ :=
    skipSeparators_of_tokens hbefore (TokenKind.isSeparator_of_startsOperand ht) hp
  have hfinish : p.skipSeparators.current.kind ≠ .finish := by
    intro hfinish
    rw [← current_of_tokens htokens, hfinish] at ht
    cases ht
  have hreads := h p.skipSeparators htokens (by rw [hdepth]; exact hd)
  rw [hdepth] at hreads
  rw [readStatements_eq, if_neg hfinish]
  refine hreads.andThen fun q hq hqdepth => ?_
  rw [← hqdepth]
  exact hfurther q hq (by rw [hqdepth]; exact hd)

theorem ended_reads (hend : Next .finish rest) : ReadsFrom (readFurther e) 0 rest [e] rest := by
  intro p hp hd
  obtain ⟨finish, us, rfl, hfinish⟩ := hend
  rw [readFurther, current_of_tokens hp, hfinish, if_neg (by decide)]
  exact .ok hd hp rfl

theorem separated_reads (hseparator : Separator t.kind)
    (h : ReadsFrom readStatements n ts es rest) :
    ReadsFrom (readFurther e) n (t :: ts) (e :: es) rest := by
  intro p hp hd
  have ht := separator_iff.1 hseparator
  have hreads := h p.advance (advance_of_tokens hp (isLast_of_isSeparator ht))
    (by rw [depth_advance]; exact hd)
  rw [depth_advance] at hreads
  rw [readFurther, current_of_tokens hp, if_pos ht]
  exact hreads.thenOk fun q hq hdepth => ⟨q, rfl, hq, hdepth⟩

end Parser

namespace Grammar

open Calculator.Parser (ReadsFrom)

theorem follow_of_separator {t : Token} {ts : List Token} (h : Separator t.kind) :
    Follow 0 (t :: ts) := by
  refine ⟨t, ts, rfl, ?_⟩
  generalize t.kind = kind at h
  cases h <;> exact Nat.le_refl 0

theorem Separators.follow {ts rest : List Token} (h : Separators ts rest)
    (hend : Next .finish rest) : Follow 0 ts := by
  cases h with
  | none => exact hend.follow (by decide)
  | more ht _ => exact follow_of_separator ht

theorem Series.starts {n : Nat} {ts rest : List Token} {es : List Expr} (h : Series n ts es rest) :
    ∃ t us, ts = t :: us ∧ t.kind.startsOperand = true := by
  cases h with
  | last h => exact h.starts
  | more h => exact h.starts

theorem Series.reads {n : Nat} {us vs rest : List Token} {es : List Expr} (h : Series n us es vs)
    (hafter : Separators vs rest) (hend : Next .finish rest)
    (haccepted : ∀ e ∈ es, e.CallsAccepted) {ts : List Token} (hbefore : Separators ts us) :
    ReadsFrom Parser.readStatements n ts es rest := by
  induction h generalizing ts with
  | @last n us vs e h =>
    have hreads := h.reads (haccepted e (by simp)) (hafter.follow hend)
    have hfurther : ReadsFrom (Parser.readFurther e) 0 vs [e] rest := by
      cases hafter with
      | none => exact Parser.ended_reads hend
      | more ht hmore => exact Parser.separated_reads ht (Parser.empty_reads hmore hend)
    rw [← Nat.max_zero n]
    exact Parser.statement_reads hbefore h.starts hreads hfurther
  | more h ht hbetween _ ih =>
    obtain ⟨he, hes⟩ := List.forall_mem_cons.1 haccepted
    exact Parser.statement_reads hbefore h.starts (h.reads he (follow_of_separator ht))
      (Parser.separated_reads ht (ih hafter hes hbetween))

/-- **A program that is derived up to the end of its tokens is read.** -/
theorem Program.reads {n : Nat} {ts rest : List Token} {es : List Expr} (h : Program n ts es rest)
    (hend : Next .finish rest) (haccepted : ∀ e ∈ es, e.CallsAccepted) :
    ReadsFrom Parser.readStatements n ts es rest := by
  cases h with
  | empty h => exact Parser.empty_reads h hend
  | series hbefore h hafter => exact h.reads hafter hend haccepted hbefore

end Grammar

/-! ## Sources -/

/-- Only the last token of a source ends it. -/
theorem Cursor.tokens_split (cursor : Cursor) : ∃ body last, cursor.tokens = body ++ [last]
    ∧ ∀ t ∈ body, t.kind.isLast = false := by
  fun_induction Cursor.tokens cursor with
  | case1 cursor => exact ⟨[], cursor.next.1, rfl, by simp⟩
  | case2 cursor hlast ih =>
    obtain ⟨body, last, htokens, hbody⟩ := ih
    refine ⟨cursor.next.1 :: body, last, by rw [htokens]; rfl, ?_⟩
    exact List.forall_mem_cons.2 ⟨by simpa using hlast, hbody⟩

/-- What stands before the end of a source holds no fault. -/
theorem tokenize_faultless {source : String} {body : List Token} {last : Token}
    (h : tokenize source = body ++ [last]) : ∀ t ∈ body, ∀ cause, t.kind ≠ .fault cause := by
  intro t ht cause hfault
  obtain ⟨body', last', hsplit, hbody⟩ := (Cursor.ofSource source).tokens_split
  have heq : body ++ [last] = body' ++ [last'] := h.symm.trans hsplit
  have hlast := hbody t ((List.append_inj' heq rfl).1 ▸ ht)
  rw [hfault] at hlast
  cases hlast

namespace Parser

theorem tokens_ofSource (source : String) : (ofSource source).tokens = tokenize source := rfl

theorem depth_ofSource (source : String) : (ofSource source).depth = 0 := rfl

theorem endFault?_eq_none {p : Parser} : p.endFault? = none ↔ p.current.kind = .finish := by
  unfold endFault?
  cases p.current.kind <;> simp

end Parser

namespace Expr

open Grammar (Program Next Tree tree_iff)

theorem parse_eq_ok {source : String} {e : Expr} : parse source = .ok e ↔
    ∃ es p, (Parser.ofSource source).readStatements = .ok (es, p) ∧ p.current.kind = .finish
      ∧ ofStatements es = e := by
  rw [parse, Parser.readStatements]
  cases (Parser.ofSource source).statements with
  | failed fault p =>
    constructor
    · rintro ⟨⟩
    · rintro ⟨-, -, ⟨⟩, -⟩
  | done es p hp =>
    cases hend : p.endFault? with
    | none =>
      simp only [hend]
      constructor
      · rintro ⟨⟩
        exact ⟨es, p, rfl, Parser.endFault?_eq_none.1 hend, rfl⟩
      · rintro ⟨es', p', hread, -, rfl⟩
        cases hread
        rfl
    | some fault =>
      simp only [hend]
      constructor
      · rintro ⟨⟩
      · rintro ⟨es', p', hread, hfinish, -⟩
        cases hread
        rw [Parser.endFault?_eq_none.2 hfinish] at hend
        cases hend

theorem parse_of_readStatements {source : String} {fault : Fault} {p : Parser}
    (h : (Parser.ofSource source).readStatements = .error (fault, p)) :
    parse source = .error fault := by
  rw [Parser.readStatements] at h
  rw [parse]
  cases hstatements : (Parser.ofSource source).statements with
  | failed fault' p' => rw [hstatements] at h; cases h; rfl
  | done es q hq => rw [hstatements] at h; cases h

/-- The tree of a source comes from a derivation of its tokens. -/
theorem derivable_of_parse {source : String} {e : Expr} (h : parse source = .ok e) :
    ∃ n es finish, Program n (tokenize source) es [finish] ∧ finish.kind = .finish
      ∧ (∀ s ∈ es, s.CallsAccepted) ∧ n ≤ maxNesting ∧ ofStatements es = e := by
  obtain ⟨es, p, hread, hfinish, he⟩ := parse_eq_ok.1 h
  obtain ⟨-, haccepted, n, hderived, hn⟩ :=
    Parser.statements_derive _ (by rw [Parser.depth_ofSource]; exact Nat.zero_le _) es p hread
  have hend : p.tokens = [p.current] := Parser.tokens_of_isLast (by rw [hfinish]; rfl)
  rw [Parser.tokens_ofSource, hend] at hderived
  rw [Parser.depth_ofSource, Nat.zero_add] at hn
  exact ⟨n, es, p.current, hderived, hfinish, haccepted, hn, he⟩

/-- A derivable program is read within the levels, and refused beyond them. -/
theorem reads_of_derivable {source : String} {n : Nat} {es : List Expr} {finish : Token}
    (h : Program n (tokenize source) es [finish]) (hfinish : finish.kind = .finish)
    (haccepted : ∀ s ∈ es, s.CallsAccepted) :
    Parser.Reads 0 n es [finish] (Parser.ofSource source).readStatements :=
  h.reads ⟨finish, [], rfl, hfinish⟩ haccepted _ (Parser.tokens_ofSource source)
    (by rw [Parser.depth_ofSource]; exact Nat.zero_le _)

/-- A derivable program within the levels is accepted. -/
theorem parse_of_fits {source : String} {n : Nat} {es : List Expr} {finish : Token}
    (h : Program n (tokenize source) es [finish]) (hfinish : finish.kind = .finish)
    (haccepted : ∀ s ∈ es, s.CallsAccepted) (hn : n ≤ maxNesting) :
    parse source = .ok (ofStatements es) := by
  obtain ⟨p, hread, htokens, -⟩ :=
    (reads_of_derivable h hfinish haccepted).fits (by rw [Nat.zero_add]; exact hn)
  refine parse_eq_ok.2 ⟨es, p, hread, ?_, rfl⟩
  rw [Parser.current_of_tokens htokens, hfinish]

/-- A derivable program that uses more levels than there are is refused for that reason. -/
theorem parse_of_exceeds {source : String} {n : Nat} {es : List Expr} {finish : Token}
    (h : Program n (tokenize source) es [finish]) (hfinish : finish.kind = .finish)
    (haccepted : ∀ s ∈ es, s.CallsAccepted) (hn : maxNesting < n) :
    ∃ fault, parse source = .error fault ∧ fault.cause = .nestedTooDeeply maxNesting := by
  obtain ⟨fault, p, hread, hcause⟩ :=
    (reads_of_derivable h hfinish haccepted).exceeds (by rw [Nat.zero_add]; exact hn)
  exact ⟨fault, parse_of_readStatements hread, hcause⟩

/-- **The accepted sources are the derivable ones.** Its tokens end without a fault, the grammar
derives them, every call takes the arguments it is given, and no level is beyond the last one. -/
theorem parse_ok_iff_derivable (source : String) (e : Expr) :
    parse source = .ok e ↔
      ∃ body finish, tokenize source = body ++ [finish] ∧ finish.kind = .finish
        ∧ (∀ t ∈ body, ∀ cause, t.kind ≠ .fault cause)
        ∧ ∃ levels statements, Program levels (tokenize source) statements [finish]
          ∧ (∀ s ∈ statements, s.CallsAccepted) ∧ levels ≤ 64 ∧ Tree statements e := by
  constructor
  · intro h
    obtain ⟨n, es, finish, hderived, hfinish, haccepted, hn, he⟩ := derivable_of_parse h
    obtain ⟨body, hbody⟩ := hderived.suffix
    exact ⟨body, finish, hbody.symm, hfinish, tokenize_faultless hbody.symm, n, es, hderived,
      haccepted, hn, tree_iff.2 he.symm⟩
  · rintro ⟨-, finish, -, hfinish, -, n, es, hderived, haccepted, hn, htree⟩
    rw [tree_iff.1 htree]
    exact parse_of_fits hderived hfinish haccepted hn

open Grammar in
/-- A source with operators of both tiers, a negated operand, a factorial, an assignment, a call and
a power, from its derivation. -/
theorem parse_ok_iff_derivable_mixed :
    let first : Expr := .assign "x" (.binary .add (.number 1 ⟨2, 3⟩)
      (.binary .multiply (.number 2 ⟨4, 5⟩)
        (.unary .factorial (.unary .negate (.number 3 ⟨7, 8⟩) ⟨6, 8⟩) ⟨6, 9⟩) ⟨4, 9⟩) ⟨2, 9⟩) ⟨0, 9⟩
    let second : Expr := .binary .power
      (.call "max" [.name "x" ⟨14, 15⟩, .number 4 ⟨16, 17⟩] ⟨10, 18⟩) (.number 2 ⟨19, 20⟩) ⟨10, 20⟩
    parse "x=1+2*-3!;max(x,4)^2" = .ok (.sequence [first, second] ⟨0, 20⟩) := by
  intro first second
  let body : List Token :=
    [⟨.identifier "x", "x", ⟨0, 1⟩⟩, ⟨.equal, "=", ⟨1, 2⟩⟩, ⟨.number 1, "1", ⟨2, 3⟩⟩,
      ⟨.plus, "+", ⟨3, 4⟩⟩, ⟨.number 2, "2", ⟨4, 5⟩⟩, ⟨.star, "*", ⟨5, 6⟩⟩, ⟨.minus, "-", ⟨6, 7⟩⟩,
      ⟨.number 3, "3", ⟨7, 8⟩⟩, ⟨.bang, "!", ⟨8, 9⟩⟩, ⟨.semicolon, ";", ⟨9, 10⟩⟩,
      ⟨.function "max", "max", ⟨10, 13⟩⟩, ⟨.opening, "(", ⟨13, 14⟩⟩,
      ⟨.identifier "x", "x", ⟨14, 15⟩⟩, ⟨.comma, ",", ⟨15, 16⟩⟩, ⟨.number 4, "4", ⟨16, 17⟩⟩,
      ⟨.closing, ")", ⟨17, 18⟩⟩, ⟨.caret, "^", ⟨18, 19⟩⟩, ⟨.number 2, "2", ⟨19, 20⟩⟩]
  let finish : Token := ⟨.finish, "", ⟨20, 21⟩⟩
  have htokens : tokenize "x=1+2*-3!;max(x,4)^2" = body ++ [finish] := by decide +kernel
  have factor {ts rest : List Token} {e : Expr} (h : Atom 0 ts e rest) :
      Operand .product 0 ts e rest :=
    .factor (.plain (.plain h))
  have argument {ts rest : List Token} {e : Expr} (h : Atom 0 ts e rest) :
      Expression 1 ts e rest :=
    .sum (.first (.product (.first (factor h))))
  have hfirst : ∃ n ≤ 64, Expression n (body ++ [finish]) first (body.drop 9 ++ [finish]) :=
    ⟨_, by decide, .assign rfl rfl (.sum (.next (.first (.product (.first (factor (.number rfl)))))
      .add (.product (.next (.first (factor (.number rfl))) .multiply
        (.factor (.factorial (.plain (.negated rfl (.number rfl))) rfl))))))⟩
  have hsecond : ∃ n ≤ 64, Expression n (body.drop 10 ++ [finish]) second [finish] :=
    ⟨_, by decide, .sum (.first (.product (.first (.factor (.plain (.raised
      (.call rfl rfl (.some (.more (argument (.name rfl)) rfl
        (.last (argument (.number rfl))))) rfl)
      rfl (.plain (.number rfl))))))))⟩
  obtain ⟨n, hn, hfirst⟩ := hfirst
  obtain ⟨m, hm, hsecond⟩ := hsecond
  have hmax : TakesArguments "max" 2 := ⟨_, rfl, rfl⟩
  refine (parse_ok_iff_derivable _ _).2 ⟨body, finish, htokens, rfl, tokenize_faultless htokens,
    max n m, [first, second], ?_, by simp [first, second, hmax], Nat.max_le.2 ⟨hn, hm⟩,
    .several first [] second⟩
  rw [htokens]
  exact .series .none (.more hfirst .semicolon .none (.last hsecond)) .none

end Expr

end Calculator
