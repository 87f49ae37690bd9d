import Calculator.Proofs.Parse.Blame
import Calculator.Proofs.Parse.Nesting
import Calculator.Proofs.Session.Faults

/-!
# Faults can be shown in their source

Whatever is wrong with a program, the span of its fault can be marked in the text: it covers
something, and starts and stops between characters (`Span.Usable`). Only at the end of the text it
goes one byte beyond, where there is nothing left to cover.

A fault of the parser is at a token, at a call, or at the byte behind the token before where the
source ends (`Tokens.FaultAt`). That byte is a character: what is left there is trivia, and trivia
starts with a character of one byte, whatever stands in the comment behind. A fault of the
evaluation is at a tree of the program, whose span stands in the source as all of them do.
-/

namespace Calculator

/-! ## Spans that can be shown -/

/-- The span is not empty and lies in the source, between characters. At the end of the source it is
the byte behind the last one. -/
structure Span.Usable (source : String) (span : Span) : Prop where
  nonempty : span.start < span.stop
  start_le : span.start ≤ source.utf8ByteSize
  stop_le : span.stop ≤ source.utf8ByteSize + 1
  beyond : span.stop = source.utf8ByteSize + 1 → span.start = source.utf8ByteSize
  start : IsBoundary source span.start
  stop : IsBoundary source (min span.stop source.utf8ByteSize)

theorem Span.StandsIn.usable {source : String} {span : Span} (h : span.StandsIn source) :
    span.Usable source where
  nonempty := h.nonempty
  start_le := h.start.le
  stop_le := Nat.le_succ_of_le h.stop.le
  beyond hstop := absurd (hstop ▸ h.stop.le) (Nat.not_succ_le_self _)
  start := h.start
  stop := by
    rw [Nat.min_eq_left h.stop.le]
    exact h.stop

theorem Span.usable_end (source : String) : (Span.single source.utf8ByteSize).Usable source where
  nonempty := Nat.lt_succ_self _
  start_le := Nat.le_refl _
  stop_le := Nat.le_refl _
  beyond _ := rfl
  start := isBoundary_end source
  stop := by
    rw [Span.single, Nat.min_eq_right (Nat.le_succ _)]
    exact isBoundary_end source

/-! ## Where the source ends -/

/-- Trivia starts with a blank or the mark of a comment. -/
theorem Trivia.utf8Size_head {c : Char} {gap rest : List Char} (h : Trivia (c :: gap) rest) :
    c.utf8Size = 1 := by
  generalize htrivia : c :: gap = trivia at h
  cases h with
  | none => cases htrivia
  | blank hc =>
    cases htrivia
    simp only [blanks, List.mem_cons, List.not_mem_nil, or_false] at hc
    rcases hc with rfl | rfl | rfl <;> rfl
  | line hmark => rcases hmark with rfl | rfl <;> cases htrivia <;> rfl
  | block | openBlock => cases htrivia; rfl

/-- The first byte of trivia at the end of a source, or the one behind it if there is none. -/
theorem Trivia.single_usable {source : String} {before gap : List Char}
    (hsource : source.toList = before ++ gap) (h : Trivia gap []) :
    (Span.single (byteLength before)).Usable source := by
  cases gap with
  | nil =>
    have hend : byteLength before = source.utf8ByteSize := by
      rw [utf8ByteSize_eq_byteLength, hsource, List.append_nil]
    rw [hend]
    exact Span.usable_end source
  | cons c gap =>
    refine Span.StandsIn.usable ⟨Nat.lt_succ_self _, isBoundary_of_toList hsource, ?_⟩
    have hnext : source.toList = (before ++ [c]) ++ gap := by
      rw [hsource, List.append_assoc]
      rfl
    have hstop : byteLength (before ++ [c]) = byteLength before + 1 := by
      simp [byteLength_append, byteLength, h.utf8Size_head]
    rw [Span.single, ← hstop]
    exact isBoundary_of_toList hnext

/-! ## Faults of the parser -/

namespace Tokens

variable {source : String} {p q : Nat} {ts us : List Token} {fault : Fault}

/-- From the byte `p` on the rest of the source has the tokens `ts`. -/
def Place (source : String) (p : Nat) (ts : List Token) : Prop :=
  ∃ before rest, source.toList = before ++ rest ∧ byteLength before = p ∧ Tiling before rest ts

theorem place_start (source : String) : Place source 0 (tokenize source) :=
  ⟨[], source.toList, rfl, rfl, tokenize_tiling source⟩

theorem Place.reach (h : Place source p ts) (hreach : Reach p ts q us) : Place source q us := by
  induction hreach with
  | here => exact h
  | @past p q t ts us ht _ ih =>
    obtain ⟨before, rest, hsource, hp, htiling⟩ := h
    refine ih ?_
    cases htiling with
    | finish | fault => cases ht
    | @more _ gap lexeme rest _ _ _ _ _ htiling =>
      exact ⟨before ++ gap ++ lexeme, rest, by simpa using hsource, rfl, htiling⟩

theorem Place.single_usable (h : Place source p ts) (hend : atEnd ts = true) :
    (Span.single p).Usable source := by
  obtain ⟨before, rest, hsource, rfl, htiling⟩ := h
  cases htiling with
  | finish hgap => exact Trivia.single_usable hsource hgap.1
  | fault => cases hend
  | more hkind =>
    cases of_decide_eq_true hend
    cases hkind

theorem FaultAt.usable (h : FaultAt p ts fault) (hplace : Place source p ts)
    (hts : ts <:+ tokenize source) : fault.span.Usable source := by
  cases h with
  | lexical ht hspan =>
    rw [hspan]
    exact (Token.span_standsIn (hts.subset List.mem_cons_self) (by simp [ht])).usable
  | @token t _ _ _ hspan =>
    have hmem : t ∈ tokenize source := hts.subset List.mem_cons_self
    rw [hspan]
    by_cases ht : t.kind = .finish
    · have hend := ((tokenize_tiling source).finished t hmem ht).2
      rw [List.nil_append, ← utf8ByteSize_eq_byteLength] at hend
      rw [hend]
      exact Span.usable_end source
    · exact (Token.span_standsIn hmem ht).usable
  | finish hend _ hspan =>
    rw [hspan]
    exact hplace.single_usable hend
  | call ht hclose hmem _ hspan =>
    have hfunction := Token.span_standsIn (hts.subset List.mem_cons_self)
      (TokenKind.ne_finish_of_isLast ht)
    have hparenthesis := Token.span_standsIn (hts.subset hmem)
      (TokenKind.ne_finish_of_isLast hclose)
    rw [hspan]
    exact (hfunction.cover hparenthesis).usable

end Tokens

theorem Expr.parse_fault_usable {source : String} {fault : Fault}
    (h : parse source = .error fault) : fault.span.Usable source := by
  rw [parse_eq_tokens] at h
  obtain ⟨q, us, hreach, hfault⟩ := Tokens.parse_blamed h
  exact hfault.usable ((Tokens.place_start source).reach hreach) hreach.suffix

/-! ## Faults of the evaluation -/

/-- A tree of a program that fails stands in the source. Only the tree of the empty program does not
stand there, and it does not fail. -/
theorem Expr.evaluate_fault_usable {source : String} {e : Expr} (h : parse source = .ok e)
    {s s' : Session} {fault : Fault} (hrun : e.evaluate s = .error fault s') :
    fault.span.Usable source := by
  obtain ⟨n, es, finish, hderived, -, -, -, rfl⟩ := derivable_of_parse h
  obtain ⟨rest, hspanned⟩ := hderived.spanned List.suffix_rfl
  have hends := (ofStatements es).evaluate_failsAmong (List.Subset.refl _) s
  rw [hrun] at hends
  obtain ⟨x, hx, hfails⟩ := hends
  rcases nests_ofStatements hspanned with hempty | hnests
  · rw [hempty, nodes, nodesAll] at hx
    cases List.mem_singleton.1 hx
    cases hfails
  · rw [hfails.span_eq]
    exact (hnests x hx).standing.usable

/-! ## Programs -/

/-- **Every fault can be shown.** Whatever is wrong with a source, in whatever session it is run,
the span of the fault is not empty, starts in the source or at its end, goes beyond it only from
there and by one byte, and falls between characters. -/
theorem Session.run_fault_usable {source : String} {s s' : Session} {fault : Fault}
    (h : Session.run source s = .error fault s') : fault.span.Usable source := by
  cases hparse : Expr.parse source with
  | error fault' =>
    rw [Session.run_of_fault hparse] at h
    cases h
    exact Expr.parse_fault_usable hparse
  | ok e =>
    rw [Session.run_of_parse hparse] at h
    exact Expr.evaluate_fault_usable hparse h

/-- The source ends behind an operator, and what is left is a comment with a character of two
bytes. -/
theorem Session.run_fault_usable_text :
    Session.run "1 +/* é */" {} = .error ⟨.unexpectedEnd, ⟨3, 4⟩, none⟩ {}
      ∧ Span.Usable "1 +/* é */" ⟨3, 4⟩ := by
  have hrun : Session.run "1 +/* é */" {} = .error ⟨.unexpectedEnd, ⟨3, 4⟩, none⟩ {} :=
    eq_error_of_fault? (by decide +kernel)
  exact ⟨hrun, Session.run_fault_usable hrun⟩

end Calculator
