import Calculator.Proofs.Parse.Blame
import Calculator.Proofs.Token.Standing

/-!
# Lexical faults are neither lost nor made up

The tokens of a source end with the end of the source or with a fault. The parser passes neither
(`Tokens.Reach`), so that last token is still ahead wherever the parser stops. It accepts only where
the end of the source comes next, and a lexical fault is that of the token it stands at; hence each
of them tells how the tokens end (`Expr.parse_lexical`). A parser that stops before it gets to a
fault at the end stops at an earlier place of the source.
-/

namespace Calculator

namespace Tokens

variable {p q : Nat} {t last : Token} {ts us : List Token} {fault : Fault}

/-- The last of the tokens, and no other of them, ends a source. -/
def EndsIn (ts : List Token) (last : Token) : Prop :=
  ∃ body, ts = body ++ [last] ∧ last.kind.isLast = true ∧ ∀ t ∈ body, t.kind.isLast = false

theorem EndsIn.cons (h : EndsIn (t :: ts) last) :
    t = last ∧ last.kind.isLast = true ∧ ts = [] ∨ t.kind.isLast = false ∧ EndsIn ts last := by
  obtain ⟨body, hts, hlast, hbody⟩ := h
  cases body with
  | nil =>
    cases hts
    exact .inl ⟨rfl, hlast, rfl⟩
  | cons u body =>
    cases hts
    obtain ⟨hu, hbody⟩ := List.forall_mem_cons.1 hbody
    exact .inr ⟨hu, body, rfl, hlast, hbody⟩

theorem EndsIn.ne_nil (h : EndsIn ts last) : ts ≠ [] := by
  obtain ⟨body, rfl, -⟩ := h
  simp

/-- A token that ends a source is the last one. -/
theorem EndsIn.eq_last (h : EndsIn (t :: ts) last) (ht : t.kind.isLast = true) : t = last := by
  rcases h.cons with ⟨heq, -⟩ | ⟨hmore, -⟩
  · exact heq
  · rw [ht] at hmore
    cases hmore

/-- The last token is never passed. -/
theorem EndsIn.reach (h : EndsIn ts last) (hreach : Reach p ts q us) : EndsIn us last := by
  induction hreach with
  | here => exact h
  | past ht _ ih =>
    rcases h.cons with ⟨rfl, hlast, -⟩ | ⟨-, hts⟩
    · rw [ht] at hlast
      cases hlast
    · exact ih hts

/-! ## What a reading tells about the last token -/

/-- What is accepted goes up to the end of the source. -/
theorem parse_reaches_finish {e : Expr} (h : parse ts = .ok e) (hts : EndsIn ts last) :
    last.kind = .finish := by
  have hstatements := statements_accounted 0 0 ts
  rw [parse] at h
  generalize statements 0 0 ts = reading at hstatements h
  cases hstatements with
  | failed => cases h
  | @done es us q _ hreach =>
    have hus := hts.reach hreach
    simp only [bind, Except.bind] at h
    cases us with
    | nil => exact absurd rfl hus.ne_nil
    | cons t us =>
      cases hkind : t.kind with
      | finish =>
        rw [← hus.eq_last (by rw [hkind]; rfl)]
        exact hkind
      | _ => simp [endFault?, hkind] at h

/-- A lexical fault is that of the last token. -/
theorem FaultAt.last_of_lexical (h : FaultAt p ts fault) (hts : EndsIn ts last)
    (hkind : fault.kind = .lexical) : last.kind = .fault fault.cause ∧ last.span = fault.span := by
  cases h with
  | lexical ht hspan =>
    rw [← hts.eq_last (by rw [ht]; rfl)]
    exact ⟨ht, hspan.symm⟩
  | token hother | finish _ hother | call _ _ _ hother => exact absurd hkind hother

/-- A fault starts no later than a last token that is one. -/
theorem FaultAt.start_le_last (h : FaultAt p ts fault) (hts : EndsIn ts last) {cause : Cause}
    (hlast : last.kind = .fault cause)
    (hordered : ∀ t ∈ ts.head?, t.span.start ≤ last.span.start) :
    fault.span.start ≤ last.span.start := by
  cases h with
  | lexical _ hspan | token _ hspan =>
    rw [hspan]
    exact hordered _ rfl
  | finish hend =>
    cases ts with
    | nil => exact absurd rfl hts.ne_nil
    | cons t ts =>
      have hfinish : t.kind = .finish := of_decide_eq_true hend
      rw [← hts.eq_last (by rw [hfinish]; rfl), hfinish] at hlast
      cases hlast
  | call _ _ _ _ hspan =>
    rw [hspan]
    exact Nat.le_trans (Nat.min_le_left _ _) (hordered _ rfl)

end Tokens

/-! ## Sources -/

section

variable {source : String} {t last : Token} {ts : List Token}

theorem tokenize_endsIn (source : String) :
    ∃ last, (tokenize source).getLast? = some last ∧ Tokens.EndsIn (tokenize source) last := by
  obtain ⟨body, last, htokens, hlast, hbody⟩ := (tokenize_tiling source).ended
  exact ⟨last, by rw [htokens, List.getLast?_concat], body, htokens, hlast, hbody⟩

theorem Token.start_le_of_endsIn (hsuffix : ts <:+ tokenize source)
    (hts : Tokens.EndsIn ts last) : ∀ t ∈ ts.head?, t.span.start ≤ last.span.start := by
  intro t ht
  have hordered := (tokenize_tiling source).ordered.sublist hsuffix.sublist
  obtain ⟨body, rfl, -⟩ := hts
  cases body with
  | nil =>
    cases ht
    exact Nat.le_refl _
  | cons u body =>
    cases ht
    exact Nat.le_of_lt ((List.pairwise_cons.1 hordered).1 last (by simp)).1

end

/-- **Lexical faults are neither lost nor made up.** A source that is accepted has tokens up to its
end. A lexical fault is that of the last token, at its place and in its words. A source whose tokens
end with a fault is not accepted, and what is wrong with it starts there at the latest. -/
theorem Expr.parse_lexical (source : String) (language : Language) :
    ∃ last, (tokenize source).getLast? = some last
      ∧ (∀ e, parse source = .ok e → last.kind = .finish)
      ∧ (∀ fault, parse source = .error fault → (fault.notice language).kind = .lexical →
          ∃ cause, last.kind = .fault cause ∧ last.span = (fault.notice language).span
            ∧ cause.text language = (fault.notice language).message)
      ∧ ∀ cause, last.kind = .fault cause →
          ∃ fault, parse source = .error fault
            ∧ (fault.notice language).span.start ≤ last.span.start := by
  obtain ⟨last, hgetLast, hends⟩ := tokenize_endsIn source
  rw [parse_eq_tokens]
  refine ⟨last, hgetLast, fun e hparse => Tokens.parse_reaches_finish hparse hends,
    fun fault hparse hkind => ?_, fun cause hlast => ?_⟩
  · obtain ⟨q, us, hreach, hfault⟩ := Tokens.parse_blamed hparse
    obtain ⟨hcause, hspan⟩ := hfault.last_of_lexical (hends.reach hreach) hkind
    exact ⟨fault.cause, hcause, hspan, rfl⟩
  · cases hparse : Tokens.parse (tokenize source) with
    | ok e =>
      rw [Tokens.parse_reaches_finish hparse hends] at hlast
      cases hlast
    | error fault =>
      obtain ⟨q, us, hreach, hfault⟩ := Tokens.parse_blamed hparse
      have hus := hends.reach hreach
      exact ⟨fault, rfl,
        hfault.start_le_last hus hlast (Token.start_le_of_endsIn hreach.suffix hus)⟩

end Calculator
