import Calculator.Proofs.Token.Spaced
import Calculator.Proofs.Token.Tiling

/-!
# Where tokens stand

A span that can be shown to a reader covers something, and starts and stops between characters
(`Span.StandsIn`). The spans of tokens are such spans, and so is what two of them cover. The text of
a token's span, taken by itself, is read as that one token (`tokenize_lexeme`).
-/

namespace Calculator

/-! ## Spans in a text -/

/-- The position is between two characters of the text, or at one of its ends. -/
def IsBoundary (source : String) (position : Nat) : Prop :=
  ∃ before after, source = before ++ after ∧ before.utf8ByteSize = position

section

variable {source : String}

theorem IsBoundary.le {position : Nat} (h : IsBoundary source position) :
    position ≤ source.utf8ByteSize := by
  obtain ⟨before, after, rfl, rfl⟩ := h
  rw [String.utf8ByteSize_append]
  exact Nat.le_add_right _ _

theorem isBoundary_of_toList {before after : List Char} (h : source.toList = before ++ after) :
    IsBoundary source (byteLength before) := by
  refine ⟨String.ofList before, String.ofList after, ?_, utf8ByteSize_ofList before⟩
  rw [← String.toList_inj]
  simpa using h

theorem isBoundary_end (source : String) : IsBoundary source source.utf8ByteSize :=
  ⟨source, "", String.append_empty.symm, rfl⟩

/-- The span covers at least one character of the text, and no part of one. -/
structure Span.StandsIn (source : String) (span : Span) : Prop where
  nonempty : span.start < span.stop
  start : IsBoundary source span.start
  stop : IsBoundary source span.stop

theorem Span.StandsIn.cover {a b : Span} (ha : a.StandsIn source) (hb : b.StandsIn source) :
    (a.cover b).StandsIn source where
  nonempty := by
    have hle : min a.start b.start ≤ a.start := Nat.min_le_left _ _
    have hge : a.stop ≤ max a.stop b.stop := Nat.le_max_left _ _
    exact Nat.lt_of_le_of_lt hle (Nat.lt_of_lt_of_le ha.nonempty hge)
  start := by
    rcases Nat.le_total a.start b.start with h | h
    · rw [Span.cover, Nat.min_eq_left h]
      exact ha.start
    · rw [Span.cover, Nat.min_eq_right h]
      exact hb.start
  stop := by
    rcases Nat.le_total a.stop b.stop with h | h
    · rw [Span.cover, Nat.max_eq_right h]
      exact hb.stop
    · rw [Span.cover, Nat.max_eq_left h]
      exact ha.stop

end

/-! ## Tokens of a source -/

theorem TokenKind.ne_finish_of_isLast {kind : TokenKind} (h : kind.isLast = false) :
    kind ≠ .finish := by
  rintro rfl
  cases h

theorem tokenize_tiling (source : String) : Tiling [] source.toList (tokenize source) :=
  (Cursor.ofSource source).tokens_tiling rfl

section

variable {source : String} {t : Token} {ts : List Token}

/-- A token other than the end of the source is the text of its span. -/
theorem Token.standsIn_of_mem (h : t ∈ tokenize source) (hkind : t.kind ≠ .finish) :
    t.StandsIn source := by
  obtain ⟨-, first, rest, hsplit, hspan⟩ := (tokenize_tiling source).placed t h hkind
  refine ⟨String.ofList first, String.ofList rest, ?_, ?_⟩
  · rw [← String.toList_inj]
    simpa using hsplit
  · rw [hspan]
    simp [utf8ByteSize_eq_byteLength]

theorem Token.span_standsIn (h : t ∈ tokenize source) (hkind : t.kind ≠ .finish) :
    t.span.StandsIn source := by
  obtain ⟨hlexeme, -⟩ := (tokenize_tiling source).placed t h hkind
  obtain ⟨before, after, hsource, hspan⟩ := Token.standsIn_of_mem h hkind
  have hpos : 0 < t.lexeme.utf8ByteSize := Nat.pos_of_ne_zero fun hzero =>
    hlexeme (String.utf8ByteSize_eq_zero_iff.1 hzero)
  rw [hspan]
  refine ⟨?_, ⟨before, t.lexeme ++ after, ?_, rfl⟩, ⟨before ++ t.lexeme, after, hsource, rfl⟩⟩
  · rw [String.utf8ByteSize_append]
    exact Nat.lt_add_of_pos_right hpos
  · rw [← String.append_assoc]
    exact hsource

/-- A token stops before those that come after it start. -/
theorem Token.stop_le_of_suffix (h : t :: ts <:+ tokenize source) :
    ∀ u ∈ ts, t.span.stop ≤ u.span.start := by
  intro u hu
  have hordered := (tokenize_tiling source).ordered.sublist h.sublist
  exact ((List.pairwise_cons.1 hordered).1 u hu).2

end

/-! ## The text of a token -/

namespace Cursor

/-- The characters of a token, alone, are that token and the end. -/
theorem tokens_lexeme {start : Cursor} (h : (Token.scan start.rest).kind.isLast = false) :
    tokens ⟨0, (Token.scan start.rest).lexeme⟩
      = [⟨start.readAt.1.kind, start.readAt.1.lexeme,
          ⟨0, byteLength (Token.scan start.rest).lexeme⟩⟩,
        ⟨.finish, "", .single (byteLength (Token.scan start.rest).lexeme)⟩] := by
  have halone := Token.scan_lexeme h
  have hne : (Token.scan start.rest).lexeme ≠ [] := by
    cases hrest : start.rest with
    | nil => rw [hrest] at h; cases h
    | cons c cs => exact Token.scan_lexeme_ne_nil c cs
  have hskip : skipTrivia 0 (Token.scan start.rest).lexeme
      = ⟨0, (Token.scan start.rest).lexeme⟩ :=
    skipTrivia_of_token (by rw [halone]; exact h) (by rw [halone]; simp [Token.Scanned.alone]) 0
  have hnext : next ⟨0, (Token.scan start.rest).lexeme⟩
      = (⟨start.readAt.1.kind, start.readAt.1.lexeme,
          ⟨0, byteLength (Token.scan start.rest).lexeme⟩⟩,
        ⟨byteLength (Token.scan start.rest).lexeme, []⟩) := by
    rw [next_eq_readAt, hskip]
    simp only [readAt, halone, Token.Scanned.alone, Nat.zero_add]
    rw [if_neg (by simpa using hne)]
  rw [tokens_of_more (by rw [hnext]; exact h), hnext, tokens_of_last rfl]
  rfl

theorem tokens_scanned (cursor : Cursor) :
    ∀ t ∈ cursor.tokens, ∃ start : Cursor, t = start.readAt.1 := by
  fun_induction tokens cursor with
  | case1 cursor =>
    intro t ht
    rw [List.mem_singleton.1 ht]
    exact ⟨_, rfl⟩
  | case2 cursor _ ih => exact List.forall_mem_cons.2 ⟨⟨_, rfl⟩, ih⟩

end Cursor

/-- **The text of a token is that token.** -/
theorem tokenize_lexeme {source : String} {t : Token} (h : t ∈ tokenize source)
    (hlast : t.kind.isLast = false) :
    tokenize t.lexeme = [⟨t.kind, t.lexeme, ⟨0, t.lexeme.utf8ByteSize⟩⟩,
      ⟨.finish, "", .single t.lexeme.utf8ByteSize⟩] := by
  obtain ⟨start, rfl⟩ := (Cursor.ofSource source).tokens_scanned t h
  have hlexeme : start.readAt.1.lexeme.toList = (Token.scan start.rest).lexeme :=
    String.toList_ofList
  rw [tokenize, Cursor.ofSource, utf8ByteSize_eq_byteLength, hlexeme]
  exact Cursor.tokens_lexeme hlast

end Calculator
