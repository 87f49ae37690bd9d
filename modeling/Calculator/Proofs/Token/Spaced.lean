import Calculator.Proofs.Token.Join
import Mathlib.Data.List.TakeWhile

/-!
# Tokens with spaces between them

How a source is laid out does not matter to its tokens. Put their lexemes in a row with single
spaces between them, and the text has the same tokens again, at other places (`tokenize_spaced`).

* `Token.scan_lexeme`: the characters of a token, alone, are that token. So nothing behind a token
  has a part in it.
* `Token.scan_spaced`: before a space they are that token too, since no number and no name goes
  across a space and a text ends at its quote.
* `Cursor.skipTrivia_of_token`: what stands before a space and is a token does not start with
  trivia. In particular a `/` before a space starts no comment, whatever the next lexeme is.
-/

namespace Calculator

namespace Token

/-! ## A token alone -/

/-- The token with nothing behind it. -/
def Scanned.alone (scanned : Scanned) : Scanned := { scanned with rest := [] }

theorem takeWhile_takeWhile_self (p : Char → Bool) (cs : List Char) :
    (cs.takeWhile p).takeWhile p = cs.takeWhile p :=
  List.takeWhile_eq_self_iff.2 (List.all_eq_true.1 List.all_takeWhile)

theorem dropWhile_takeWhile_self (p : Char → Bool) (cs : List Char) :
    (cs.takeWhile p).dropWhile p = [] :=
  List.dropWhile_eq_nil_iff.2 (List.all_eq_true.1 List.all_takeWhile)

theorem scanRadix_lexeme (radix : Radix) (mark cs : List Char) :
    scanRadix radix mark (cs.takeWhile isWordChar) = (scanRadix radix mark cs).alone := by
  simp only [scanRadix_eq, Scanned.alone, takeWhile_takeWhile_self, dropWhile_takeWhile_self]

theorem scanDecimal_lexeme {cs : List Char} (h : (scanDecimal cs).kind.isLast = false) :
    scanDecimal (scanDecimal cs).lexeme = (scanDecimal cs).alone := by
  have hpoint : Char.isDigit '.' = false := by decide
  revert h
  simp only [scanDecimal]
  split
  case h_1 rest hrest =>
    split
    · intro h
      cases h
    case isFalse hdecimals =>
      intro _
      simp only [takeWhile_append_stop hpoint, dropWhile_append_stop hpoint,
        takeWhile_takeWhile_self, dropWhile_takeWhile_self, List.nil_append]
      rw [if_neg hdecimals]
      rfl
  case h_2 =>
    intro _
    simp only [takeWhile_takeWhile_self, dropWhile_takeWhile_self]
    rfl

/-- The characters of a decimal number do not look like a number with a base. -/
theorem scanNumber_of_decimal {cs : List Char}
    (h : ∀ mark ∈ ['x', 'X', 'b', 'B'], ∀ rest, cs ≠ '0' :: mark :: rest) :
    scanNumber cs = scanDecimal cs := by
  rw [scanNumber]
  · exact h 'x' (by decide)
  · exact h 'X' (by decide)
  · exact h 'b' (by decide)
  · exact h 'B' (by decide)

theorem scanNumber_lexeme {cs : List Char} (h : (scanNumber cs).kind.isLast = false) :
    scanNumber (scanNumber cs).lexeme = (scanNumber cs).alone := by
  revert h
  fun_cases scanNumber cs with
  | case1 cs | case2 cs | case3 cs | case4 cs =>
    intro _
    rw [lexeme_scanRadix]
    exact scanRadix_lexeme _ _ cs
  | case5 _ hx hX hb hB =>
    intro h
    rw [← scanDecimal_lexeme h]
    refine scanNumber_of_decimal fun mark hmark rest heq => ?_
    -- the lexeme is the first part of the text, which would have started with the mark
    have hcs := scanDecimal_append cs
    rw [heq] at hcs
    simp only [List.mem_cons, List.not_mem_nil, or_false] at hmark
    rcases hmark with rfl | rfl | rfl | rfl
    · exact hx _ hcs.symm
    · exact hX _ hcs.symm
    · exact hb _ hcs.symm
    · exact hB _ hcs.symm

/-- A closed text is read from the characters up to its quote. -/
theorem scanText_closed {content : List Char} {length : Nat} {taken cs : List Char}
    (h : (scanText content length taken cs).kind.isLast = false) :
    ∃ body, (scanText content length taken cs).lexeme = taken.reverse ++ body
      ∧ scanText content length taken body = (scanText content length taken cs).alone := by
  fun_induction scanText content length taken cs with
  | case1 => cases h
  | case2 => exact ⟨['"'], by simp, rfl⟩
  | case3 => cases h
  | case4 => cases h
  | case5 content length taken c cs read length' taken' hlength ih =>
    obtain ⟨body, hbody, hscan⟩ := ih h
    refine ⟨'\\' :: c :: body, by simp [hbody, taken'], ?_⟩
    simp only [scanText]
    rw [if_neg hlength]
    exact hscan
  | case6 => cases h
  | case7 content length taken c cs hquote hslash hescape length' taken' hlength ih =>
    obtain ⟨body, hbody, hscan⟩ := ih h
    have hc : c ≠ '\\' := by
      intro hc
      cases cs with
      | nil => exact hslash hc rfl
      | cons d cs => exact hescape d cs hc rfl
    refine ⟨c :: body, by simp [hbody, taken'], ?_⟩
    rw [scanText]
    · rw [if_neg hlength]
      exact hscan
    · exact hquote
    · exact fun h _ => hc h
    · exact fun _ _ h _ => hc h

/-- **The characters of a token, alone, are that token.** -/
theorem scan_lexeme {cs : List Char} (h : (scan cs).kind.isLast = false) :
    scan (scan cs).lexeme = (scan cs).alone := by
  revert h
  fun_cases scan cs
  case case1 =>
    intro h
    cases h
  case case15 cs =>
    intro h
    obtain ⟨body, hbody, hscan⟩ := scanText_closed h
    rw [hbody]
    exact hscan
  case case16 c cs _ _ _ _ _ _ _ _ _ _ _ _ _ _ hdigit =>
    intro h
    have hlexeme : ∃ tail, (scanNumber (c :: cs)).lexeme = c :: tail := by
      have happend := scanNumber_append (c :: cs)
      cases hlexeme : (scanNumber (c :: cs)).lexeme with
      | nil => exact absurd hlexeme (scanNumber_lexeme_ne_nil c cs hdigit)
      | cons d tail =>
        rw [hlexeme] at happend
        exact ⟨tail, by rw [(List.cons.inj happend).1]⟩
    obtain ⟨tail, htail⟩ := hlexeme
    rw [← scanNumber_lexeme h, htail, scan, if_pos hdigit]
    all_goals assumption
  case case17 c cs _ _ _ _ _ _ _ _ _ _ _ _ _ _ hdigit hword _ =>
    intro _
    rw [scan, if_neg hdigit, if_pos hword]
    · simp only [takeWhile_takeWhile_self, dropWhile_takeWhile_self]
      rfl
    all_goals assumption
  case case18 =>
    intro h
    cases h
  all_goals
    intro _
    rfl

/-! ## A token before a space -/

theorem stops_space : Stops ' ' := ⟨by decide, by decide⟩

/-- The characters of a token before a space are that token. -/
theorem scan_spaced {cs : List Char} (h : (scan cs).kind.isLast = false) (ds : List Char) :
    scan ((scan cs).lexeme ++ ' ' :: ds) = ⟨(scan cs).kind, (scan cs).lexeme, ' ' :: ds⟩ := by
  have halone := scan_lexeme h
  have hkind : (scan (scan cs).lexeme).kind.isLast = false := by
    rw [halone]
    exact h
  rw [scan_before stops_space ds hkind, halone]
  rfl

end Token

namespace Cursor

/-- Where a token stands that no further character can make a comment there is nothing to skip. -/
theorem skipTrivia_of_token {cs : List Char} (h : (Token.scan cs).kind.isLast = false)
    (hrest : ∀ c ∈ (Token.scan cs).rest.head?, c ≠ '/' ∧ c ≠ '*') (offset : Nat) :
    skipTrivia offset cs = ⟨offset, cs⟩ := by
  unfold skipTrivia
  split
  -- a blank or a `#` is a fault, and a comment would be a `/` with its second character behind it
  case h_7 => rfl
  case h_5 => exact absurd rfl (hrest '/' rfl).1
  case h_6 => exact absurd rfl (hrest '*' rfl).2
  all_goals cases h

theorem tokens_of_next {a b : Cursor} (h : a.next = b.next) : a.tokens = b.tokens := by
  rw [tokens.eq_def a, tokens.eq_def b, h]

theorem tokens_space (offset : Nat) (cs : List Char) :
    tokens ⟨offset, ' ' :: cs⟩ = tokens ⟨offset + 1, cs⟩ :=
  tokens_of_next rfl

theorem tokens_ne_nil (cursor : Cursor) : cursor.tokens ≠ [] := by
  rw [tokens]
  split <;> simp

end Cursor

/-- What a token is, without its place. -/
def Token.unplaced (t : Token) : TokenKind × String := (t.kind, t.lexeme)

/-- The lexemes of tokens with single spaces between them. -/
def spaced (tokens : List Token) : String := String.intercalate " " (tokens.map (·.lexeme))

/-- The last token is the end of the source, and no fault. -/
def endsFaultless (tokens : List Token) : Bool := tokens.getLast?.any (·.kind = .finish)

namespace Cursor

/-- One token of the spaced text: it is the token as it was, and the space is left. -/
theorem next_spaced {cursor : Cursor} (h : cursor.next.1.kind.isLast = false) (offset : Nat)
    (ds : List Char) :
    ∃ span stop, next ⟨offset, cursor.next.1.lexeme.toList ++ ' ' :: ds⟩
      = (⟨cursor.next.1.kind, cursor.next.1.lexeme, span⟩, ⟨stop, ' ' :: ds⟩) := by
  rw [next_eq_readAt cursor] at h ⊢
  generalize skipTrivia cursor.offset cursor.rest = start at h ⊢
  have hscan := Token.scan_spaced h ds
  have hlexeme : start.readAt.1.lexeme.toList = (Token.scan start.rest).lexeme :=
    String.toList_ofList
  have hskip := skipTrivia_of_token (by rw [hscan]; exact h) (by rw [hscan]; simp) offset
  rw [hlexeme, next_eq_readAt, hskip, readAt, hscan]
  exact ⟨_, _, rfl⟩

/-- **The spaced text has the same tokens.** -/
theorem tokens_spaced {cursor : Cursor} (h : endsFaultless cursor.tokens = true) (offset : Nat) :
    (tokens ⟨offset, (spaced cursor.tokens).toList⟩).map Token.unplaced
      = cursor.tokens.map Token.unplaced := by
  fun_induction tokens cursor generalizing offset with
  | case1 cursor hlast =>
    have hkind : cursor.next.1.kind = .finish := by simpa [endsFaultless] using h
    have hlexeme : cursor.next.1.lexeme = "" := by
      have hrest := Token.eq_nil_of_scan_finish hkind
      rw [next_eq_readAt, readAt, hrest]
      rfl
    have hspaced : spaced [cursor.next.1] = "" := by
      rw [spaced, List.map_singleton, String.intercalate_singleton, hlexeme]
    rw [hspaced, tokens_of_last rfl]
    simp only [List.map_singleton, Token.unplaced, hkind, hlexeme]
    rfl
  | case2 cursor hlast ih =>
    have hmore := Bool.eq_false_iff.2 hlast
    have hne := cursor.next.2.tokens_ne_nil
    have hrest : endsFaultless cursor.next.2.tokens = true := by
      rw [endsFaultless, List.getLast?_cons_of_ne_nil hne] at h
      exact h
    have hspaced : (spaced (cursor.next.1 :: cursor.next.2.tokens)).toList
        = cursor.next.1.lexeme.toList ++ ' ' :: (spaced cursor.next.2.tokens).toList := by
      rw [spaced, List.map_cons, String.intercalate_cons_of_ne_nil (by simpa using hne)]
      simp [spaced]
    obtain ⟨span, stop, hnext⟩ :=
      next_spaced hmore offset (spaced cursor.next.2.tokens).toList
    rw [hspaced, tokens_of_more (by rw [hnext]; exact hmore), hnext, tokens_space, List.map_cons,
      List.map_cons, ih hrest]
    rfl

end Cursor

/-- **Layout does not matter to tokens.** -/
theorem tokenize_spaced {source : String} (h : endsFaultless (tokenize source) = true) :
    (tokenize (spaced (tokenize source))).map Token.unplaced
      = (tokenize source).map Token.unplaced :=
  Cursor.tokens_spaced h 0

end Calculator
