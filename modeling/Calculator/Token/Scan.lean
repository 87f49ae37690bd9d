import Calculator.Builtin
import Calculator.Token.Literal

/-!
# Reading tokens (specification 4.1)

A `Cursor` is a place in a source text together with the text from there on. `Cursor.next`
(`next_token`) skips what stands between tokens, reads one token and gives the cursor behind it;
going back (`seek`) is keeping the old cursor. `tokenize` reads a whole source, up to its end or its
first fault.

A token and what follows it are the text it was read from (`scan_append`), every token but the end
of the source takes at least one character (`next_rest_lt`), and a cursor's offset grows by the
bytes it passes (`skipTrivia_spec`).
-/

namespace Calculator

namespace Token

/-! ## One token -/

/-- A name: of a function, or else of a variable. -/
def nameKind (name : String) : TokenKind :=
  if Builtin.isName name then .function name else .identifier name

/-- The token at the head of a list of characters. -/
def scan : List Char → Scanned
  | [] => ⟨.finish, [], []⟩
  | '\n' :: cs => ⟨.newline, ['\n'], cs⟩
  | '+' :: cs => ⟨.plus, ['+'], cs⟩
  | '-' :: cs => ⟨.minus, ['-'], cs⟩
  | '*' :: cs => ⟨.star, ['*'], cs⟩
  | '/' :: cs => ⟨.slash, ['/'], cs⟩
  | '%' :: cs => ⟨.percent, ['%'], cs⟩
  | '!' :: cs => ⟨.bang, ['!'], cs⟩
  | '^' :: cs => ⟨.caret, ['^'], cs⟩
  | '(' :: cs => ⟨.opening, ['('], cs⟩
  | ')' :: cs => ⟨.closing, [')'], cs⟩
  | ',' :: cs => ⟨.comma, [','], cs⟩
  | ';' :: cs => ⟨.semicolon, [';'], cs⟩
  | '=' :: cs => ⟨.equal, ['='], cs⟩
  | '"' :: cs => scanText [] 0 ['"'] cs
  | c :: cs =>
    if c.isDigit then scanNumber (c :: cs)
    else if isWordStart c then
      let word := c :: cs.takeWhile isWordChar
      ⟨nameKind (String.ofList word), word, cs.dropWhile isWordChar⟩
    else ⟨.fault (.unknownCharacter c), [c], cs⟩

/-- Nothing is lost. -/
theorem scan_append (cs : List Char) : (scan cs).lexeme ++ (scan cs).rest = cs := by
  unfold scan
  split
  case h_15 => exact scanText_append _ _ _ _
  case h_16 =>
    split
    · exact scanNumber_append _
    · split
      · simp [List.takeWhile_append_dropWhile]
      · rfl
  all_goals rfl

/-- Only at the end of the text is there nothing to take. -/
theorem scan_lexeme_ne_nil (c : Char) (cs : List Char) : (scan (c :: cs)).lexeme ≠ [] := by
  unfold scan
  split
  case h_1 => contradiction
  case h_15 => exact scanText_lexeme_ne_nil _ _ _ _ (by simp)
  case h_16 hcs =>
    injection hcs with hc hcs
    subst hc hcs
    split
    · exact scanNumber_lexeme_ne_nil _ _ (by assumption)
    · split <;> simp
  all_goals simp

theorem scan_rest_lt (c : Char) (cs : List Char) :
    (scan (c :: cs)).rest.length < (c :: cs).length := by
  have happend := congrArg List.length (scan_append (c :: cs))
  have hlexeme := List.length_pos_iff.2 (scan_lexeme_ne_nil c cs)
  rw [List.length_append] at happend
  omega

end Token

/-! ## Cursors -/

/-- A place in a source text, in bytes from its start, and the text from there on. -/
structure Cursor where
  offset : Nat
  rest : List Char
deriving DecidableEq

namespace Cursor

/-- The start of a source text. -/
def ofSource (source : String) : Cursor := ⟨0, source.toList⟩

/-- The cursor before the next newline, or at the end of the text. -/
def skipLine (offset : Nat) (cs : List Char) : Cursor :=
  ⟨offset + byteLength (cs.takeWhile (· ≠ '\n')), cs.dropWhile (· ≠ '\n')⟩

mutual

/-- Skips spaces, tabs, carriage returns and comments. A comment from `#` or `//` goes up to the
newline, which separates statements and stays; one from `/*` goes through the first `*/`. -/
def skipTrivia (offset : Nat) : List Char → Cursor
  | ' ' :: cs | '\t' :: cs | '\r' :: cs => skipTrivia (offset + 1) cs
  | '#' :: cs => skipLine (offset + 1) cs
  | '/' :: '/' :: cs => skipLine (offset + 2) cs
  | '/' :: '*' :: cs => skipBlock (offset + 2) cs
  | cs => ⟨offset, cs⟩

/-- Skips the rest of a comment that ends at `*/`, and what may be skipped after it. -/
def skipBlock (offset : Nat) : List Char → Cursor
  | [] => ⟨offset, []⟩
  | '*' :: '/' :: cs => skipTrivia (offset + 2) cs
  | c :: cs => skipBlock (offset + c.utf8Size) cs

end

/-- The token at the cursor, and the cursor behind it. The end of the source takes no characters;
its span is the byte where the next one would be. -/
def next (cursor : Cursor) : Token × Cursor :=
  let start := skipTrivia cursor.offset cursor.rest
  let scanned := Token.scan start.rest
  let stop := start.offset + byteLength scanned.lexeme
  let span := if scanned.lexeme.isEmpty then .single start.offset else ⟨start.offset, stop⟩
  (⟨scanned.kind, String.ofList scanned.lexeme, span⟩, ⟨stop, scanned.rest⟩)

/-! ## What is passed over -/

/-- The cursor stands behind `passed` when it is reached from `offset` at the start of `cs`. -/
def Passes (offset : Nat) (cs passed : List Char) (cursor : Cursor) : Prop :=
  cs = passed ++ cursor.rest ∧ cursor.offset = offset + byteLength passed

theorem Passes.cons {offset : Nat} {cs passed : List Char} {cursor : Cursor} (c : Char)
    (h : Passes (offset + c.utf8Size) cs passed cursor) :
    Passes offset (c :: cs) (c :: passed) cursor := by
  refine ⟨by rw [h.1, List.cons_append], ?_⟩
  rw [h.2, byteLength, Nat.add_assoc]

theorem skipLine_spec (offset : Nat) (cs : List Char) :
    ∃ passed, Passes offset cs passed (skipLine offset cs) :=
  ⟨_, List.takeWhile_append_dropWhile.symm, rfl⟩

mutual

/-- Skipping passes over a first part of the text, and counts its bytes. -/
theorem skipTrivia_spec (offset : Nat) (cs : List Char) :
    ∃ passed, Passes offset cs passed (skipTrivia offset cs) := by
  unfold skipTrivia
  split
  · obtain ⟨_, h⟩ := skipTrivia_spec (offset + 1) _
    exact ⟨_, h.cons ' '⟩
  · obtain ⟨_, h⟩ := skipTrivia_spec (offset + 1) _
    exact ⟨_, h.cons '\t'⟩
  · obtain ⟨_, h⟩ := skipTrivia_spec (offset + 1) _
    exact ⟨_, h.cons '\r'⟩
  · obtain ⟨_, h⟩ := skipLine_spec (offset + 1) _
    exact ⟨_, h.cons '#'⟩
  · obtain ⟨_, h⟩ := skipLine_spec (offset + 2) _
    exact ⟨_, Passes.cons '/' (h.cons '/')⟩
  · obtain ⟨_, h⟩ := skipBlock_spec (offset + 2) _
    exact ⟨_, Passes.cons '/' (h.cons '*')⟩
  · exact ⟨[], rfl, rfl⟩

theorem skipBlock_spec (offset : Nat) (cs : List Char) :
    ∃ passed, Passes offset cs passed (skipBlock offset cs) := by
  unfold skipBlock
  split
  · exact ⟨[], rfl, rfl⟩
  · obtain ⟨_, h⟩ := skipTrivia_spec (offset + 2) _
    exact ⟨_, Passes.cons '*' (h.cons '/')⟩
  · obtain ⟨_, h⟩ := skipBlock_spec _ _
    exact ⟨_, h.cons _⟩

end

/-- A token other than the end of the source takes at least one character. -/
theorem next_rest_lt (cursor : Cursor) (h : cursor.next.1.kind.isLast = false) :
    cursor.next.2.rest.length < cursor.rest.length := by
  obtain ⟨passed, hpassed, _⟩ := skipTrivia_spec cursor.offset cursor.rest
  have hlength := congrArg List.length hpassed
  rw [List.length_append] at hlength
  simp only [next] at h ⊢
  generalize (skipTrivia cursor.offset cursor.rest).rest = cs at h hlength ⊢
  cases cs with
  | nil => cases h
  | cons c cs =>
    have := Token.scan_rest_lt c cs
    omega

/-! ## All tokens -/

/-- The tokens from a cursor on, the last of them the end of the source or a fault. -/
def tokens (cursor : Cursor) : List Token :=
  if _ : cursor.next.1.kind.isLast then [cursor.next.1]
  else cursor.next.1 :: tokens cursor.next.2
termination_by cursor.rest.length
decreasing_by exact next_rest_lt cursor (by simp_all)

end Cursor

/-- The tokens of a source text. -/
def tokenize (source : String) : List Token := (Cursor.ofSource source).tokens

end Calculator
