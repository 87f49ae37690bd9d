import Calculator.Expr.Parse
import Calculator.Proofs.Token.Digits
import Calculator.Proofs.Token.Loops

/-!
# What tokens carry

`TokenKind.Lexed` says what can be relied on of a token that was read from a source text, and
`next_lexed` that it holds of each of them: numbers are not NaN, names are words, the name of a
function is in the table of built-in functions and that of a variable is not, a text is no longer
than a text value, and what is no word of the language has a lexical cause.
-/

namespace Calculator

namespace Token

/-- A letter or underscore, then letters, digits and underscores. -/
def IsWord (name : String) : Prop :=
  ∃ c cs, name.toList = c :: cs ∧ isWordStart c = true ∧ ∀ d ∈ cs, isWordChar d = true

end Token

/-- What holds of a token that was read from a source text. -/
def TokenKind.Lexed : TokenKind → Prop
  | .number n => n.isNaN = false
  | .text content => content.length ≤ Text.maxLength
  | .identifier name => Token.IsWord name ∧ Builtin.isName name = false
  | .function name => Builtin.isName name = true
  | .fault cause => cause.kind = .lexical
  | _ => True

namespace Token

theorem nameKind_lexed {name : String} (h : IsWord name) : (nameKind name).Lexed := by
  unfold nameKind
  split
  · assumption
  · exact ⟨h, by simp_all⟩

theorem word_isWord {c : Char} (cs : List Char) (hc : isWordStart c = true) :
    IsWord (String.ofList (c :: cs.takeWhile isWordChar)) := by
  refine ⟨c, cs.takeWhile isWordChar, by simp, hc, fun d hd => ?_⟩
  exact List.all_eq_true.1 List.all_takeWhile d hd

/-- As long as the count is the length of what was collected, the bound on the one holds of the
other. -/
theorem scanText_lexed (content : List Char) (length : Nat) (taken cs : List Char)
    (hcount : content.length = length) (h : length ≤ Text.maxLength) :
    (scanText content length taken cs).kind.Lexed := by
  fun_induction scanText content length taken cs with
  | case1 => rfl
  | case2 => simpa [TokenKind.Lexed, hcount] using h
  | case3 => rfl
  | case4 => rfl
  | case5 _ _ _ c _ _ _ _ hlength ih =>
    exact ih (length_unescape hcount c) (Nat.le_of_not_lt hlength)
  | case6 => rfl
  | case7 _ _ _ _ _ _ _ _ _ _ hlength ih =>
    exact ih (congrArg Nat.succ hcount) (Nat.le_of_not_lt hlength)

theorem scanRadix_lexed (radix : Radix) (mark cs : List Char) :
    (scanRadix radix mark cs).kind.Lexed := by
  simp only [scanRadix_eq, Radix.kindOf]
  split
  case h_1 => rfl
  case h_2 values _ hvalues => exact isNaN_radix hvalues
  case h_3 => rfl

theorem scanDecimal_lexed (cs : List Char) : (scanDecimal cs).kind.Lexed := by
  simp only [scanDecimal]
  split
  · split
    · rfl
    · exact isNaN_withFraction _ _
  · exact isNaN_decimal _

theorem scanNumber_lexed (cs : List Char) : (scanNumber cs).kind.Lexed := by
  unfold scanNumber
  split
  · exact scanRadix_lexed _ _ _
  · exact scanRadix_lexed _ _ _
  · exact scanRadix_lexed _ _ _
  · exact scanRadix_lexed _ _ _
  · exact scanDecimal_lexed _

theorem scan_lexed (cs : List Char) : (scan cs).kind.Lexed := by
  unfold scan
  split
  case h_15 => exact scanText_lexed _ _ _ _ rfl (Nat.zero_le _)
  case h_16 =>
    split
    · exact scanNumber_lexed _
    · split
      · exact nameKind_lexed (word_isWord _ (by assumption))
      · rfl
  all_goals trivial

end Token

theorem Cursor.next_lexed (cursor : Cursor) : cursor.next.1.kind.Lexed := Token.scan_lexed _

/-- The current token of a parser was read from its source. -/
theorem Parser.current_lexed (p : Parser) : p.current.kind.Lexed := by
  have h := p.start.next_lexed
  rw [p.scanned] at h
  exact h

end Calculator
