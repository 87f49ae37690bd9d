import Calculator.Proofs.Token.Join
import Calculator.Proofs.Token.Lexed

/-!
# Tokens with words in them

Messages are put into words where they arise (specification 7). Elsewhere in this library a fault is
a cause, and the words come last; here the front end is written down once more with words from the
start. A lexer has a language. What is no word of the program becomes a token that holds the message
in this language, and the cause is lost.

* `Localized.Lexer.next`: the token at the lexer's cursor, and the lexer behind it.
* `Localized.Lexer.next_eq`: it is the token of the cursor with its cause put into words.
-/

namespace Calculator

namespace Localized

/-- What a token is. -/
inductive Kind where
  | number (value : Number)
  | text (content : String)
  | identifier (name : String)
  | function (name : String)
  | plus
  | minus
  | star
  | slash
  | percent
  | bang
  | caret
  | opening
  | closing
  | comma
  | semicolon
  | equal
  | newline
  /-- No word of the language, and what is wrong with it. -/
  | error (message : String)
  | finish
deriving DecidableEq

/-- The kinds after which a program goes no further. -/
def Kind.isLast : Kind → Bool
  | .finish | .error _ => true
  | _ => false

/-- The kinds that separate statements. -/
def Kind.isSeparator : Kind → Bool
  | .semicolon | .newline => true
  | _ => false

/-- A token of a source text. -/
structure Token where
  kind : Kind
  lexeme : String
  span : Span
deriving DecidableEq

/-- A token at the head of a list of characters: its kind, its characters and those after it. -/
structure Scanned where
  kind : Kind
  lexeme : List Char
  rest : List Char

end Localized

/-! ## Putting a token into words -/

/-- A cause becomes its message, and nothing else is changed. -/
def TokenKind.localize (language : Language) : TokenKind → Localized.Kind
  | .number value => .number value
  | .text content => .text content
  | .identifier name => .identifier name
  | .function name => .function name
  | .plus => .plus
  | .minus => .minus
  | .star => .star
  | .slash => .slash
  | .percent => .percent
  | .bang => .bang
  | .caret => .caret
  | .opening => .opening
  | .closing => .closing
  | .comma => .comma
  | .semicolon => .semicolon
  | .equal => .equal
  | .newline => .newline
  | .fault cause => .error (cause.text language)
  | .finish => .finish

@[simp]
theorem TokenKind.isLast_localize (language : Language) (kind : TokenKind) :
    (kind.localize language).isLast = kind.isLast := by
  cases kind <;> rfl

@[simp]
theorem TokenKind.isSeparator_localize (language : Language) (kind : TokenKind) :
    (kind.localize language).isSeparator = kind.isSeparator := by
  cases kind <;> rfl

/-- Only a cause is put into words: kinds that have none stay apart. -/
theorem TokenKind.localize_eq_iff (language : Language) {kind other : TokenKind}
    (h : ∀ cause, other ≠ .fault cause) :
    kind.localize language = other.localize language ↔ kind = other := by
  refine ⟨fun heq => ?_, fun heq => heq ▸ rfl⟩
  cases other <;> cases kind <;> first | rfl | simp_all [localize]

/-- A token with its kind in words. -/
def Token.localize (language : Language) (token : Token) : Localized.Token :=
  ⟨token.kind.localize language, token.lexeme, token.span⟩

/-- What was scanned, with its kind in words. -/
def Token.Scanned.localize (language : Language) (scanned : Scanned) : Localized.Scanned :=
  ⟨scanned.kind.localize language, scanned.lexeme, scanned.rest⟩

namespace Localized

open Calculator.Token (accumulate digitValue fractionValue isWordChar isWordStart readDigits
  passWord unescape)

/-! ## Reading a token in a language -/

section

variable (language : Language)

/-- A message of the lexer, in its language. -/
def failure (message : Cause) : Kind := .error (message.text language)

/-- A decimal number at the head of `cs`, which starts with a digit. -/
def scanDecimal (cs : List Char) : Scanned :=
  let digits := cs.takeWhile Char.isDigit
  let whole := accumulate 10 (digits.map digitValue)
  match cs.dropWhile Char.isDigit with
  | '.' :: rest =>
    let decimals := rest.takeWhile Char.isDigit
    if decimals.isEmpty then ⟨failure language .invalidNumber, digits ++ ['.'], rest⟩
    else
      ⟨.number (whole + fractionValue (decimals.map digitValue)), digits ++ '.' :: decimals,
        rest.dropWhile Char.isDigit⟩
  | rest => ⟨.number whole, digits, rest⟩

/-- A number with a base; `cs` is what follows the mark of the base. -/
def scanRadix (radix : Radix) (mark cs : List Char) : Scanned :=
  let digits := readDigits radix {} cs
  let stop := passWord digits.stop (cs.drop digits.stop)
  let text := cs.take stop
  let kind : Kind := match digits.stop == 0, digits.stop == stop with
    | false, true => .number digits.value
    | true, _ => failure language (.noDigits radix (String.ofList text))
    | false, false => failure language (.foreignDigits radix (String.ofList text))
  ⟨kind, mark ++ text, cs.drop stop⟩

/-- A number at the head of `cs`, which starts with a digit. -/
def scanNumber : List Char → Scanned
  | '0' :: 'x' :: cs => scanRadix language .hexadecimal ['0', 'x'] cs
  | '0' :: 'X' :: cs => scanRadix language .hexadecimal ['0', 'X'] cs
  | '0' :: 'b' :: cs => scanRadix language .binary ['0', 'b'] cs
  | '0' :: 'B' :: cs => scanRadix language .binary ['0', 'B'] cs
  | cs => scanDecimal language cs

/-- A text, of which `taken` has been read, `content` understood and `length` counted. -/
def scanText (content : List Char) (length : Nat) (taken : List Char) : List Char → Scanned
  | [] => ⟨failure language (.unfinishedText (String.ofList content.reverse)), taken.reverse, []⟩
  | '"' :: cs => ⟨.text (String.ofList content.reverse), ('"' :: taken).reverse, cs⟩
  | ['\\'] =>
    ⟨failure language (.unfinishedText (String.ofList content.reverse)),
      ('\\' :: taken).reverse, []⟩
  | '\\' :: c :: cs =>
    let read := unescape content length c
    let length := read.2 + 1
    let taken := c :: '\\' :: taken
    if Text.maxLength < length then
      ⟨failure language (.textTooLong Text.maxLength), taken.reverse, cs⟩
    else scanText read.1 length taken cs
  | c :: cs =>
    let length := length + 1
    let taken := c :: taken
    if Text.maxLength < length then
      ⟨failure language (.textTooLong Text.maxLength), taken.reverse, cs⟩
    else scanText (c :: content) length taken cs

/-- A name: of a function, or else of a variable. -/
def nameKind (name : String) : Kind :=
  if Builtin.isName name then .function name else .identifier name

/-- The token at the head of a list of characters. -/
def scan : List Char → Scanned
  | [] => ⟨.finish, [], []⟩
  | '\n' :: cs => ⟨.newline, ['\n'], cs⟩
  | '+' :: cs => ⟨.plus, ['+'], cs⟩
  | '-' :: cs => ⟨.minus, ['-'], cs⟩
  | '*' :: cs => ⟨.star, ['*'], cs⟩
  | '/' :: cs => ⟨.slash, ['/'], cs⟩
  | '%' :: cs => ⟨.percent, ['%'], cs⟩
  | '!' :: cs => ⟨.bang, ['!'], cs⟩
  | '^' :: cs => ⟨.caret, ['^'], cs⟩
  | '(' :: cs => ⟨.opening, ['('], cs⟩
  | ')' :: cs => ⟨.closing, [')'], cs⟩
  | ',' :: cs => ⟨.comma, [','], cs⟩
  | ';' :: cs => ⟨.semicolon, [';'], cs⟩
  | '=' :: cs => ⟨.equal, ['='], cs⟩
  | '"' :: cs => scanText language [] 0 ['"'] cs
  | c :: cs =>
    if c.isDigit then scanNumber language (c :: cs)
    else if isWordStart c then
      let word := c :: cs.takeWhile isWordChar
      ⟨nameKind (String.ofList word), word, cs.dropWhile isWordChar⟩
    else ⟨failure language (.unknownCharacter c), [c], cs⟩

end

/-- A place in a source text and the language of what is wrong with it. -/
structure Lexer where
  language : Language
  cursor : Cursor

namespace Lexer

/-- Goes to another place. -/
def seek (lexer : Lexer) (cursor : Cursor) : Lexer := { lexer with cursor }

/-- The token at the lexer's place, and the lexer behind it. -/
def next (lexer : Lexer) : Token × Lexer :=
  let start := Cursor.skipTrivia lexer.cursor.offset lexer.cursor.rest
  let scanned := scan lexer.language start.rest
  let stop := start.offset + byteLength scanned.lexeme
  let span := if scanned.lexeme.isEmpty then .single start.offset else ⟨start.offset, stop⟩
  (⟨scanned.kind, String.ofList scanned.lexeme, span⟩, lexer.seek ⟨stop, scanned.rest⟩)

end Lexer

/-! ## The same tokens in words -/

section

variable (language : Language)

theorem scanDecimal_eq (cs : List Char) :
    scanDecimal language cs = (Calculator.Token.scanDecimal cs).localize language := by
  fun_cases Calculator.Token.scanDecimal cs with
  | case1 _ _ hrest _ h =>
    simp only [scanDecimal, hrest]
    exact if_pos h
  | case2 _ _ _ hrest _ h =>
    simp only [scanDecimal, hrest]
    exact if_neg h
  | case3 _ _ hrest =>
    unfold scanDecimal
    split
    · exact absurd (by assumption) (hrest _)
    · rfl

/-- Which of the three kinds it is, is decided by the same two comparisons. -/
theorem scanRadix_eq (radix : Radix) (mark cs : List Char) :
    scanRadix language radix mark cs
      = (Calculator.Token.scanRadix radix mark cs).localize language := by
  unfold scanRadix Calculator.Token.scanRadix
  generalize readDigits radix {} cs = digits
  dsimp only
  cases digits.stop == 0 with
  | true => rfl
  | false => cases digits.stop == passWord digits.stop (cs.drop digits.stop) <;> rfl

theorem scanNumber_eq (cs : List Char) :
    scanNumber language cs = (Calculator.Token.scanNumber cs).localize language := by
  fun_cases Calculator.Token.scanNumber cs
  case case5 =>
    rw [scanNumber]
    · exact scanDecimal_eq language cs
    all_goals assumption
  all_goals exact scanRadix_eq language _ _ _

/-- By induction along the text, in the cases of the scanner without a language. -/
theorem scanText_eq (content : List Char) (length : Nat) (taken cs : List Char) :
    scanText language content length taken cs
      = (Calculator.Token.scanText content length taken cs).localize language := by
  fun_induction Calculator.Token.scanText content length taken cs with
  | case1 => rfl
  | case2 => rfl
  | case3 => rfl
  | case4 _ _ _ _ _ _ _ _ h => exact if_pos h
  | case5 _ _ _ _ _ _ _ _ h ih => exact (if_neg h).trans ih
  | case6 _ _ _ _ _ _ _ _ _ _ h =>
    rw [scanText, if_pos h]
    · rfl
    all_goals assumption
  | case7 _ _ _ _ _ _ _ _ _ _ h ih =>
    rw [scanText, if_neg h]
    · exact ih
    all_goals assumption

theorem nameKind_eq (name : String) :
    nameKind name = (Calculator.Token.nameKind name).localize language := by
  unfold nameKind Calculator.Token.nameKind
  split <;> rfl

/-- Only what can fail takes the language; every other token is read as it is. -/
theorem scan_eq (cs : List Char) :
    scan language cs = (Calculator.Token.scan cs).localize language := by
  fun_cases Calculator.Token.scan cs
  case case15 => exact scanText_eq language _ _ _ _
  case case16 h =>
    rw [scan, if_pos h, scanNumber_eq]
    all_goals assumption
  case case17 h hword _ =>
    rw [scan, if_neg h, if_pos hword]
    · simp only [nameKind_eq language]
      rfl
    all_goals assumption
  case case18 h hword =>
    rw [scan, if_neg h, if_neg hword]
    · rfl
    all_goals assumption
  all_goals rfl

end

/-- The lexer that stands at a cursor reads the token of the cursor, in words. -/
theorem Lexer.next_eq (language : Language) (cursor : Cursor) :
    next ⟨language, cursor⟩ = (cursor.next.1.localize language, ⟨language, cursor.next.2⟩) := by
  simp only [next, scan_eq]
  rfl

end Localized

end Calculator
