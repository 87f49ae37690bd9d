import Calculator.Text.Bounded
import Calculator.Token

/-!
# Literals (specification 4.1)

Numbers and texts at the head of a list of characters. Each scan gives the kind of the token, its
characters and the characters after it; put together again these are the list (`scanNumber_append`,
`scanText_append`).

Numbers are accumulated digit by digit in binary64 arithmetic, so a long literal is rounded as it is
read.
-/

namespace Calculator.Token

/-- A token at the head of a list of characters: its kind, its characters and those after it. -/
structure Scanned where
  kind : TokenKind
  lexeme : List Char
  rest : List Char

/-- The characters of names, and of all that sticks to a number with a base. -/
def isWordChar (c : Char) : Bool := c.isAlphanum || c == '_'

/-- The characters that a name starts with. -/
def isWordStart (c : Char) : Bool := c.isAlpha || c == '_'

/-- The value of a decimal digit. -/
def digitValue (c : Char) : Nat := c.toNat - '0'.toNat

/-- The number that digits denote in a base, rounded after each of them. -/
def accumulate (base : Nat) (digits : List Nat) : Number :=
  digits.foldl (fun value digit => value * .ofNat base + .ofNat digit) 0

/-! ## Decimal numbers -/

/-- A fraction as it is read: the digits so far as an integer, the power of ten they stand over, and
how many of them count. -/
structure Fraction where
  digits : Number := 0
  scale : Number := 1
  significant : Nat := 0

/-- The digits of a fraction that count, from the first that is not zero. -/
def maxSignificant : Nat := 17

/-- Reads one more digit; once enough digits count, the others change nothing. -/
def Fraction.read (fraction : Fraction) (digit : Nat) : Fraction :=
  if fraction.significant = maxSignificant then fraction
  else
    let digits := fraction.digits * 10 + .ofNat digit
    { digits
      scale := fraction.scale * 10
      significant := if 0 < digits then fraction.significant + 1 else fraction.significant }

/-- The value of the digits after a point. -/
def fractionValue (digits : List Nat) : Number :=
  let fraction := digits.foldl Fraction.read {}
  fraction.digits / fraction.scale

/-- A decimal number at the head of `cs`, which starts with a digit. A point has to be followed by a
digit. -/
def scanDecimal (cs : List Char) : Scanned :=
  let digits := cs.takeWhile Char.isDigit
  let whole := accumulate 10 (digits.map digitValue)
  match cs.dropWhile Char.isDigit with
  | '.' :: rest =>
    let decimals := rest.takeWhile Char.isDigit
    if decimals.isEmpty then ⟨.fault .invalidNumber, digits ++ ['.'], rest⟩
    else
      ⟨.number (whole + fractionValue (decimals.map digitValue)), digits ++ '.' :: decimals,
        rest.dropWhile Char.isDigit⟩
  | rest => ⟨.number whole, digits, rest⟩

end Calculator.Token

namespace Calculator

/-! ## Numbers with a base -/

def Radix.base : Radix → Nat
  | .hexadecimal => 16
  | .binary => 2

/-- The value of a digit of the base. -/
def Radix.digit? (radix : Radix) (c : Char) : Option Nat :=
  let value :=
    if c.isDigit then c.toNat - '0'.toNat
    else if 'a' ≤ c ∧ c ≤ 'f' then c.toNat - 'a'.toNat + 10
    else if 'A' ≤ c ∧ c ≤ 'F' then c.toNat - 'A'.toNat + 10
    else 16
  if value < radix.base then some value else none

end Calculator

namespace Calculator.Token

/-- Digits of a base as they are read: the number that they come to, rounded after each of them, and
the position behind them. -/
structure Digits where
  value : Number := 0
  stop : Nat := 0

/-- Reads on as long as there is a digit of the base. -/
def readDigits (radix : Radix) (digits : Digits) : List Char → Digits
  | [] => digits
  | c :: cs =>
    match radix.digit? c with
    | some digit =>
      readDigits radix ⟨digits.value * .ofNat radix.base + .ofNat digit, digits.stop + 1⟩ cs
    | none => digits

/-- Passes on from a position as long as there is a word character. -/
def passWord (position : Nat) : List Char → Nat
  | [] => position
  | c :: cs => if isWordChar c then passWord (position + 1) cs else position

/-- A number with a base; `cs` is what follows the mark of the base. The digits are read first, and
then all word characters that stick to them. Where the digits stop tells if there are any, and if
they are all there is. -/
def scanRadix (radix : Radix) (mark cs : List Char) : Scanned :=
  let digits := readDigits radix {} cs
  let stop := passWord digits.stop (cs.drop digits.stop)
  let text := cs.take stop
  let kind : TokenKind := match digits.stop == 0, digits.stop == stop with
    | false, true => .number digits.value
    | true, _ => .fault (.noDigits radix (String.ofList text))
    | false, false => .fault (.foreignDigits radix (String.ofList text))
  ⟨kind, mark ++ text, cs.drop stop⟩

/-- A number at the head of `cs`, which starts with a digit. -/
def scanNumber : List Char → Scanned
  | '0' :: 'x' :: cs => scanRadix .hexadecimal ['0', 'x'] cs
  | '0' :: 'X' :: cs => scanRadix .hexadecimal ['0', 'X'] cs
  | '0' :: 'b' :: cs => scanRadix .binary ['0', 'b'] cs
  | '0' :: 'B' :: cs => scanRadix .binary ['0', 'B'] cs
  | cs => scanDecimal cs

theorem scanDecimal_append (cs : List Char) :
    (scanDecimal cs).lexeme ++ (scanDecimal cs).rest = cs := by
  have hd := List.takeWhile_append_dropWhile (p := Char.isDigit) (l := cs)
  simp only [scanDecimal]
  split
  · rename_i rest hr
    rw [hr] at hd
    split
    · simpa using hd
    · simpa [List.takeWhile_append_dropWhile] using hd
  · exact hd

theorem scanRadix_append (radix : Radix) (mark cs : List Char) :
    (scanRadix radix mark cs).lexeme ++ (scanRadix radix mark cs).rest = mark ++ cs := by
  simp [scanRadix, List.take_append_drop]

/-- Nothing is lost. -/
theorem scanNumber_append (cs : List Char) :
    (scanNumber cs).lexeme ++ (scanNumber cs).rest = cs := by
  unfold scanNumber
  split
  · exact scanRadix_append _ _ _
  · exact scanRadix_append _ _ _
  · exact scanRadix_append _ _ _
  · exact scanRadix_append _ _ _
  · exact scanDecimal_append _

/-- A number takes at least its first digit. -/
theorem scanNumber_lexeme_ne_nil (c : Char) (cs : List Char) (h : c.isDigit = true) :
    (scanNumber (c :: cs)).lexeme ≠ [] := by
  unfold scanNumber
  split
  · simp [scanRadix]
  · simp [scanRadix]
  · simp [scanRadix]
  · simp [scanRadix]
  · simp only [scanDecimal]
    split
    · split <;> simp
    · simp [h]

/-! ## Texts -/

/-- A character behind a backslash, when `content` has been read and `length` counted. A character
without a meaning of its own stays, and so does the backslash, which is then counted too. The
character itself is counted by the caller. -/
def unescape (content : List Char) (length : Nat) : Char → List Char × Nat
  | 'n' => ('\n' :: content, length)
  | 't' => ('\t' :: content, length)
  | 'r' => ('\r' :: content, length)
  | '"' => ('"' :: content, length)
  | '\\' => ('\\' :: content, length)
  | c => (c :: '\\' :: content, length + 1)

/-- A text; `cs` is what has still to be read, `taken` what was read, from the opening quote on, and
`content` what that stands for, both last character first. The characters are counted in `length`
as they come, and a text that grows too long ends the token on the spot. -/
def scanText (content : List Char) (length : Nat) (taken : List Char) : List Char → Scanned
  | [] => ⟨.fault (.unfinishedText (String.ofList content.reverse)), taken.reverse, []⟩
  | '"' :: cs => ⟨.text (String.ofList content.reverse), ('"' :: taken).reverse, cs⟩
  | ['\\'] =>
    ⟨.fault (.unfinishedText (String.ofList content.reverse)), ('\\' :: taken).reverse, []⟩
  | '\\' :: c :: cs =>
    let read := unescape content length c
    let length := read.2 + 1
    let taken := c :: '\\' :: taken
    if Text.maxLength < length then
      ⟨.fault (.textTooLong Text.maxLength), taken.reverse, cs⟩
    else scanText read.1 length taken cs
  | c :: cs =>
    let length := length + 1
    let taken := c :: taken
    if Text.maxLength < length then
      ⟨.fault (.textTooLong Text.maxLength), taken.reverse, cs⟩
    else scanText (c :: content) length taken cs

/-- Nothing is lost. -/
theorem scanText_append (content : List Char) (length : Nat) (taken cs : List Char) :
    (scanText content length taken cs).lexeme ++ (scanText content length taken cs).rest
      = taken.reverse ++ cs := by
  fun_induction scanText content length taken cs with
  | case1 => rfl
  | case2 => simp
  | case3 => simp
  | case4 => simp +zetaDelta
  | case5 _ _ _ _ _ _ _ _ _ ih => rw [ih]; simp +zetaDelta
  | case6 => simp +zetaDelta
  | case7 _ _ _ _ _ _ _ _ _ _ _ ih => rw [ih]; simp +zetaDelta

/-- A text keeps at least what was taken before. -/
theorem scanText_lexeme_ne_nil (content : List Char) (length : Nat) (taken cs : List Char)
    (h : taken ≠ []) : (scanText content length taken cs).lexeme ≠ [] := by
  fun_induction scanText content length taken cs with
  | case1 => simpa using h
  | case2 => simp
  | case3 => simp
  | case4 => simp +zetaDelta
  | case5 _ _ _ _ _ _ _ _ _ ih => exact ih (by simp +zetaDelta)
  | case6 => simp +zetaDelta
  | case7 _ _ _ _ _ _ _ _ _ _ _ ih => exact ih (by simp +zetaDelta)

end Calculator.Token
