import Calculator.Text.Unprintable

/-!
# Quoted text

A text between double quotes, on one line and in visible characters only: quote and backslash after
a backslash, five controls by their letter, other unprintable characters by their code point in
hexadecimal, everything else as it is.
-/

namespace Calculator.Text

/-- How a character stands in quoted text. -/
def quotedChar (c : Char) : List Char :=
  match c with
  | '"' => ['\\', '"']
  | '\\' => ['\\', '\\']
  | '\n' => ['\\', 'n']
  | '\r' => ['\\', 'r']
  | '\t' => ['\\', 't']
  | '\x00' => ['\\', '0']
  | c =>
    if isUnprintable c then '\\' :: 'u' :: '\x7b' :: (Nat.toDigits 16 c.toNat ++ ['\x7d']) else [c]

/-- The text in double quotes. -/
def quoted (s : String) : String :=
  String.ofList ('"' :: (s.toList.flatMap quotedChar ++ ['"']))

end Calculator.Text
