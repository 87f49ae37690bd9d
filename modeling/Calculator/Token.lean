import Calculator.Fault
import Calculator.Number
import Calculator.Text.Quoted

/-!
# Tokens (specification 3)

The words of a program, each with its text and its place in the source. A piece of text that is no
word of the language is a token too: it carries the cause of the fault and is the last token of a
program, as is the end of the source.
-/

namespace Calculator

/-- What a token is. -/
inductive TokenKind where
  | number (value : Number)
  | text (content : String)
  /-- A name that no function has. -/
  | identifier (name : String)
  /-- The name of a built-in function. -/
  | function (name : String)
  | plus
  | minus
  | star
  | slash
  | percent
  | bang
  | caret
  | opening
  | closing
  | comma
  | semicolon
  | equal
  | newline
  /-- No word of the language. -/
  | fault (cause : Cause)
  /-- The end of the source. -/
  | finish
deriving DecidableEq, Inhabited

namespace TokenKind

def name : TokenKind → String
  | .number _ => "NUMBER"
  | .text _ => "STRING"
  | .identifier _ => "IDENTIFIER"
  | .function _ => "FUNCTION"
  | .plus => "PLUS"
  | .minus => "MINUS"
  | .star => "MULTIPLY"
  | .slash => "DIVIDE"
  | .percent => "MODULO"
  | .bang => "FACTORIAL"
  | .caret => "POWER"
  | .opening => "LPAREN"
  | .closing => "RPAREN"
  | .comma => "COMMA"
  | .semicolon => "SEMICOLON"
  | .equal => "ASSIGN"
  | .newline => "NEWLINE"
  | .fault _ => "ERROR"
  | .finish => "EOF"

/-- The kinds after which a program goes no further. -/
def isLast : TokenKind → Bool
  | .fault _ | .finish => true
  | _ => false

/-- The kinds that separate statements. -/
def isSeparator : TokenKind → Bool
  | .semicolon | .newline => true
  | _ => false

end TokenKind

/-- A token of a source text. -/
structure Token where
  kind : TokenKind
  lexeme : String
  span : Span
deriving DecidableEq, Inhabited

/-- The text with spaces after it up to `width` characters. -/
def padEnd (width : Nat) (text : String) : String :=
  text ++ String.ofList (List.replicate (width - text.length) ' ')

/-- A token on a line: kind, quoted text and place, then what is wrong with it, if anything. -/
def Token.describe (language : Language) (token : Token) : String :=
  let place := s!" {token.span.start}..{token.span.stop}"
  let line := padEnd 11 token.kind.name ++ " " ++ padEnd 16 (Text.quoted token.lexeme) ++ place
  match token.kind with
  | .fault cause => line ++ "  " ++ cause.text language
  | _ => line

end Calculator
