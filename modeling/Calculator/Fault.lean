import Calculator.Arity
import Calculator.Language
import Calculator.Span

/-!
# Faults (specification 7)

What can be wrong with a program. A `Fault` is a cause at a place in the source, sometimes with a
piece of advice; its kind is a function of the cause. Words come last: a fault is worded in the
language of the moment it arises, which gives a `Notice` (`RudisError`, with kind, span, message and
help).
-/

namespace Calculator

/-- The base of an integer literal that names its base. -/
inductive Radix where
  | hexadecimal
  | binary
deriving DecidableEq

/-- The families of faults. -/
inductive FaultKind where
  /-- Malformed numbers and texts, stray characters. -/
  | lexical
  /-- Violations of the grammar, wrong numbers of arguments among them. -/
  | grammatical
  /-- Undefined variables and unknown functions. -/
  | naming
  /-- Operands of the wrong type and operations without a result. -/
  | domain
  /-- Limits that the calculator does not exceed. -/
  | resource
deriving DecidableEq

/-- What is wrong. -/
inductive Cause where
  -- tokens
  | invalidNumber
  | noDigits (radix : Radix) (text : String)
  | foreignDigits (radix : Radix) (text : String)
  | unknownCharacter (character : Char)
  | unfinishedText (content : String)
  | textTooLong (limit : Nat)
  -- grammar
  | unexpectedToken (lexeme : String)
  | unexpectedEnd
  | missingClosing
  | missingOpeningAfter (function : String)
  | missingClosingAfterArguments (function : String)
  | invalidExpression
  | incompleteExpression
  | wrongArgumentCount (function : String) (arity : Arity)
  | missingArguments (function : String)
  | nestedTooDeeply (limit : Nat)
  -- names
  | unknownFunction (name : String)
  | undefinedVariable (name : String)
  -- values
  | divisionByZero
  | moduloByZero
  | operandsNotNumbers
  | operandNotNumber
  | noFactorial
  | undefinedOperation (symbol : Char)
  | argumentsNotNumbers (function : String)
  | undefinedResult (function : String)
  | placesOutOfRange
  | widthNotNumber (function : String)
  | repeatedNotText
  | repeatCountNotNumber
deriving DecidableEq

/-- A hint on how to mend a fault. -/
inductive Advice where
  | assignmentForm
  | matchingParentheses
deriving DecidableEq

def Cause.kind : Cause → FaultKind
  | .invalidNumber | .noDigits .. | .foreignDigits .. | .unknownCharacter _ | .unfinishedText _
  | .textTooLong _ => .lexical
  | .unexpectedToken _ | .unexpectedEnd | .missingClosing | .missingOpeningAfter _
  | .missingClosingAfterArguments _ | .invalidExpression | .incompleteExpression
  | .wrongArgumentCount .. | .missingArguments _ => .grammatical
  | .nestedTooDeeply _ => .resource
  | .unknownFunction _ | .undefinedVariable _ => .naming
  | .divisionByZero | .moduloByZero | .operandsNotNumbers | .operandNotNumber | .noFactorial
  | .undefinedOperation _ | .argumentsNotNumbers _ | .undefinedResult _ | .placesOutOfRange
  | .widthNotNumber _ | .repeatedNotText | .repeatCountNotNumber => .domain

/-- Something wrong at a place in the source. -/
structure Fault where
  cause : Cause
  span : Span
  advice : Option Advice := none
deriving DecidableEq

/-- A fault put into words. -/
structure Notice where
  kind : FaultKind
  span : Span
  message : String
  advice : Option String
deriving DecidableEq

/-! ## Wording -/

/-- The ending of an English or Portuguese noun that is counted. -/
def plural (count : Nat) : String := if count = 1 then "" else "s"

/-- The name of a family of faults. -/
def FaultKind.title (language : Language) : FaultKind → String
  | .lexical => language.pick "Lexical error" "Erro léxico"
  | .grammatical => language.pick "Syntax error" "Erro de sintaxe"
  | .naming => language.pick "Name error" "Erro de nome"
  | .domain => language.pick "Math error" "Erro matemático"
  | .resource => language.pick "Resource error" "Erro de recurso"

def Cause.text (language : Language) : Cause → String
  | .invalidNumber => language.pick "Invalid number" "Número inválido"
  | .noDigits .hexadecimal text => language.pick
      s!"Invalid hexadecimal number: 0x{text} (no digits after 0x)"
      s!"Número hexadecimal inválido: 0x{text} (sem dígitos após 0x)"
  | .foreignDigits .hexadecimal text => language.pick
      s!"Invalid hexadecimal number: 0x{text} (invalid characters)"
      s!"Número hexadecimal inválido: 0x{text} (caracteres inválidos)"
  | .noDigits .binary text => language.pick
      s!"Invalid binary number: 0b{text} (no digits after 0b)"
      s!"Número binário inválido: 0b{text} (sem dígitos após 0b)"
  | .foreignDigits .binary text => language.pick
      s!"Invalid binary number: 0b{text} (only 0 and 1 are allowed)"
      s!"Número binário inválido: 0b{text} (apenas 0 e 1 são permitidos)"
  | .unknownCharacter character => language.pick
      s!"Unknown character: {character}"
      s!"Caractere não reconhecido: {character}"
  | .unfinishedText content => language.pick
      s!"Unfinished string: \"{content}"
      s!"String não terminada: \"{content}"
  | .textTooLong limit => language.pick
      s!"String too long (maximum {limit} characters)"
      s!"String muito longa (máximo {limit} caracteres)"
  | .unexpectedToken lexeme => language.pick
      s!"Unexpected token '{lexeme}'"
      s!"Token inesperado '{lexeme}'"
  | .unexpectedEnd => language.pick "Unexpected end of input" "Fim inesperado da entrada"
  | .missingClosing => language.pick "Expected ')'" "Esperado ')'"
  | .missingOpeningAfter function => language.pick
      s!"Expected '(' after function name '{function}'"
      s!"Esperado '(' após o nome da função '{function}'"
  | .missingClosingAfterArguments function => language.pick
      s!"Expected ')' after arguments of '{function}'"
      s!"Esperado ')' após os argumentos de '{function}'"
  | .invalidExpression => language.pick "Invalid expression" "Expressão inválida"
  | .incompleteExpression => language.pick
      "Incomplete or invalid expression"
      "Expressão incompleta ou inválida"
  | .wrongArgumentCount function (.exactly count) =>
    let ending := plural count
    language.pick
      s!"Function {function} requires exactly {count} argument{ending}"
      s!"Função {function} requer exatamente {count} argumento{ending}"
  | .wrongArgumentCount function (.atLeast count) =>
    let ending := plural count
    language.pick
      s!"Function {function} requires at least {count} argument{ending}"
      s!"Função {function} requer pelo menos {count} argumento{ending}"
  | .missingArguments function => language.pick
      s!"Function without arguments: {function}"
      s!"Função sem argumentos: {function}"
  | .nestedTooDeeply limit => language.pick
      s!"Expression nested too deeply (limit is {limit} levels)"
      s!"Expressão aninhada demais (limite de {limit} níveis)"
  | .unknownFunction name => language.pick
      s!"Unknown function: {name}"
      s!"Função desconhecida: {name}"
  | .undefinedVariable name => language.pick
      s!"Variable not defined: {name}"
      s!"Variável não definida: {name}"
  | .divisionByZero => language.pick "Division by zero" "Divisão por zero"
  | .moduloByZero => language.pick "Modulo by zero" "Módulo por zero"
  | .operandsNotNumbers => language.pick
      "Arithmetic operations require numbers"
      "Operações aritméticas requerem números"
  | .operandNotNumber => language.pick
      "Unary operations require numbers"
      "Operações unárias requerem números"
  | .noFactorial => language.pick
      "Factorial requires a non-negative integer"
      "Fatorial requer um inteiro não negativo"
  | .undefinedOperation symbol => language.pick
      s!"Math error in operator {symbol}"
      s!"Erro matemático no operador {symbol}"
  | .argumentsNotNumbers function => language.pick
      s!"Function {function} requires numeric arguments"
      s!"Função {function} requer argumentos numéricos"
  | .undefinedResult function => language.pick
      s!"Math error in function {function}"
      s!"Erro matemático na função {function}"
  | .placesOutOfRange => language.pick
      "setdec: number of places must be between 0 and 15"
      "setdec: o número de casas deve estar entre 0 e 15"
  | .widthNotNumber function => language.pick
      s!"{function}: width must be a number"
      s!"{function}: a largura deve ser um número"
  | .repeatedNotText => language.pick
      "repeat: first argument must be a string"
      "repeat: o primeiro argumento deve ser uma string"
  | .repeatCountNotNumber => language.pick
      "repeat: second argument must be a number"
      "repeat: o segundo argumento deve ser um número"

def Advice.text (language : Language) : Advice → String
  | .assignmentForm => language.pick
      "Assignments take the form name = expression, e.g. x = 10"
      "Atribuições têm a forma nome = expressão, por exemplo x = 10"
  | .matchingParentheses => language.pick
      "Every opening parenthesis '(' needs a matching ')'"
      "Todo '(' precisa de um ')' correspondente"

def Fault.kind (fault : Fault) : FaultKind := fault.cause.kind

/-- A fault in the words of a language. -/
def Fault.notice (language : Language) (fault : Fault) : Notice where
  kind := fault.kind
  span := fault.span
  message := fault.cause.text language
  advice := fault.advice.map (·.text language)

end Calculator
