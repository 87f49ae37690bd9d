import Calculator.Arity
import Calculator.Fault
import Calculator.Language

/-!
# Phrases (specification 6)

The message catalog apart from the messages of faults: greetings, answers to commands, help.
-/

namespace Calculator

inductive Phrase where
  -- faults as they are reported
  | errorLabel
  | helpLabel
  | atLine (line : Nat) (message : String)
  | unreadableInput (reason : String)
  | missingFile (path : String)
  | unreadableFile (path reason : String)
  | noLineEditor (reason : String)
  -- the dialogue
  | banner (version system : String)
  | instructions
  | goodbye
  | variablesHeader
  | noVariables
  | variablesTotal (count : Nat)
  | languageChanged (language : Language)
  | unsupportedLanguage (name : String)
  | stateReset
  -- help
  | commands
  | functionsHeader
  | examples
  | functionHint
  | noSuchTopic (topic : String)
  | operatorsHeader
  | operators
  | page (number total : Nat)
  | noSuchPage (number total : Nat)
  | pageHint
  | aliasOf (function : String)
  | arity (arity : Arity)
deriving DecidableEq

/-- Lines as one text. -/
def paragraph (lines : List String) : String := String.intercalate "\n" lines

def Phrase.text (language : Language) : Phrase → String
  | .errorLabel => language.pick "Error" "Erro"
  | .helpLabel => language.pick "help" "ajuda"
  | .atLine line message => language.pick s!"line {line}: {message}" s!"linha {line}: {message}"
  | .unreadableInput reason => language.pick
      s!"Error reading input: {reason}"
      s!"Erro ao ler a entrada: {reason}"
  | .missingFile path => language.pick
      s!"File '{path}' not found"
      s!"Arquivo '{path}' não encontrado"
  | .unreadableFile path reason => language.pick
      s!"Could not read file '{path}': {reason}"
      s!"Não foi possível ler o arquivo '{path}': {reason}"
  | .noLineEditor reason => language.pick
      s!"Failed to initialize line editor: {reason}"
      s!"Falha ao iniciar o editor de linha: {reason}"
  | .banner version system => language.pick
      s!"Rudis version {version} on {system}"
      s!"Rudis versão {version} no {system}"
  | .instructions => language.pick
      "Type an expression. To exit type \"exit\" or \"quit\". For help, type \"help\"."
      "Digite uma expressão. Para sair digite \"exit\" ou \"quit\". Para ajuda digite \"help\"."
  | .goodbye => language.pick
      "Goodbye. Thank you for using Rudis. :)"
      "Até logo. Obrigado por usar Rudis. :)"
  | .variablesHeader => language.pick "=== DEFINED VARIABLES ===" "=== VARIÁVEIS DEFINIDAS ==="
  | .noVariables => language.pick "No variables defined." "Nenhuma variável definida."
  | .variablesTotal count =>
    let ending := plural count
    let noun := if count = 1 then "variável" else "variáveis"
    language.pick s!"Total: {count} variable{ending}" s!"Total: {count} {noun}"
  | .languageChanged .pt => language.pick
      "Language changed to Portuguese"
      "Idioma alterado para Português"
  | .languageChanged .en => language.pick
      "Language changed to English"
      "Idioma alterado para Inglês"
  | .unsupportedLanguage name => language.pick
      s!"Unsupported language '{name}'. Use \"set lang pt\" or \"set lang en\"."
      s!"Idioma não suportado '{name}'. Use \"set lang pt\" ou \"set lang en\"."
  | .stateReset => language.pick
      "State reset. All variables removed."
      "Estado resetado. Todas as variáveis removidas."
  | .commands => language.pick
      (paragraph
        ["Available commands:",
         "  exit, quit        Exit Rudis",
         "  help              Show this help",
         "  help <page>       Show one page of the function reference",
         "  help <function>   Describe a built-in function",
         "  vars              List defined variables",
         "  reset             Remove all variables and restore 6 decimal places",
         "  clear             Clear the screen",
         "  set lang pt       Mudar para Português",
         "  set lang en       Change to English"])
      (paragraph
        ["Comandos disponíveis:",
         "  exit, quit        Sair do Rudis",
         "  help              Mostrar esta ajuda",
         "  help <página>     Mostrar uma página da referência de funções",
         "  help <função>     Descrever uma função embutida",
         "  vars              Listar as variáveis definidas",
         "  reset             Remover todas as variáveis e voltar a 6 casas decimais",
         "  clear             Limpar a tela",
         "  set lang pt       Mudar para Português",
         "  set lang en       Change to English"])
  | .functionsHeader => language.pick "Built-in functions:" "Funções embutidas:"
  | .examples => language.pick
      (paragraph
        ["Examples:",
         "  2 + 3 * 4            -> 14",
         "  x = 5; x ^ 2         -> 25",
         "  5!                   -> 120",
         "  sqrt(16) + abs(-2)   -> 6",
         "  mean(1, 2, 3, 4)     -> 2.5",
         "  pmt(0.01, 12, 1000)  -> -88.85",
         "  setdec(2)            two decimal places",
         "  print(red(\"hi\"))     coloured output"])
      (paragraph
        ["Exemplos:",
         "  2 + 3 * 4            -> 14",
         "  x = 5; x ^ 2         -> 25",
         "  5!                   -> 120",
         "  raiz(16) + abs(-2)   -> 6",
         "  media(1, 2, 3, 4)    -> 2.5",
         "  pagamento(0.01, 12, 1000) -> -88.85",
         "  setdec(2)            duas casas decimais",
         "  print(red(\"oi\"))     saída colorida"])
  | .functionHint => language.pick
      "Type \"help <function>\" for details on a function."
      "Digite \"help <função>\" para detalhes de uma função."
  | .noSuchTopic topic => language.pick
      s!"No help available for '{topic}'"
      s!"Nenhuma ajuda disponível para '{topic}'"
  | .operatorsHeader => language.pick "Operators" "Operadores"
  | .operators => language.pick
      (paragraph
        ["  +   addition: a + b",
         "  -   subtraction: a - b, negation: -a",
         "  *   multiplication: a * b",
         "  /   division: a / b",
         "  %   modulo: a % b (remainder of the integer parts)",
         "  ^   power: a ^ b (groups to the right)",
         "  !   factorial: a! (non-negative integers)",
         "  =   assignment: name = expression",
         "  ;   separates statements on one line"])
      (paragraph
        ["  +   adição: a + b",
         "  -   subtração: a - b, negação: -a",
         "  *   multiplicação: a * b",
         "  /   divisão: a / b",
         "  %   módulo: a % b (resto das partes inteiras)",
         "  ^   potência: a ^ b (agrupa à direita)",
         "  !   fatorial: a! (inteiros não negativos)",
         "  =   atribuição: nome = expressão",
         "  ;   separa comandos na mesma linha"])
  | .page number total => language.pick s!"Page {number} of {total}" s!"Página {number} de {total}"
  | .noSuchPage number total => language.pick
      s!"Page {number} does not exist. Available pages: 1 to {total}"
      s!"Página {number} não existe. Páginas disponíveis: 1 a {total}"
  | .pageHint => language.pick
      "Type \"help <number>\" to navigate or \"help <function>\" for details."
      "Digite \"help <número>\" para navegar ou \"help <função>\" para detalhes."
  | .aliasOf function => language.pick s!"alias of {function}" s!"sinônimo de {function}"
  | .arity (.exactly count) =>
    let ending := plural count
    language.pick
      s!"takes exactly {count} argument{ending}"
      s!"recebe exatamente {count} argumento{ending}"
  | .arity (.atLeast count) =>
    let ending := plural count
    language.pick
      s!"takes at least {count} argument{ending}"
      s!"recebe pelo menos {count} argumento{ending}"

/-- A notice on one line, after the word for an error. -/
def Notice.line (language : Language) (notice : Notice) : String :=
  Phrase.errorLabel.text language ++ ": " ++ notice.message

end Calculator
