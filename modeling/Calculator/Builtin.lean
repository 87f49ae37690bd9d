import Calculator.Arity
import Calculator.Formula.Elementary
import Calculator.Formula.Finance
import Calculator.Language
import Calculator.Layout
import Calculator.Style

/-!
# Built-in functions (specification 6)

The table of the functions that a program can call. An entry says what the function does (its
`Task`), and the task fixes how many arguments it takes. Portuguese names are aliases: they stand
for an entry under another name. Every text style is a function of one argument.

`Builtin.find?` (`lookup` in the registry) looks a name up among the functions, then the aliases,
then the styles. A name that is found there is never a variable.
-/

namespace Calculator

/-- A numeric function by the shape of its argument list. -/
inductive Formula where
  | unary (f : Number → Number)
  | ternary (f : Number → Number → Number → Number)
  | quaternary (f : Number → Number → Number → Number → Number)
  /-- All arguments alike, at least `least` of them. -/
  | series (least : Nat) (f : List Number → Number)
  /-- One argument that leads all others, at least `least` in all. -/
  | headed (least : Nat) (f : Number → List Number → Number)

namespace Formula

def arity : Formula → Arity
  | .unary _ => .exactly 1
  | .ternary _ => .exactly 3
  | .quaternary _ => .exactly 4
  | .series least _ => .atLeast least
  | .headed least _ => .atLeast least

/-- The value at a list of arguments; NaN at one of the wrong length. -/
def value : Formula → List Number → Number
  | .unary f, [a] => f a
  | .ternary f, [a, b, c] => f a b c
  | .quaternary f, [a, b, c, d] => f a b c d
  | .series _ f, xs => f xs
  | .headed _ f, x :: xs => f x xs
  | _, _ => .nan

end Formula

/-- What a built-in function does. -/
inductive Task where
  /-- Computes a number from numbers. -/
  | compute (formula : Formula)
  /-- Sets the decimal places that results show. -/
  | setPlaces
  /-- Writes its arguments on a line. -/
  | print
  /-- Clears the screen. -/
  | clear
  /-- Pads a text to a width. -/
  | align (alignment : Alignment)
  /-- Repeats the first character of a text. -/
  | repeatFirst
  /-- Sets a text in a style. -/
  | style (style : Style)

namespace Task

def arity : Task → Arity
  | .compute formula => formula.arity
  | .setPlaces => .exactly 1
  | .print => .atLeast 0
  | .clear => .exactly 0
  | .align _ => .exactly 2
  | .repeatFirst => .exactly 2
  | .style _ => .exactly 1

/-- The functions that may be called without arguments. -/
def needsNoArguments : Task → Bool
  | .print | .clear => true
  | _ => false

end Task

/-- The families of functions. -/
inductive Category where
  | math
  | statistics
  | finance
  | settings
  | console
  | style
  | layout
deriving DecidableEq

namespace Category

/-- In the order of the overview. -/
def all : List Category := [math, statistics, finance, settings, console, style, layout]

def title (language : Language) : Category → String
  | .math => language.pick "Math" "Matemática"
  | .statistics => language.pick "Statistics" "Estatística"
  | .finance => language.pick "Finance" "Finanças"
  | .settings => language.pick "Settings" "Configuração"
  | .console => language.pick "Console" "Console"
  | .style => language.pick "Text style" "Estilo de texto"
  | .layout => language.pick "Layout" "Alinhamento"

end Category

/-- An entry of the table. -/
structure Builtin where
  name : String
  /-- The function that an alias stands for. -/
  aliasOf : Option String
  task : Task
  category : Category
  english : String
  portuguese : String

namespace Builtin

open Formula

/-- The functions under their own names. -/
def functions : List Builtin :=
  [⟨"sqrt", none, .compute (.unary squareRoot), .math, "square root", "raiz quadrada"⟩,
   ⟨"sin", none, .compute (.unary Number.sin), .math, "sine (radians)", "seno (radianos)"⟩,
   ⟨"cos", none, .compute (.unary Number.cos), .math, "cosine (radians)", "cosseno (radianos)"⟩,
   ⟨"tan", none, .compute (.unary Number.tan), .math, "tangent (radians)", "tangente (radianos)"⟩,
   ⟨"log", none, .compute (.unary commonLogarithm), .math,
    "base-10 logarithm", "logaritmo na base 10"⟩,
   ⟨"ln", none, .compute (.unary naturalLogarithm), .math, "natural logarithm",
      "logaritmo natural"⟩,
   ⟨"exp", none, .compute (.unary Number.exp), .math, "e raised to x", "e elevado a x"⟩,
   ⟨"abs", none, .compute (.unary Number.abs), .math, "absolute value", "valor absoluto"⟩,
   ⟨"mean", none, .compute (.series 1 mean), .statistics, "arithmetic mean", "média aritmética"⟩,
   ⟨"median", none, .compute (.series 1 median), .statistics, "median", "mediana"⟩,
   ⟨"std", none, .compute (.series 1 standardDeviation), .statistics,
    "sample standard deviation", "desvio padrão amostral"⟩,
   ⟨"variance", none, .compute (.series 1 variance), .statistics,
    "sample variance", "variância amostral"⟩,
   ⟨"mode", none, .compute (.series 1 mode), .statistics,
    "most frequent value", "valor mais frequente"⟩,
   ⟨"sum", none, .compute (.series 1 sum), .statistics, "sum of the values", "soma dos valores"⟩,
   ⟨"min", none, .compute (.series 1 least), .statistics, "smallest value", "menor valor"⟩,
   ⟨"max", none, .compute (.series 1 greatest), .statistics, "largest value", "maior valor"⟩,
   ⟨"pv", none, .compute (.ternary presentValue), .finance,
    "present value: pv(rate, nper, pmt)", "valor presente: vp(taxa, periodos, pagamento)"⟩,
   ⟨"fv", none, .compute (.ternary futureValue), .finance,
    "future value: fv(rate, nper, pmt)", "valor futuro: vf(taxa, periodos, pagamento)"⟩,
   ⟨"pmt", none, .compute (.ternary payment), .finance,
    "payment: pmt(rate, nper, pv)", "pagamento: pagamento(taxa, periodos, vp)"⟩,
   ⟨"nper", none, .compute (.ternary periods), .finance,
    "number of periods: nper(rate, pmt, pv)", "número de períodos: periodos(taxa, pagamento, vp)"⟩,
   ⟨"rate", none, .compute (.quaternary rate), .finance,
    "rate per period: rate(nper, pmt, pv, fv), fixed 5% estimate",
    "taxa por período: taxa(periodos, pagamento, vp, vf), estimativa fixa de 5%"⟩,
   ⟨"npv", none, .compute (.headed 2 netPresentValue), .finance,
    "net present value: npv(rate, cf0, cf1, ...)",
    "valor presente líquido: vpl(taxa, fc0, fc1, ...)"⟩,
   ⟨"irr", none, .compute (.series 2 internalRate), .finance,
    "internal rate of return: irr(cf0, cf1, ...)", "taxa interna de retorno: tir(fc0, fc1, ...)"⟩,
   ⟨"si", none, .compute (.ternary simpleInterest), .finance,
    "simple interest: si(principal, rate, time)", "juros simples: js(capital, taxa, tempo)"⟩,
   ⟨"fv_si", none, .compute (.ternary simpleAmount), .finance,
    "simple-interest amount: fv_si(principal, rate, time)",
    "montante com juros simples: montante_js(capital, taxa, tempo)"⟩,
   ⟨"ci", none, .compute (.ternary compoundInterest), .finance,
    "compound interest: ci(principal, rate, time)", "juros compostos: jc(capital, taxa, tempo)"⟩,
   ⟨"fv_ci", none, .compute (.ternary compoundAmount), .finance,
    "compound-interest amount: fv_ci(principal, rate, time)",
    "montante com juros compostos: montante_jc(capital, taxa, tempo)"⟩,
   ⟨"setdec", none, .setPlaces, .settings,
    "set displayed decimal places (0 to 15)", "define as casas decimais exibidas (0 a 15)"⟩,
   ⟨"print", none, .print, .console,
    "print values separated by spaces", "imprime valores separados por espaços"⟩,
   ⟨"clear", none, .clear, .console, "clear the screen", "limpa a tela"⟩,
   ⟨"left", none, .align .left, .layout,
    "left(width, text): pad on the right", "left(largura, texto): completa à direita"⟩,
   ⟨"center", none, .align .center, .layout,
    "center(width, text): pad on both sides", "center(largura, texto): centraliza"⟩,
   ⟨"right", none, .align .right, .layout,
    "right(width, text): pad on the left", "right(largura, texto): completa à esquerda"⟩,
   ⟨"repeat", none, .repeatFirst, .layout,
    "repeat(text, count): repeat the first character",
    "repeat(texto, vezes): repete o primeiro caractere"⟩]

/-- The Portuguese names, each with the function it stands for. -/
def aliases : List (String × String) :=
  [("raiz", "sqrt"), ("sen", "sin"), ("log10", "log"), ("media", "mean"), ("mediana", "median"),
   ("desvio", "std"), ("variancia", "variance"), ("moda", "mode"), ("soma", "sum"),
   ("minimo", "min"), ("maximo", "max"), ("vp", "pv"), ("vf", "fv"), ("pagamento", "pmt"),
   ("periodos", "nper"), ("taxa", "rate"), ("vpl", "npv"), ("tir", "irr"), ("js", "si"),
   ("montante_js", "fv_si"), ("jc", "ci"), ("montante_jc", "fv_ci")]

def arity (builtin : Builtin) : Arity := builtin.task.arity

/-- The name of the function itself, also of an alias. -/
def canonical (builtin : Builtin) : String := builtin.aliasOf.getD builtin.name

/-- What the function is for, in a few words. -/
def summary (language : Language) (builtin : Builtin) : String :=
  language.pick builtin.english builtin.portuguese

def ofStyle (style : Style) : Builtin :=
  ⟨style.name, none, .style style, .style, "ANSI text style", "estilo de texto ANSI"⟩

def findFunction? (name : String) : Option Builtin := functions.find? (·.name == name)

/-- The entry of the function that an alias stands for, under the name of the alias. -/
def findAlias? (name : String) : Option Builtin := do
  let target ← aliases.lookup name
  let function ← findFunction? target
  return { function with name := name, aliasOf := some function.name }

/-- The entry of a name. -/
def find? (name : String) : Option Builtin :=
  findFunction? name <|> findAlias? name <|> (Style.find? name).map ofStyle

/-- Whether a name calls a function. -/
def isName (name : String) : Bool := (find? name).isSome

/-- Every entry: functions, aliases, styles. -/
def all : List Builtin :=
  functions ++ aliases.filterMap (fun (name, _) => find? name) ++ Style.all.map ofStyle

end Builtin

end Calculator
