import Calculator.Manual
import Calculator.Session

/-!
# Lines (specification 10.4)

One line of input to a session: a command, or else a program.

    exit, quit            ends the dialogue
    help                  the overview
    help <page or name>   a page of the reference, or the entry of a function
    vars                  the variables
    reset                 forgets them
    clear                 clears the screen
    set lang <name>       changes the language

A command is recognised by its words, whatever blanks stand between them.
-/

namespace Calculator

/-- How programs are run and how faults are shown. -/
structure Options where
  /-- A fault takes one line instead of a drawing. -/
  plainErrors : Bool := false
  /-- Write the tokens of a program before running it. -/
  dumpTokens : Bool := false
  /-- Write the tree of a program before running it. -/
  dumpTree : Bool := false
deriving DecidableEq, Inhabited

/-- The answer to a line. -/
inductive Reply where
  | nothing
  | text (text : String)
  | failure (notice : Notice)
  | exit (goodbye : String)
deriving DecidableEq

namespace Session

/-- Reads and evaluates a program, after writing its tokens and its tree if asked to. -/
def execute (options : Options) (source : String) : Action Evaluation := do
  if options.dumpTokens then
    for token in tokenize source do
      modify fun session => session.mapConsole (·.print (token.describe session.language ++ "\n"))
  let program ← parseAction source
  if options.dumpTree then
    modify fun session => session.mapConsole (·.print program.dump)
  program.evaluate

/-- The variables, newest first, and how many they are. -/
def listVariables (session : Session) : String :=
  if session.bindings.isEmpty then Phrase.noVariables.text session.language
  else
    let line : String × Value → String := fun (name, value) => s!"  {name} = {session.render value}"
    paragraph (Phrase.variablesHeader.text session.language
      :: session.bindings.newestFirst.map line
      ++ [(Phrase.variablesTotal session.bindings.size).text session.language])

end Session

/-- The largest number that is read as a page: the greatest of 64 bits. -/
def maxPage : Nat := 18446744073709551615

/-- A page number: decimal digits, with a plus sign before them or not. -/
def pageNumber? (text : String) : Option Nat :=
  let digits := match text.toList with
    | '+' :: cs => cs
    | cs => cs
  if digits.isEmpty || !digits.all Char.isDigit then none
  else
    let number := digits.foldl (fun value c => value * 10 + Token.digitValue c) 0
    if number ≤ maxPage then some number else none

/-- The help on a topic: the number of a page or the name of a function. -/
def helpOn (language : Language) (topic : String) : String :=
  match pageNumber? topic with
  | some number =>
    match Manual.page language number with
    | .ok text => text
    | .error phrase => phrase.text language
  | none => (Manual.entry language topic).getD ((Phrase.noSuchTopic topic).text language)

namespace Session

/-- Runs a line as a program. -/
def runLine (options : Options) (source : String) (session : Session) : Reply × Session :=
  match execute options source session with
  | .ok evaluation session =>
    match evaluation.shown? with
    | some value => (.text (session.render value), session)
    | none => (.nothing, session)
  | .error fault session => (.failure (fault.notice session.language), session)

/-- Answers one line of input. -/
def answer (options : Options) (line : String) (session : Session) : Reply × Session :=
  let language := session.language
  let say (phrase : Phrase) : Reply := .text (phrase.text language)
  match Text.words line with
  | [] => (.nothing, session)
  | ["exit"] | ["quit"] => (.exit (Phrase.goodbye.text language), session)
  | ["help"] => (.text (Manual.overview language), session)
  | ["help", topic] => (.text (helpOn language topic), session)
  | ["vars"] => (.text session.listVariables, session)
  | ["reset"] => (say .stateReset, session.reset)
  | ["clear"] => (.nothing, session.mapConsole Console.clearScreen)
  | ["set", "lang", name] =>
    match Language.ofName? name with
    | some chosen =>
      (.text ((Phrase.languageChanged chosen).text chosen), session.setLanguage chosen)
    | none => (say (.unsupportedLanguage name), session)
  | _ => runLine options (Text.trim line) session

end Session

end Calculator
