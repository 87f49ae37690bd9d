import Calculator.CommandLine
import Calculator.Script

/-!
# The program (specification 10.4)

A whole run of the calculator: what it does with its settings, the files it can read and the lines
of its standard input. Everything it puts out is in the console of the session it ends with.
-/

namespace Calculator

/-- The version that the calculator gives as its own. -/
def version : String := "0.1.0"

/-- The system that the calculator runs on. -/
def system : String := "linux"

def prompt : String := "rudis> "

/-- The name of what is typed in a dialogue. -/
def dialogueName : String := "<repl>"

/-- A line of standard input. -/
inductive Input where
  | line (text : String)
  /-- Bytes that are no text. -/
  | unreadable (reason : String)
deriving DecidableEq

namespace Input

/-- The line that some bytes encode. -/
def ofBytes (bytes : ByteArray) : Input :=
  match String.fromUTF8? bytes with
  | some text => .line text
  | none => .unreadable FileContent.notText

/-- The lines of standard input, each of them read up to the newline. -/
def splitBytes : List UInt8 → List (List UInt8)
  | [] => []
  | b :: bs =>
    if b = 10 then [] :: splitBytes bs
    else match splitBytes bs with
      | [] => [[b]]
      | head :: tail => (b :: head) :: tail

def ofStream (bytes : List UInt8) : List Input :=
  (splitBytes bytes).map fun segment => ofBytes ⟨segment.toArray⟩

end Input

namespace Session

def printLine (session : Session) (text : String) : Session :=
  session.mapConsole (·.print (text ++ "\n"))

/-! ## The dialogue -/

/-- Greets, and says how to get help. -/
def greet (session : Session) : Session :=
  let language := session.language
  ((session.printLine ((Phrase.banner version system).text language)).printLine
    (Phrase.instructions.text language)).printLine ""

def showPrompt (session : Session) : Session := session.mapConsole (·.print prompt)

def sayGoodbye (session : Session) : Session :=
  session.printLine (Phrase.goodbye.text session.language)

/-- Takes in a line and answers it. Says whether the dialogue goes on. -/
def hear (options : Options) (input : Input) (session : Session) : Bool × Session :=
  match input with
  | .unreadable reason =>
    let message := (Phrase.unreadableInput reason).text session.language
    (false, session.mapConsole (·.warn (message ++ "\n")))
  | .line text =>
    match session.answer options text with
    | (.nothing, session) => (true, session)
    | (.text reply, session) => (true, session.printLine reply)
    | (.failure notice, session) =>
      (true, session.report options notice dialogueName (Text.trim text))
    | (.exit goodbye, session) => (false, session.printLine goodbye)

/-- A dialogue over the lines of an input. -/
def converse (options : Options) : List Input → Session → Session
  | [], session => session.showPrompt.sayGoodbye
  | input :: rest, session =>
    match session.showPrompt.hear options input with
    | (true, session) => converse options rest session
    | (false, session) => session

end Session

namespace Program

/-- The session that a run starts with. -/
def start (settings : Settings) : Session :=
  (({} : Session).setLanguage settings.language).setPlaces settings.places

/-- What comes before any dialogue. -/
def runTask (settings : Settings) (file : String → FileContent) : RunResult × Session :=
  match settings.mode with
  | .dialogue => (⟨true, false⟩, start settings)
  | .code source => (start settings).runInline settings.options source
  | .file path => (start settings).runFile settings.options path (file path)

/-- Whether a dialogue follows. -/
def hasDialogue (settings : Settings) (result : RunResult) : Bool :=
  settings.mode = .dialogue || (settings.interactive && !result.exited)

def exitCode (result : RunResult) : Nat := if result.succeeded then 0 else 1

/-- A whole run: the exit code and the session at the end. -/
def run (settings : Settings) (file : String → FileContent) (inputs : List Input) :
    Nat × Session :=
  let (result, session) := runTask settings file
  let session :=
    if hasDialogue settings result then session.greet.converse settings.options inputs else session
  (exitCode result, session)

end Program

end Calculator
