import Calculator.Diagnostic
import Calculator.Line

/-!
# Scripts (specification 10.4)

Whole scripts, script files and one-line programs. Every line of a script is answered as if it had
been typed; a line that fails does not stop the script, an `exit` does.
-/

namespace Calculator

/-- A line of a script that failed. -/
structure LineFailure where
  /-- Counted from one. -/
  number : Nat
  source : String
  notice : Notice
deriving DecidableEq

/-- How a script went. -/
structure ScriptRun where
  failures : List LineFailure
  /-- A line asked to exit. -/
  exited : Bool
deriving DecidableEq

/-- How a file or a one-line program went. -/
structure RunResult where
  succeeded : Bool
  exited : Bool
deriving DecidableEq

/-- What a path leads to. -/
inductive FileContent where
  | missing
  | unreadable (reason : String)
  | text (text : String)
deriving DecidableEq

namespace FileContent

/-- The reason why a directory cannot be read. -/
def directory : FileContent := .unreadable "Is a directory (os error 21)"

/-- The reason why bytes cannot be read as text. -/
def notText : String := "stream did not contain valid UTF-8"

/-- The content of a file that holds some bytes. -/
def ofBytes (bytes : ByteArray) : FileContent :=
  match String.fromUTF8? bytes with
  | some content => .text content
  | none => .unreadable notText

end FileContent

namespace Session

/-! ## Reports -/

/-- Shows a notice about a source text with a name. -/
def report (options : Options) (notice : Notice) (name source : String) (session : Session) :
    Session :=
  if options.plainErrors then
    session.mapConsole (·.warn (notice.line session.language ++ "\n"))
  else session.mapConsole (·.print (Diagnostic.draw session.language notice name source))

/-- Reports that a file cannot be run. -/
def warnFile (phrase : Phrase) (session : Session) : Session :=
  let language := session.language
  session.mapConsole
    (·.warn (Phrase.errorLabel.text language ++ ": " ++ phrase.text language ++ "\n"))

/-! ## Scripts -/

/-- A line that a script need not answer: blank, or nothing but a comment. -/
def isIdle (line : String) : Bool :=
  match line.toList with
  | [] | '#' :: _ | '/' :: '/' :: _ => true
  | _ => false

/-- Runs the lines of a script from line `number` on. -/
def runLines (options : Options) (number : Nat) : List String → Session → ScriptRun × Session
  | [], session => (⟨[], false⟩, session)
  | line :: rest, session =>
    let source := Text.trim line
    if isIdle source then runLines options (number + 1) rest session
    else
      match answer options source session with
      | (.nothing, session) => runLines options (number + 1) rest session
      | (.text text, session) =>
        runLines options (number + 1) rest (session.mapConsole (·.writeLine text))
      | (.exit goodbye, session) => (⟨[], true⟩, session.mapConsole (·.writeLine goodbye))
      | (.failure notice, session) =>
        let (run, session) := runLines options (number + 1) rest session
        ({ run with failures := ⟨number, source, notice⟩ :: run.failures }, session)

/-- Runs a script. -/
def runScript (options : Options) (source : String) (session : Session) : ScriptRun × Session :=
  runLines options 1 (Text.lines source) session

/-- Reports a failed line of the script file at `path`. -/
def reportLine (options : Options) (path : String) (session : Session) (failure : LineFailure) :
    Session :=
  if options.plainErrors then
    let language := session.language
    let message := failure.notice.line language
    session.mapConsole (·.warn ((Phrase.atLine failure.number message).text language ++ "\n"))
  else session.report options failure.notice s!"{path}:{failure.number}" failure.source

/-- Runs the script file at `path`, and then reports the lines that failed. -/
def runFile (options : Options) (path : String) (content : FileContent) (session : Session) :
    RunResult × Session :=
  match content with
  | .missing => (⟨false, false⟩, session.warnFile (.missingFile path))
  | .unreadable reason => (⟨false, false⟩, session.warnFile (.unreadableFile path reason))
  | .text source =>
    let (run, session) := session.runScript options source
    (⟨run.failures.isEmpty, run.exited⟩, run.failures.foldl (reportLine options path) session)

/-! ## One-line programs -/

/-- The name of a program given on the command line. -/
def inlineName : String := "<eval>"

/-- Answers one line, and writes the answer to the console. -/
def runInline (options : Options) (source : String) (session : Session) : RunResult × Session :=
  match answer options source session with
  | (.nothing, session) => (⟨true, false⟩, session)
  | (.text text, session) => (⟨true, false⟩, session.mapConsole (·.writeLine text))
  | (.exit goodbye, session) => (⟨true, true⟩, session.mapConsole (·.writeLine goodbye))
  | (.failure notice, session) =>
    (⟨false, false⟩, session.report options notice inlineName (Text.trim source))

end Session

end Calculator
