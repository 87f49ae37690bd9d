import Calculator.Program

/-!
# The command (specification 10.4)

Runs the calculator on its arguments, files and standard streams. What a run does is decided by the
pure steps of a dialogue and of a task; this module reads bytes for them and writes what they put on
the console.
-/

namespace Calculator.Command

/-- What `--help` writes. -/
def usage : String := paragraph [
  "A calculator language with math, statistics and finance functions",
  "",
  "Usage: rudis [OPTIONS] [FILE]",
  "",
  "Arguments:",
  "  [FILE]  Script to run, one program per line",
  "",
  "Options:",
  "  -e, --eval <CODE>   Evaluate CODE and print its result",
  "  -i, --interactive   Start the REPL, after FILE or CODE if given",
  "  -l, --lang <LANG>   Message language [default: pt] [possible values: pt, en]",
  "  -d, --decimals <N>  Decimal places shown for numbers",
  "      --plain-errors  Report errors as a single line",
  "      --dump-tokens   Print the token stream before evaluating",
  "      --dump-ast      Print the syntax tree before evaluating",
  "  -v, --verbose...    Log more (-v info, -vv debug, -vvv trace)",
  "  -h, --help          Print help",
  "  -V, --version       Print version"]

/-- What is said when the arguments ask for no run. -/
def reply : UsageError → String
  | .displayHelp => usage
  | .displayVersion => "rudis " ++ version
  | .unknownArgument => "error: unexpected argument found"
  | .invalidValue => "error: a value is missing or is not one of the possible values"
  | .valueValidation => "error: invalid number of decimal places"
  | .argumentConflict => "error: arguments cannot be used together or more than once"
  | .tooManyValues => "error: unexpected value for an option that takes none"

/-- Writes one piece of output. -/
def put : Output → IO Unit
  | .warn text => IO.eprint text
  | output => IO.print (Console.terminalText output)

/-- Writes all that is on the console, and wipes it. -/
def emit (session : Session) : IO Session := do
  session.console.outputs.forM put
  (← IO.getStdout).flush
  return { session with console := {} }

/-- What a path leads to. -/
def readFile (path : String) : IO FileContent := do
  try return .ofBytes (← IO.FS.readBinFile path)
  catch
    | .noFileOrDirectory .. => return .missing
    | .inappropriateType .. => return .directory
    | error => return .unreadable error.toString

/-- The bytes of the next line after those already taken, or nothing at the end of the input. -/
partial def readLine (stream : IO.FS.Stream) (taken : ByteArray) : IO (Option Input) := do
  let bytes ← stream.read 1
  match bytes.toList with
  | [] => return if taken.isEmpty then none else some (.ofBytes taken)
  | b :: _ => if b = 10 then return some (.ofBytes taken) else readLine stream (taken.push b)

/-- A dialogue with standard input. -/
partial def converse (options : Options) (session : Session) : IO Unit := do
  let session ← emit session.showPrompt
  match ← readLine (← IO.getStdin) .empty with
  | none => discard (emit session.sayGoodbye)
  | some input =>
    let (goesOn, session) := session.hear options input
    let session ← emit session
    if goesOn then converse options session

/-- Runs the calculator; the result is the exit code. -/
def run (settings : Settings) : IO UInt32 := do
  let content ← match settings.mode with
    | .file path => readFile path
    | _ => pure .missing
  let (result, session) := Program.runTask settings fun _ => content
  let session ← emit session
  if Program.hasDialogue settings result then
    converse settings.options (← emit session.greet)
  return (Program.exitCode result).toUInt32

end Calculator.Command

open Calculator in
def main (arguments : List String) : IO UInt32 :=
  match CommandLine.read arguments with
  | .ok settings => Command.run settings
  | .error request => do
    let text := Command.reply request ++ "\n"
    if request = .displayHelp || request = .displayVersion then
      IO.print text
      return 0
    else
      IO.eprint text
      return 2
