import Calculator.Line

/-!
# The command line (specification 10.3)

Settings of a run (the `Config`), read from its arguments:

    -e, --eval CODE        evaluate CODE and print its result
    -i, --interactive      start a dialogue, after FILE or CODE if given
    -l, --lang LANG        pt or en
    -d, --decimals N       decimal places, 0 to 15
        --plain-errors     report a fault on one line
        --dump-tokens      write the tokens before evaluating
        --dump-ast         write the tree before evaluating
    -v, --verbose          log more; may be repeated
    -h, --help
    -V, --version
    FILE                   script to run

A value is attached to its option (`-d3`, `-d=3`, `--decimals=3`) or is the next argument, unless
that looks like an option itself. Switches of one letter can be run together. After `--` all
arguments are files, of which there is at most one.

A value that is the next argument is examined only when the option after it has been recognised; an
unknown option in between is the fault that counts. `Reading.pending` holds such a value back.
-/

namespace Calculator

/-- Why arguments give no settings. -/
inductive UsageError where
  | unknownArgument
  /-- A value is missing, or is none of those possible. -/
  | invalidValue
  /-- A value that is no number, or a number out of range. -/
  | valueValidation
  /-- An option is repeated, or two exclude each other. -/
  | argumentConflict
  /-- A switch is given a value. -/
  | tooManyValues
  | displayHelp
  | displayVersion
deriving DecidableEq

/-- What a run is to do. -/
inductive Mode where
  | dialogue
  | file (path : String)
  | code (source : String)
deriving DecidableEq

inductive LogLevel where
  | warn
  | info
  | debug
  | trace
deriving DecidableEq

structure Settings where
  file : Option String := none
  code : Option String := none
  interactive : Bool := false
  language : Language := .standard
  places : Nat := standardPlaces
  verbosity : Nat := 0
  options : Options := {}
deriving DecidableEq

namespace Settings

/-- Code comes before a file, and without either there is a dialogue. -/
def mode (settings : Settings) : Mode :=
  match settings.code, settings.file with
  | some source, _ => .code source
  | none, some path => .file path
  | none, none => .dialogue

def logLevel (settings : Settings) : LogLevel :=
  match settings.verbosity with
  | 0 => .warn
  | 1 => .info
  | 2 => .debug
  | _ => .trace

end Settings

namespace CommandLine

/-! ## Options -/

/-- What a value is for. -/
inductive Slot where
  | file
  | code
  | language
  | places
deriving DecidableEq

/-- An option without a value. -/
inductive Switch where
  | interactive
  | plainErrors
  | dumpTokens
  | dumpTree
  | verbose
  | help
  | version
deriving DecidableEq

def longOption? (name : String) : Option (Slot ⊕ Switch) :=
  [("eval", .inl .code), ("interactive", .inr .interactive), ("lang", .inl .language),
   ("decimals", .inl .places), ("plain-errors", .inr .plainErrors),
   ("dump-tokens", .inr .dumpTokens), ("dump-ast", .inr .dumpTree), ("verbose", .inr .verbose),
   ("help", .inr .help), ("version", .inr .version)].lookup name

def shortOption? : Char → Option (Slot ⊕ Switch)
  | 'e' => some (.inl .code)
  | 'i' => some (.inr .interactive)
  | 'l' => some (.inl .language)
  | 'd' => some (.inl .places)
  | 'v' => some (.inr .verbose)
  | 'h' => some (.inr .help)
  | 'V' => some (.inr .version)
  | _ => none

/-! ## Values -/

/-- A decimal integer with a sign or without. -/
def integer? (text : String) : Option Int :=
  let value? (digits : List Char) : Option Nat :=
    if digits.isEmpty || !digits.all Char.isDigit then none
    else some (digits.foldl (fun value c => value * 10 + Token.digitValue c) 0)
  match text.toList with
  | '-' :: digits => (value? digits).map fun k => -(k : Int)
  | '+' :: digits => (value? digits).map fun k => (k : Int)
  | digits => (value? digits).map fun k => (k : Int)

/-- The most that repetitions of a switch count. -/
def maxVerbosity : Nat := 255

/-- What has been read of the arguments. -/
structure Reading where
  settings : Settings := {}
  /-- The slots and switches that have been given. -/
  given : List (Slot ⊕ Switch) := []
  /-- An option whose value has not been examined or has not come yet. -/
  pending : Option (Slot × Option String) := none
  /-- A file has been named. -/
  named : Bool := false
  /-- Everything from here on is a file. -/
  onlyFiles : Bool := false

namespace Reading

/-- Puts a value where it belongs. -/
def assign (settings : Settings) (slot : Slot) (value : String) : Except UsageError Settings :=
  match slot with
  | .file =>
    if value.isEmpty then .error .invalidValue else .ok { settings with file := some value }
  | .code => .ok { settings with code := some value }
  | .language =>
    if value = Language.pt.code then .ok { settings with language := .pt }
    else if value = Language.en.code then .ok { settings with language := .en }
    else .error .invalidValue
  | .places =>
    match integer? value with
    | some k =>
      if 0 ≤ k && k ≤ maxPlaces then .ok { settings with places := k.toNat }
      else .error .valueValidation
    | none => .error .valueValidation

/-- Takes a value for a slot: there has to be one, it has to be the first for this slot, and it has
to make sense, in this order. -/
def store (reading : Reading) (slot : Slot) (value : Option String) : Except UsageError Reading :=
  match value with
  | none => .error .invalidValue
  | some value =>
    if reading.given.contains (.inl slot) then .error .argumentConflict
    else do
      let settings ← assign reading.settings slot value
      return { reading with settings, given := .inl slot :: reading.given }

/-- Examines the value that has been held back. -/
def settle (reading : Reading) : Except UsageError Reading :=
  match reading.pending with
  | none => .ok reading
  | some (slot, value) => store { reading with pending := none } slot value

/-- Turns a switch on. Only `verbose` may be repeated. -/
def switchOn (reading : Reading) (switch : Switch) : Except UsageError Reading := do
  let reading ← reading.settle
  if switch ≠ .verbose && reading.given.contains (.inr switch) then .error .argumentConflict
  else
    let settings := reading.settings
    let options := settings.options
    let changed : Except UsageError Settings := match switch with
      | .interactive => .ok { settings with interactive := true }
      | .plainErrors => .ok { settings with options := { options with plainErrors := true } }
      | .dumpTokens => .ok { settings with options := { options with dumpTokens := true } }
      | .dumpTree => .ok { settings with options := { options with dumpTree := true } }
      | .verbose => .ok { settings with verbosity := min maxVerbosity (settings.verbosity + 1) }
      | .help => .error .displayHelp
      | .version => .error .displayVersion
    return { reading with settings := ← changed, given := .inr switch :: reading.given }

/-- An option with its value attached to it, or still to come. -/
def option (reading : Reading) (slot : Slot) (attached : Option String) :
    Except UsageError Reading := do
  let reading ← reading.settle
  match attached with
  | some value => reading.store slot (some value)
  | none => return { reading with pending := some (slot, none) }

/-- An option by its name: `--name` or `--name=value`. -/
def long (reading : Reading) (body : List Char) : Except UsageError Reading :=
  let name := String.ofList (body.takeWhile (· ≠ '='))
  let attached := match body.dropWhile (· ≠ '=') with
    | _ :: value => some (String.ofList value)
    | [] => none
  match longOption? name with
  | none => .error .unknownArgument
  | some (.inl slot) => reading.option slot attached
  | some (.inr switch) => if attached.isSome then .error .tooManyValues else reading.switchOn switch

/-- Options of one letter run together; what follows one that takes a value is its value. -/
def short (reading : Reading) : List Char → Except UsageError Reading
  | [] => .ok reading
  | c :: cs =>
    match shortOption? c with
    | none => .error .unknownArgument
    | some (.inr switch) => do short (← reading.switchOn switch) cs
    | some (.inl slot) =>
      match cs with
      | [] => reading.option slot none
      | '=' :: value => reading.option slot (some (String.ofList value))
      | value => reading.option slot (some (String.ofList value))

/-- A file. -/
def operand (reading : Reading) (path : String) : Except UsageError Reading :=
  if reading.named then .error .unknownArgument
  else do
    let reading ← reading.settle
    return { reading with pending := some (.file, some path), named := true }

/-- The next argument. -/
def step (reading : Reading) (argument : String) : Except UsageError Reading :=
  if reading.onlyFiles then reading.operand argument
  else
    match argument.toList with
    | ['-', '-'] => .ok { reading with onlyFiles := true }
    | '-' :: '-' :: body => reading.long body
    | '-' :: c :: cs => reading.short (c :: cs)
    | _ =>
      match reading.pending with
      | some (slot, none) => .ok { reading with pending := some (slot, some argument) }
      | _ => reading.operand argument

end Reading

/-- The settings that arguments ask for. Code and a file exclude each other. -/
def read (arguments : List String) : Except UsageError Settings := do
  let reading ← arguments.foldlM Reading.step {}
  let reading ← reading.settle
  if reading.settings.code.isSome && reading.settings.file.isSome then .error .argumentConflict
  else return reading.settings

end CommandLine

end Calculator
