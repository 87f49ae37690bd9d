/-!
# Consoles (specification 6)

What a session has put out so far, in order (the `BufferConsole`): lines and screen clears of the
programs it ran, and what the calculator itself writes to its two output streams. Every view of the
output (the lines, the number of clears, the text of a stream) is read off this one record.
-/

namespace Calculator

/-- One piece of output. -/
inductive Output where
  /-- A line on the session's console. -/
  | line (text : String)
  /-- The screen is cleared. -/
  | clear
  /-- Text on standard output. -/
  | print (text : String)
  /-- Text on standard error. -/
  | warn (text : String)
deriving DecidableEq

/-- The output of a session, oldest first. -/
structure Console where
  outputs : Array Output := #[]
deriving DecidableEq, Inhabited

namespace Console

def writeLine (console : Console) (text : String) : Console := ⟨console.outputs.push (.line text)⟩

def clearScreen (console : Console) : Console := ⟨console.outputs.push .clear⟩

def print (console : Console) (text : String) : Console := ⟨console.outputs.push (.print text)⟩

def warn (console : Console) (text : String) : Console := ⟨console.outputs.push (.warn text)⟩

def line? : Output → Option String
  | .line text => some text
  | _ => none

/-- The lines written to the console. -/
def lines (console : Console) : List String := console.outputs.toList.filterMap line?

/-- How often the screen was cleared. -/
def clears (console : Console) : Nat := console.outputs.toList.count .clear

@[simp]
theorem lines_writeLine (console : Console) (text : String) :
    (console.writeLine text).lines = console.lines ++ [text] := by
  simp [lines, writeLine, line?]

@[simp]
theorem lines_clearScreen (console : Console) : console.clearScreen.lines = console.lines := by
  simp [lines, clearScreen, line?]

@[simp]
theorem lines_print (console : Console) (text : String) :
    (console.print text).lines = console.lines := by
  simp [lines, print, line?]

@[simp]
theorem lines_warn (console : Console) (text : String) :
    (console.warn text).lines = console.lines := by
  simp [lines, warn, line?]

@[simp]
theorem clears_writeLine (console : Console) (text : String) :
    (console.writeLine text).clears = console.clears := by
  simp [clears, writeLine]

@[simp]
theorem clears_clearScreen (console : Console) :
    console.clearScreen.clears = console.clears + 1 := by
  simp [clears, clearScreen]

@[simp]
theorem clears_print (console : Console) (text : String) :
    (console.print text).clears = console.clears := by
  simp [clears, print]

@[simp]
theorem clears_warn (console : Console) (text : String) :
    (console.warn text).clears = console.clears := by
  simp [clears, warn]

/-- The text that an output puts on standard output, where the console is the terminal: clearing
erases the display and moves to its corner. -/
def terminalText : Output → String
  | .line text => text ++ "\n"
  | .clear => "\x1b[2J\x1b[H"
  | .print text => text
  | .warn _ => ""

/-- Standard output of a session whose console is the terminal. -/
def terminal (console : Console) : String := String.join (console.outputs.toList.map terminalText)

def printed? : Output → Option String
  | .print text => some text
  | _ => none

/-- Standard output of a session whose console is kept apart. -/
def printed (console : Console) : String := String.join (console.outputs.toList.filterMap printed?)

def warned? : Output → Option String
  | .warn text => some text
  | _ => none

/-- Standard error. -/
def warned (console : Console) : String := String.join (console.outputs.toList.filterMap warned?)

end Console

end Calculator
