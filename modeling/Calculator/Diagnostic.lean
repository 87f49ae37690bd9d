import Calculator.Phrase
import Calculator.Style
import Calculator.Text.Blank
import Calculator.Text.Columns

/-!
# Diagnostics (specification 7)

A notice drawn under the source line it is about (`report`):

    Error: Syntax error: Unexpected token '*'
       ╭─[<repl>:1:5]
       │
     1 │ 2 + * 3
       │     ┬
       │     ╰── Unexpected token '*'
    ───╯

A place in the source is counted in bytes, a column in characters. The drawing takes the byte
offsets for character offsets, so in a text with characters of several bytes the underline lies too
far right, or there is none.
-/

namespace Calculator.Diagnostic

/-! ## Source lines -/

/-- A line of the source: its number from one, the offset of its first character, and its
characters, the end of the line included. -/
structure Row where
  number : Nat
  offset : Nat
  chars : List Char

/-- The characters that end a line. -/
def endsLine (c : Char) : Bool :=
  c = '\n' || c = '\r' || c = '\x0b' || c = '\x0c' || c = '\u0085' || c = '\u2028' || c = '\u2029'

/-- The lines of a text, each with the characters that end it. A carriage return and a newline after
it end one line. -/
def splitRows : List Char → List (List Char)
  | [] => []
  | '\r' :: '\n' :: cs => ['\r', '\n'] :: splitRows cs
  | c :: cs =>
    if endsLine c then [c] :: splitRows cs
    else match splitRows cs with
      | [] => [[c]]
      | row :: rows => (c :: row) :: rows

/-- The line that holds an offset: the last one that does not start behind it. -/
def rowAt (offset : Nat) : (row : Row) → List (List Char) → Row
  | row, [] => row
  | row, chars :: rest =>
    let start := row.offset + row.chars.length
    if start ≤ offset then rowAt offset ⟨row.number + 1, start, chars⟩ rest else row

/-! ## Colours -/

def margin : String → String := Style.paint "38;5;246"

def gutter : String → String := Style.paint "38;5;240"

def unmarked : String → String := Style.paint "38;5;249"

/-- The colour of a family of faults. -/
def colour : FaultKind → String
  | .lexical | .resource => "31"
  | .grammatical => "33"
  | .naming => "34"
  | .domain => "35"

/-! ## Columns -/

def tabWidth : Nat := 4

/-- How many columns the character in column `k` takes: a tab goes to the next tab stop. -/
def widthAt (k : Nat) (c : Char) : Nat :=
  if c = '\t' then (k / tabWidth + 1) * tabWidth - k
  else if Text.isBlank c then 1
  else Text.columns c

/-- What is drawn of the character in column `k`: blanks are spaces, as many as it takes. -/
def glyphs (k : Nat) (c : Char) : List Char :=
  if Text.isBlank c then List.replicate (widthAt k c) ' ' else [c]

/-- A label on a line: the colour of its kind and its columns, from the start of the line on. -/
structure Label where
  colour : String
  start : Nat
  stop : Nat

namespace Label

def holds (label : Label) (k : Nat) : Bool := label.start ≤ k && k < label.stop

/-- The column that the message hangs from: the middle of the label. -/
def middle (label : Label) : Nat := label.start + (label.stop - label.start) / 2

def paint (label : Label) (c : Char) : String := Style.paint label.colour c.toString

/-- The source line, its label in colour. -/
def sourceText (label : Label) (chars : List Char) : String :=
  String.join (chars.mapIdx fun k c =>
    let draw := if label.holds k then label.paint else fun c => unmarked c.toString
    String.join ((glyphs k c).map draw))

/-- Draws the columns from the start of the line to two behind the label: in column `k` first
`head k`, then `tail k` as often as the character there is wide. -/
def drawColumns (label : Label) (chars : List Char) (head tail : Nat → String) : String :=
  String.join ((List.range (label.stop + 2)).map fun k =>
    let width := match chars[k]? with
      | some c => widthAt k c
      | none => 1
    match width with
    | 0 => ""
    | more + 1 => head k ++ String.join (List.replicate more (tail k)))

/-- The line under the label. -/
def underline (label : Label) (chars : List Char) : String :=
  let line (k : Nat) := if label.holds k then label.paint '─' else " "
  label.drawColumns chars
    (fun k =>
      if k = label.middle then label.paint (if label.holds k then '┬' else '│') else line k)
    (fun k => if k = label.middle && !label.holds k then label.paint ' ' else line k)

/-- The line from the label to the message. -/
def hook (label : Label) (chars : List Char) : String :=
  label.drawColumns chars
    (fun k =>
      if k < label.middle then " " else label.paint (if k = label.middle then '╰' else '─'))
    (fun k => if k < label.middle then " " else label.paint '─')

end Label

/-! ## The drawing -/

/-- The first line: the word for an error, the family of the fault and the message. -/
def heading (language : Language) (notice : Notice) : String :=
  Style.paint "31" "Error:" ++ " " ++ Style.paint (colour notice.kind) (notice.kind.title language)
    ++ ": " ++ notice.message

/-- The lines below the first one, for a label from `start` to `stop` on a source line. A label that
goes beyond its line is not drawn, and neither is the line. -/
def body (language : Language) (notice : Notice) (name : String) (row : Row) (start stop : Nat) :
    List String :=
  let digits := toString row.number
  let blank (count : Nat) := String.ofList (List.replicate count ' ')
  let side := " " ++ gutter (blank (digits.length + 1) ++ "│") ++ " "
  let label : Label := ⟨colour notice.kind, start - row.offset, stop - row.offset⟩
  let place := s!"{name}:{row.number}:{start - row.offset + 1}"
  let visible := Text.trimEndChars row.chars
  let drawing :=
    if row.chars.length < label.stop then [side]
    else
      [" " ++ margin (digits ++ " │") ++ " " ++ label.sourceText visible,
       side ++ label.underline visible,
       side ++ label.hook visible ++ " " ++ notice.message]
  let note := match notice.advice with
    | none => []
    | some advice =>
      let help := Style.paint "36" (Phrase.helpLabel.text language)
      [side, side ++ Style.paint "38;5;115" "Note" ++ ": " ++ help ++ ": " ++ advice]
  [blank (digits.length + 2) ++ margin "╭" ++ margin "─" ++ margin "[" ++ place ++ margin "]",
   blank (digits.length + 2) ++ margin "│"]
    ++ drawing ++ note
    ++ [margin (String.ofList (List.replicate (digits.length + 2) '─') ++ "╯")]

/-- The place that is labelled in a source of `size` bytes: nothing of it lies beyond the end. -/
def labelled (size : Nat) (span : Span) : Span :=
  let start := min span.start size
  ⟨start, max start (min span.stop size)⟩

/-- A notice about a source text with a name, each line ended. Where its place lies beyond the
text, only the first line is drawn. -/
def draw (language : Language) (notice : Notice) (name source : String) : String :=
  let chars := source.toList
  let label := labelled (byteLength chars) notice.span
  let beyond := chars.length < label.start
    || (label.start < label.stop && chars.length < label.stop - 1)
  let lines := match splitRows chars with
    | [] => []
    | first :: rest =>
      if beyond then []
      else
        body language notice name (rowAt label.start ⟨1, 0, first⟩ rest) label.start label.stop
  String.join ((heading language notice :: lines).map (· ++ "\n"))

end Calculator.Diagnostic
