import Calculator.Number.Exact
import Calculator.Text.Bounded

/-!
# Layout (specification 6)

Texts padded to a width and rules of one repeated character. The width of a text is what a terminal
shows of it: a sequence from escape and `[` to the next `m` takes no room.
-/

namespace Calculator

/-- Where a text stands in a field wider than itself. -/
inductive Alignment where
  | left
  | center
  | right
deriving DecidableEq

namespace Alignment

def name : Alignment → String
  | .left => "left"
  | .center => "center"
  | .right => "right"

def ofName? (name : String) : Option Alignment :=
  [left, center, right].find? (·.name == name)

end Alignment

namespace Layout

mutual

/-- The characters that a terminal shows. -/
def visibleCount : List Char → Nat
  | [] => 0
  | '\x1b' :: '[' :: cs => sequenceCount cs
  | _ :: cs => visibleCount cs + 1

/-- The characters that a terminal shows after the end of the sequence it is in. -/
def sequenceCount : List Char → Nat
  | [] => 0
  | 'm' :: cs => visibleCount cs
  | _ :: cs => sequenceCount cs

end

/-- The room that a text takes on a terminal. -/
def visibleLength (text : String) : Nat := visibleCount text.toList

/-- A width or count asked for by a number: its integer part, at least zero and at most the length
of the longest text. -/
def widthOf (n : Number) : Nat := (n.clampedInteger 0 Text.maxLength).toNat

def spaces (count : Nat) : String := String.ofList (List.replicate count ' ')

/-- The text with spaces around it up to `width`; a text as wide as that is left alone. In the
center, an odd space goes after the text. -/
def align (alignment : Alignment) (width : Nat) (text : String) : String :=
  let padding := width - visibleLength text
  match alignment with
  | .left => text ++ spaces padding
  | .center => spaces (padding / 2) ++ text ++ spaces (padding - padding / 2)
  | .right => spaces padding ++ text

/-- The first character of a text, `count` times. -/
def repeatFirst (text : String) (count : Nat) : String :=
  match text.toList with
  | [] => ""
  | c :: _ => String.ofList (List.replicate count c)

end Layout

end Calculator
