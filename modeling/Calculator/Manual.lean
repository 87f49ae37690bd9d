import Calculator.Builtin
import Calculator.Phrase

/-!
# The manual (specification 10.4)

Help texts: an overview, a reference of five pages, and an entry for each function. They are drawn
from the table of built-in functions, so a new function documents itself.
-/

namespace Calculator.Manual

/-- The functions of a family under their own names. -/
def functionsOf (category : Category) : List Builtin :=
  Builtin.all.filter fun builtin => builtin.category = category && builtin.aliasOf.isNone

def namesOf (category : Category) : String :=
  String.intercalate ", " ((functionsOf category).map (·.name))

/-- The Portuguese names of a function. -/
def aliasesOf (name : String) : List String :=
  (Builtin.aliases.filter (·.2 == name)).map (·.1)

/-- Commands, the names of all functions by family, and examples. -/
def overview (language : Language) : String :=
  let say (phrase : Phrase) := phrase.text language
  let family (category : Category) := s!"  {category.title language}: {namesOf category}\n"
  say .commands ++ "\n\n" ++ say .functionsHeader ++ "\n"
    ++ String.join (Category.all.map family)
    ++ "\n" ++ say .examples ++ "\n" ++ say .functionHint

/-! ## The reference -/

/-- A part of a page. -/
inductive Section where
  | operators
  | functions (category : Category)
deriving DecidableEq

def pages : List (List Section) :=
  [[.operators, .functions .math],
   [.functions .statistics],
   [.functions .finance],
   [.functions .settings, .functions .console, .functions .layout],
   [.functions .style]]

def pageCount : Nat := pages.length

/-- Rows of names and summaries, the summaries below each other. -/
def table (rows : List (String × String)) : String :=
  let width := (rows.map (·.1.length)).foldl max 0
  let row : String × String → String := fun (names, summary) =>
    "  " ++ names ++ String.ofList (List.replicate (width - names.length) ' ') ++ "   " ++ summary
      ++ "\n"
  String.join (rows.map row)

/-- The functions of a family with their names and summaries. Styles share one summary, so only
their names are listed. -/
def functionTable (language : Language) (category : Category) : String :=
  if category = .style then s!"  {namesOf category}\n"
  else
    table ((functionsOf category).map fun builtin =>
      (String.intercalate ", " (builtin.name :: aliasesOf builtin.name), builtin.summary language))

def heading (title : String) : String := s!"=== {Text.capital title} ===\n"

def Section.text (language : Language) : Section → String
  | .operators =>
    heading (Phrase.operatorsHeader.text language) ++ Phrase.operators.text language ++ "\n"
  | .functions category => heading (category.title language) ++ functionTable language category

/-- A page of the reference, counted from one. -/
def page (language : Language) (number : Nat) : Except Phrase String :=
  match number with
  | 0 => .error (.noSuchPage 0 pageCount)
  | index + 1 =>
    match pages[index]? with
    | none => .error (.noSuchPage number pageCount)
    | some sections =>
      .ok ((Phrase.page number pageCount).text language ++ "\n"
        ++ String.join (sections.map fun part => "\n" ++ part.text language)
        ++ "\n" ++ Phrase.pageHint.text language)

/-! ## Entries -/

/-- The entry of a function, an alias or a style. -/
def entry (language : Language) (name : String) : Option String := do
  let builtin ← Builtin.find? name
  let arity := (Phrase.arity builtin.arity).text language
  let names : List String := match builtin.aliasOf with
    | some target => [(Phrase.aliasOf target).text language]
    | none => match aliasesOf builtin.name with
      | [] => []
      | aliases => ["pt: " ++ String.intercalate ", " aliases]
  return paragraph (s!"{builtin.name}: {builtin.summary language}"
    :: (arity :: names).map fun line => "  " ++ line)

end Calculator.Manual
