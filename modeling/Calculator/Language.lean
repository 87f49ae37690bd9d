import Calculator.Text.Blank
import Calculator.Text.Cased

/-!
# Languages (specification 6)

The calculator speaks Portuguese and English. Every wording is a pair of texts next to each other,
of which `Language.pick` takes one.
-/

namespace Calculator

/-- A language that messages can be worded in. -/
inductive Language where
  | pt
  | en
deriving DecidableEq, Inhabited

namespace Language

/-- The language of a session that has chosen none. -/
def standard : Language := .pt

/-- The two-letter code. -/
def code : Language → String
  | .pt => "pt"
  | .en => "en"

/-- The wording for a language. -/
def pick {α : Type} (language : Language) (english portuguese : α) : α :=
  match language with
  | .en => english
  | .pt => portuguese

/-- The language of a code or name, in any case and between any blanks. -/
def ofName? (name : String) : Option Language :=
  let name := Text.small (Text.trim name)
  if name ∈ ["pt", "pt-br", "portugues", "português"] then some .pt
  else if name ∈ ["en", "english"] then some .en
  else none

end Language

end Calculator
