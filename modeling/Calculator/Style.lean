/-!
# Text styles (specification 6)

Named terminal styles. A style sets one rendition code in front of a text and resets all renditions
after it.
-/

namespace Calculator

/-- A terminal rendition with a name. -/
structure Style where
  name : String
  code : Nat
deriving DecidableEq

namespace Style

/-- The colours, the background colours and the attributes. -/
def all : List Style :=
  [⟨"black", 30⟩, ⟨"red", 31⟩, ⟨"green", 32⟩, ⟨"yellow", 33⟩, ⟨"blue", 34⟩, ⟨"magenta", 35⟩,
   ⟨"cyan", 36⟩, ⟨"white", 37⟩,
   ⟨"bright_black", 90⟩, ⟨"bright_red", 91⟩, ⟨"bright_green", 92⟩, ⟨"bright_yellow", 93⟩,
   ⟨"bright_blue", 94⟩, ⟨"bright_magenta", 95⟩, ⟨"bright_cyan", 96⟩, ⟨"bright_white", 97⟩,
   ⟨"bg_black", 40⟩, ⟨"bg_red", 41⟩, ⟨"bg_green", 42⟩, ⟨"bg_yellow", 43⟩, ⟨"bg_blue", 44⟩,
   ⟨"bg_magenta", 45⟩, ⟨"bg_cyan", 46⟩, ⟨"bg_white", 47⟩,
   ⟨"bg_bright_black", 100⟩, ⟨"bg_bright_red", 101⟩, ⟨"bg_bright_green", 102⟩,
   ⟨"bg_bright_yellow", 103⟩, ⟨"bg_bright_blue", 104⟩, ⟨"bg_bright_magenta", 105⟩,
   ⟨"bg_bright_cyan", 106⟩, ⟨"bg_bright_white", 107⟩,
   ⟨"bold", 1⟩, ⟨"dim", 2⟩, ⟨"italic", 3⟩, ⟨"underline", 4⟩, ⟨"blink", 5⟩, ⟨"inverse", 7⟩,
   ⟨"hidden", 8⟩, ⟨"strikethrough", 9⟩]

def find? (name : String) : Option Style := all.find? (·.name == name)

/-- Ends all renditions. -/
def reset : String := "\x1b[0m"

/-- The text in a rendition, which may have parameters: `38;5;246`. -/
def paint (rendition text : String) : String := "\x1b[" ++ rendition ++ "m" ++ text ++ reset

/-- The text in a style. -/
def apply (style : Style) (text : String) : String := paint (toString style.code) text

end Style

end Calculator
