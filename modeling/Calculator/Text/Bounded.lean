/-!
# Bounded text (specification 4.3)

Texts that the calculator computes hold at most `maxLength` characters; what goes beyond is cut off
at the end.
-/

namespace Calculator.Text

/-- The most characters that a text value holds. -/
def maxLength : Nat := 255

/-- The first `maxLength` characters of a text. -/
def bounded (s : String) : String := String.ofList (s.toList.take maxLength)

end Calculator.Text
