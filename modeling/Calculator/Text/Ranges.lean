/-!
# Ranges of characters

Sets of characters, given by ranges of their code points.
-/

namespace Calculator.Text

/-- Whether a code point lies in one of several ranges, their ends included. -/
def inRanges (ranges : List (Nat × Nat)) (k : Nat) : Bool :=
  ranges.any fun (low, high) => low ≤ k && k ≤ high

end Calculator.Text
