/-!
# Spans (specification 3)

Where something stands in a source text: a range of byte offsets into its UTF-8 encoding.
-/

namespace Calculator

/-- The bytes from `start` up to but not including `stop`. -/
structure Span where
  start : Nat
  stop : Nat
deriving DecidableEq, Inhabited

namespace Span

/-- The one byte at `position`. -/
def single (position : Nat) : Span := ⟨position, position + 1⟩

/-- The smallest span that covers two others. -/
def cover (a b : Span) : Span := ⟨min a.start b.start, max a.stop b.stop⟩

end Span

/-- The length of a text in bytes of its UTF-8 encoding. -/
def byteLength : List Char → Nat
  | [] => 0
  | c :: cs => c.utf8Size + byteLength cs

end Calculator
