/-!
# Blanks, words and lines

A blank is a character with the Unicode property `White_Space`. Trimming, splitting into words and
the test for an empty line all use this one class. Lines end at a newline, which takes one carriage
return before it along.
-/

namespace Calculator.Text

/-- The characters with the property `White_Space`. -/
def isBlank (c : Char) : Bool :=
  let k := c.toNat
  (0x09 ≤ k && k ≤ 0x0d) || k == 0x20 || k == 0x85 || k == 0xa0 || k == 0x1680
    || (0x2000 ≤ k && k ≤ 0x200a) || k == 0x2028 || k == 0x2029 || k == 0x202f || k == 0x205f
    || k == 0x3000

/-- The characters without blanks at the end. -/
def trimEndChars (cs : List Char) : List Char := (cs.reverse.dropWhile isBlank).reverse

/-- The characters without blanks at either end. -/
def trimChars (cs : List Char) : List Char := trimEndChars (cs.dropWhile isBlank)

/-- The text without blanks at either end. -/
def trim (s : String) : String := String.ofList (trimChars s.toList)

/-- The maximal runs of characters that are not blank. -/
def wordsOf : List Char → List (List Char)
  | [] => []
  | [c] => if isBlank c then [] else [[c]]
  | c :: d :: cs =>
    if isBlank c then wordsOf (d :: cs)
    else if isBlank d then [c] :: wordsOf (d :: cs)
    else match wordsOf (d :: cs) with
      | [] => [[c]]
      | w :: ws => (c :: w) :: ws

/-- The words of a text: what stands between blanks. -/
def words (s : String) : List String := (wordsOf s.toList).map String.ofList

/-- The lines of a text. A newline ends a line and belongs to none, nor does a carriage return right
before it; what follows the last newline is a line if there is anything. -/
def linesOf : List Char → List (List Char)
  | [] => []
  | '\n' :: cs => [] :: linesOf cs
  | '\r' :: '\n' :: cs => [] :: linesOf cs
  | c :: cs =>
    match linesOf cs with
    | [] => [[c]]
    | l :: ls => (c :: l) :: ls

def lines (s : String) : List String := (linesOf s.toList).map String.ofList

end Calculator.Text
