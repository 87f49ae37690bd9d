/-!
# Letter case

Case of the letters of the Latin-1 range. The texts whose case matters are the names and codes of
languages and the titles of help sections, in English or Portuguese: no letter outside this range
has a counterpart inside them.
-/

namespace Calculator.Text

/-- The capital letters with a small counterpart thirty-two places above. -/
def isCapital (c : Char) : Bool :=
  let k := c.toNat
  (0x41 ≤ k && k ≤ 0x5a) || (0xc0 ≤ k && k ≤ 0xde && k != 0xd7)

/-- The small letters with a capital counterpart thirty-two places below. -/
def isSmall (c : Char) : Bool :=
  let k := c.toNat
  (0x61 ≤ k && k ≤ 0x7a) || (0xe0 ≤ k && k ≤ 0xfe && k != 0xf7)

def toSmall (c : Char) : Char := if isCapital c then Char.ofNat (c.toNat + 32) else c

def toCapital (c : Char) : Char := if isSmall c then Char.ofNat (c.toNat - 32) else c

/-- The text in small letters. -/
def small (s : String) : String := String.ofList (s.toList.map toSmall)

/-- The text in capital letters. -/
def capital (s : String) : String := String.ofList (s.toList.map toCapital)

end Calculator.Text
