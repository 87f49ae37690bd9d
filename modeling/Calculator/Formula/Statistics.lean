import Calculator.Number.Exact

/-!
# Statistics (specification 6)

Functions of a list of numbers. Order statistics use the total order `Number.rank`, so their result
does not depend on the order of the list.
-/

namespace Calculator.Formula

/-- The sum from the left. It starts at `-0`, the neutral element of addition. -/
def sum (xs : List Number) : Number := xs.foldl (· + ·) .negativeZero

/-- NaN for no numbers. -/
def mean (xs : List Number) : Number := if xs.isEmpty then .nan else sum xs / .ofNat xs.length

/-- The numbers in increasing total order. -/
def sorted (xs : List Number) : List Number := xs.mergeSort fun a b => a.rank ≤ b.rank

/-- The number in the middle, or halfway between the two in the middle. -/
def median (xs : List Number) : Number :=
  let ordered := sorted xs
  let mid := ordered.length / 2
  let upper := ordered.getD mid .nan
  if ordered.length % 2 = 1 then upper
  else if ordered.isEmpty then .nan
  else (ordered.getD (mid - 1) .nan + upper) / 2

/-- The standard deviation of a sample; zero for fewer than two numbers. -/
def standardDeviation (xs : List Number) : Number :=
  if xs.length < 2 then 0
  else
    let m := mean xs
    (sum (xs.map fun x => (x - m) * (x - m)) / .ofNat (xs.length - 1)).sqrt

/-- The square of the standard deviation. -/
def variance (xs : List Number) : Number :=
  let s := standardDeviation xs
  s * s

/-- The most frequent number, the least of several; NaN if no number occurs twice. It is the last
of the first longest run of numbers that are the same. -/
def mode (xs : List Number) : Number :=
  let runs := (sorted xs).splitBy Number.same
  let longest := runs.foldl (fun best run => if best.length < run.length then run else best) [.nan]
  longest.getLastD .nan

/-- The least number; NaNs are passed over. -/
def least : List Number → Number
  | [] => .nan
  | x :: xs => xs.foldl Number.min x

/-- The greatest number; NaNs are passed over. -/
def greatest : List Number → Number
  | [] => .nan
  | x :: xs => xs.foldl Number.max x

end Calculator.Formula
