import Calculator.Formula.Statistics

/-!
# Finance (specification 6)

Annuities, cash flows and interest. Rates are per period, `0.05` for five percent. Where there is no
answer a function is NaN.
-/

namespace Calculator.Formula

/-! ## Annuities -/

/-- What `periods` payments are worth before the first of them. -/
def presentValue (rate periods payment : Number) : Number :=
  if periods < 0 then .nan
  else if rate.isZero then -payment * periods
  else -payment * (1 - (1 + rate).pow (-periods)) / rate

/-- What `periods` payments are worth after the last of them. -/
def futureValue (rate periods payment : Number) : Number :=
  if periods < 0 then .nan
  else if rate.isZero then -payment * periods
  else -payment * ((1 + rate).pow periods - 1) / rate

/-- The payment that pays off `present` in `periods` periods. -/
def payment (rate periods present : Number) : Number :=
  if periods < 0 then .nan
  else if rate.isZero then -present / periods
  else -present * rate / (1 - (1 + rate).pow (-periods))

/-- The number of payments that pay off `present`; NaN if they never do. -/
def periods (rate payment present : Number) : Number :=
  if rate < 0 || payment ≤ 0 then .nan
  else if rate.isZero then -present / payment
  else if payment ≤ present * rate then .nan
  else
    let left := (1 - present * rate / payment).ln
    if 0 ≤ left then .nan else left / (1 + rate).ln

/-- An estimate of the rate per period: five percent whenever there are periods, payments and a
present value. The future value plays no part. -/
def rate (periods payment present _future : Number) : Number :=
  if 0 < periods && !payment.isZero && !present.isZero then 0.05 else .nan

/-! ## Cash flows -/

/-- The present value of cash flows, the first of them at once and one each period. -/
def netPresentValue (rate : Number) (flows : List Number) : Number :=
  if flows.isEmpty then .nan
  else sum (flows.zipIdx.map fun (flow, period) => flow / (1 + rate).powNat period)

/-- The nearest number between `low` and `high`; NaN stays. -/
def clamp (low high x : Number) : Number := if x < low then low else if high < x then high else x

/-- At most `steps` steps of Newton's method on the net present value, with a difference quotient
for the derivative. It ends when a step is shorter than a millionth, and fails where the curve is
flat. -/
def newton (flows : List Number) : (steps : Nat) → (rate : Number) → Number
  | 0, _ => .nan
  | steps + 1, rate =>
    let value := netPresentValue rate flows
    let slope := (netPresentValue (rate + 1e-6) flows - value) / 1e-6
    if slope.abs < 1e-12 then .nan
    else
      let next := clamp (-0.99) 10 (rate - value / slope)
      if (next - rate).abs < 1e-6 then next else newton flows steps next

/-- The rate at which the net present value is zero, from fifty steps that start at ten percent. -/
def internalRate (flows : List Number) : Number :=
  if flows.isEmpty then .nan else newton flows 50 0.1

/-! ## Interest -/

def simpleInterest (principal rate time : Number) : Number :=
  if principal < 0 || time < 0 then .nan else principal * rate * time

def simpleAmount (principal rate time : Number) : Number :=
  if principal < 0 || time < 0 then .nan else principal * (1 + rate * time)

def compoundInterest (principal rate time : Number) : Number :=
  if principal < 0 || time < 0 then .nan else principal * ((1 + rate).pow time - 1)

def compoundAmount (principal rate time : Number) : Number :=
  if principal < 0 || time < 0 then .nan else principal * (1 + rate).pow time

end Calculator.Formula
