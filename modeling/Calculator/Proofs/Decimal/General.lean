import Calculator.Proofs.Decimal.Numeral
import Calculator.Proofs.Decimal.Rounding
import Calculator.Proofs.Number.Order

/-!
# The general form is correctly rounded

The text of a number in general form, read as a decimal numeral, is the number's exact value rounded
to six significant digits, a half to the even neighbour (`general_rounded`). Each form of a number
is the text of a numeral, made from one rounded mantissa: `fixed_eq_text`, `scientific_eq_text` and
`general_eq_text`. In positional notation the number is rounded a second time, to the places that
the exponent of the first rounding leaves, and comes to the same mantissa.
-/

namespace Calculator

/-! ## Magnitudes -/

namespace Number

theorem denominator_pos (n : Number) : 0 < n.denominator := Nat.pow_pos (by decide)

theorem numerator_pos {n : Number} (h : n.isZero = false) : 0 < n.numerator := by
  have hmagnitude : n.magnitude ≠ 0 := fun hzero => by
    have hbits : n.bits &&& magnitudeMask = 0 := UInt64.toNat_inj.1 hzero
    rw [isZero, hbits] at h
    cases h
  have hscaled := n.magnitude_eq_scaled
  have hsignificand : 0 < n.significand := by
    rcases n.significand_ge with hleast | ⟨-, hfull⟩ <;> omega
  exact Nat.mul_pos hsignificand (Nat.pow_pos (by decide))

end Number

namespace Decimal

open Numeral (ofPlaces fractionText exponentText)

/-! ## Forms as texts of numerals -/

theorem toList_withSign {n : Number} (h : n.isFinite = true) (finite : Nat → Nat → List Char) :
    (withSign n finite).toList
      = (if n.signed then ['-'] else []) ++ finite n.numerator n.denominator := by
  have hinfinite : n.isInfinite = false := by simp_all [Number.isFinite, Number.isInfinite]
  rw [withSign, Number.isNaN_of_isFinite h, hinfinite]
  exact String.toList_ofList

/-- The digits with a point, as all forms write them. -/
theorem body_ofPlaces (negative : Bool) (places k : Nat) : (ofPlaces negative places k).body
    = if places = 0 then digits (k / powerOfTen places)
      else digits (k / powerOfTen places) ++ '.' :: padded places (k % powerOfTen places) := by
  rw [Numeral.body, ofPlaces]
  dsimp only
  split
  · rw [fractionText, List.append_nil]
  · rfl

theorem fixedDigits_eq_body (negative : Bool) (places num den : Nat) :
    fixedDigits places num den
      = (ofPlaces negative places (roundHalfEven (num * powerOfTen places) den)).body :=
  (body_ofPlaces _ _ _).symm

theorem mantissaDigits_eq_body (negative : Bool) (places : Nat) (s : Scientific) :
    s.mantissaDigits places = (ofPlaces negative places s.mantissa).body :=
  (body_ofPlaces _ _ _).symm

theorem fixed_eq_text {n : Number} (h : n.isFinite = true) (places : Nat) :
    (fixed places n).toList = (ofPlaces n.signed places
      (roundHalfEven (n.numerator * powerOfTen places) n.denominator)).text := by
  rw [fixed, toList_withSign h, fixedDigits_eq_body n.signed, Numeral.text_of_exponent_none rfl]
  rfl

/-- The shape of the general form: an exponent, which has a sign and two digits or more, exactly
where that of the value is too small or too large for positional notation, and a fraction only where
it ends in a digit other than zero. -/
structure Numeral.IsGeneral (m : Numeral) : Prop where
  positional : m.exponent = none ↔ -4 ≤ Int.log 10 |m.value| ∧ Int.log 10 |m.value| < 6
  exponent : ∀ e ∈ m.exponent, (e.1 = some '+' ∨ e.1 = some '-') ∧ 2 ≤ e.2.length
  fraction : ∀ ds ∈ m.fraction, ds ≠ [] ∧ ds.getLast? ≠ some '0'

namespace Scientific

/-- The numeral of the scientific form. -/
def numeral (negative : Bool) (places : Nat) (s : Scientific) : Numeral :=
  (ofPlaces negative places s.mantissa).withExponent (if s.exponent < 0 then some '-' else none)
    (digits s.exponent.natAbs)

/-- The numeral of the general form. -/
def generalNumeral (negative : Bool) (s : Scientific) : Numeral :=
  if -4 ≤ s.exponent ∧ s.exponent < 6 then
    (ofPlaces negative (5 - s.exponent).toNat s.mantissa).trimmed
  else (ofPlaces negative 5 s.mantissa).trimmed.withExponent
    (some (if s.exponent < 0 then '-' else '+')) (padded 2 s.exponent.natAbs)

variable (negative : Bool) (places : Nat) (s : Scientific)

theorem exponentValue_numeral : (s.numeral negative places).exponentValue = s.exponent := by
  refine Numeral.exponentValue_withExponent ?_ (digitsValue_digits _)
  split <;> simp_all

theorem numeral_wellFormed : (s.numeral negative places).WellFormed := by
  refine (Numeral.ofPlaces_wellFormed _ _ _).withExponent (fun c hc => ?_) (digits_ne_nil _)
    (isDigits_digits _)
  split at hc
  · cases hc
    exact .inr rfl
  · cases hc

/-- A mantissa with the exponent behind it. -/
theorem value_withExponent {m : Numeral} {sign : Option Char} {ds : List Char}
    (hnone : m.exponent = none) (hvalue : m.value = (ofPlaces negative places s.mantissa).value)
    (hexponent : (m.withExponent sign ds).exponentValue = s.exponent) :
    (m.withExponent sign ds).value = (if negative then -1 else 1) * s.value places := by
  rw [Numeral.value_withExponent hnone, hexponent, hvalue, Numeral.value_ofPlaces, value, mul_assoc,
    zpow_sub₀ (by norm_num), zpow_natCast]
  congr 1
  ring

theorem value_numeral :
    (s.numeral negative places).value = (if negative then -1 else 1) * s.value places :=
  value_withExponent _ _ _ rfl rfl (exponentValue_numeral _ _ _)

/-- A mantissa with the point moved to where the exponent has it. -/
theorem value_positional (h : s.exponent ≤ places) :
    (ofPlaces negative (places - s.exponent).toNat s.mantissa).value
      = (if negative then -1 else 1) * s.value places := by
  have hplaces : ((places - s.exponent).toNat : ℤ) = places - s.exponent :=
    Int.toNat_of_nonneg (by omega)
  rw [Numeral.value_ofPlaces, value, ← zpow_natCast, hplaces, div_eq_mul_inv, ← zpow_neg, neg_sub]

theorem generalNumeral_wellFormed : (s.generalNumeral negative).WellFormed := by
  rw [generalNumeral]
  split
  · exact (Numeral.ofPlaces_wellFormed _ _ _).trimmed
  · refine (Numeral.ofPlaces_wellFormed _ _ _).trimmed.withExponent (fun c hc => ?_) ?_
      (isDigits_padded _ _)
    · cases hc
      split
      · exact .inr rfl
      · exact .inl rfl
    · exact List.append_ne_nil_of_right_ne_nil _ (digits_ne_nil _)

theorem value_generalNumeral :
    (s.generalNumeral negative).value = (if negative then -1 else 1) * s.value 5 := by
  rw [generalNumeral]
  split
  case isTrue hpositional =>
    rw [Numeral.value_trimmed]
    exact value_positional negative 5 s (by omega)
  case isFalse =>
    refine value_withExponent _ _ _ rfl (Numeral.value_trimmed _)
      (Numeral.exponentValue_withExponent ?_ (digitsValue_padded _ _))
    split <;> simp_all

theorem exponent_generalNumeral : (s.generalNumeral negative).exponent
    = if -4 ≤ s.exponent ∧ s.exponent < 6 then none
      else some (some (if s.exponent < 0 then '-' else '+'), padded 2 s.exponent.natAbs) := by
  rw [generalNumeral]
  split <;> rfl

theorem fraction_generalNumeral :
    ∃ places, (s.generalNumeral negative).fraction
      = (ofPlaces negative places s.mantissa).trimmed.fraction := by
  rw [generalNumeral]
  split
  · exact ⟨_, rfl⟩
  · exact ⟨5, rfl⟩

theorem generalNumeral_isGeneral (h : Int.log 10 |(s.generalNumeral negative).value| = s.exponent) :
    (s.generalNumeral negative).IsGeneral where
  positional := by
    rw [h, exponent_generalNumeral]
    split <;> simp_all
  exponent e he := by
    rw [exponent_generalNumeral] at he
    split at he
    · cases he
    · cases he
      refine ⟨?_, by rw [length_padded]; exact le_max_left _ _⟩
      split
      · exact .inr rfl
      · exact .inl rfl
  fraction ds hds := by
    obtain ⟨places, hfraction⟩ := fraction_generalNumeral negative s
    rw [hfraction] at hds
    exact Numeral.last_of_trimmedFraction hds

end Scientific

theorem scientific_eq_text {n : Number} (h : n.isFinite = true) (places : Nat) :
    (scientific places n).toList
      = ((Scientific.ofQuotient places n.numerator n.denominator).numeral
          n.signed places).text := by
  rw [scientific, toList_withSign h]
  generalize Scientific.ofQuotient places n.numerator n.denominator = s
  have hexponent : exponentText (s.numeral n.signed places).exponent
      = 'e' :: signedDigits s.exponent := by
    rw [Scientific.numeral, signedDigits]
    split <;> rfl
  dsimp only
  rw [Numeral.text, hexponent, mantissaDigits_eq_body n.signed]
  rfl

/-- In positional notation the second rounding is the first one. -/
theorem rounded_again {n : Number} {s : Scientific} (h : s.Rounds 5 (n.numerator / n.denominator))
    (hexponent : s.exponent < 6) :
    roundHalfEven (n.numerator * powerOfTen (5 - s.exponent).toNat) n.denominator = s.mantissa :=
  h.fixed_eq n.denominator_pos (Int.lt_add_one_iff.1 hexponent)

theorem general_eq_text {n : Number} (hfinite : n.isFinite = true) (hzero : n.isZero = false) :
    (general n).toList
      = ((Scientific.ofQuotient 5 n.numerator n.denominator).generalNumeral n.signed).text := by
  have hrounds := Scientific.ofQuotient_rounds 5 (Number.numerator_pos hzero) n.denominator_pos
  rw [general, hzero, Number.isNaN_of_isFinite hfinite, if_neg Bool.false_ne_true,
    if_neg Bool.false_ne_true, toList_withSign hfinite, generalDigits,
    if_neg (Number.numerator_pos hzero).ne']
  dsimp only
  generalize Scientific.ofQuotient 5 n.numerator n.denominator = s at *
  rw [Scientific.generalNumeral]
  by_cases hpositional : -4 ≤ s.exponent ∧ s.exponent < 6
  · rw [if_pos hpositional, if_pos hpositional, fixedDigits_eq_body n.signed,
      rounded_again hrounds hpositional.2,
      Numeral.trimFraction_body (Numeral.ofPlaces_wellFormed _ _ _),
      Numeral.text_of_exponent_none rfl]
    rfl
  · rw [if_neg hpositional, if_neg hpositional, mantissaDigits_eq_body n.signed,
      Numeral.trimFraction_body (Numeral.ofPlaces_wellFormed _ _ _)]
    rfl

/-- **The general form is correctly rounded.** The text of a finite number other than zero is a
numeral of general shape. Its value is that of the number rounded to six significant digits; the
scientific form has the same value, and its exponent is that of the value. Where there is no
exponent in the general form, the number with the places that this exponent leaves has the same
value again. -/
theorem general_rounded {n : Number} (hfinite : n.isFinite = true) (hzero : n.isZero = false) :
    ∃ m, Numeral.read? (general n).toList = some m ∧ RoundsTo 6 n.value m.value ∧ m.IsGeneral
      ∧ (general n).toList.getLast? ≠ some '.'
      ∧ ∃ s, Numeral.read? (scientific 5 n).toList = some s ∧ s.value = m.value
        ∧ s.exponentValue = Int.log 10 |m.value|
        ∧ (m.exponent = none → ∃ f,
            Numeral.read? (fixed (5 - s.exponentValue).toNat n).toList = some f
              ∧ f.value = s.value) := by
  have hrounds := Scientific.ofQuotient_rounds 5 (Number.numerator_pos hzero) n.denominator_pos
  rw [general_eq_text hfinite hzero, scientific_eq_text hfinite]
  generalize Scientific.ofQuotient 5 n.numerator n.denominator = s at *
  have hvalue := s.value_generalNumeral n.signed
  have hlog : Int.log 10 |(s.generalNumeral n.signed).value| = s.exponent := by
    rw [hvalue]
    exact hrounds.log_value n.signed
  have hwf := s.generalNumeral_wellFormed n.signed
  have hgeneral := s.generalNumeral_isGeneral n.signed hlog
  refine ⟨_, Numeral.read?_text hwf, ?_, hgeneral,
    Numeral.getLast?_text_ne_point hwf fun ds hds => (hgeneral.fraction ds hds).1,
    _, Numeral.read?_text (s.numeral_wellFormed n.signed 5), ?_, ?_, fun hnone => ?_⟩
  · rw [hvalue]
    exact hrounds.roundsTo.signed n.signed
  · rw [hvalue, Scientific.value_numeral]
  · rw [hlog, Scientific.exponentValue_numeral]
  · have hpositional := hgeneral.positional.1 hnone
    rw [hlog] at hpositional
    rw [Scientific.exponentValue_numeral, fixed_eq_text hfinite,
      rounded_again hrounds hpositional.2, Scientific.value_numeral]
    exact ⟨_, Numeral.read?_text (Numeral.ofPlaces_wellFormed _ _ _),
      s.value_positional n.signed 5 (by omega)⟩

/-- Halfway between the last integer of six digits and the first of seven: the even one has an
exponent that calls for the other form. -/
theorem general_rounded_nines :
    let n : Number := ⟨0x412e847f00000000⟩
    n.isFinite = true ∧ n.isZero = false ∧ n.value = 999999.5 ∧ general n = "1e+06"
      ∧ RoundsTo 6 n.value 1000000 := by
  intro n
  have hfinite : n.isFinite = true := by decide
  have hzero : n.isZero = false := by decide
  obtain ⟨m, hread, hrounds, -⟩ := general_rounded hfinite hzero
  have htext : general n = "1e+06" := by decide +kernel
  rw [htext] at hread
  have hm : m = ⟨false, ['1'], none, some (some '+', ['0', '6'])⟩ :=
    (Option.some.inj hread).symm
  have hvalue : m.value = 1000000 := by
    rw [hm]
    decide +kernel
  exact ⟨hfinite, hzero, by decide +kernel, htext, hvalue ▸ hrounds⟩

end Decimal

end Calculator
