import Mathlib

/-!
# Rounding to binary64

How the results of arithmetic are brought to the fifty-three bits of a mantissa. Lengths in bits are
told by `Nat.log2`, which is one less. A mantissa that is long enough is cut to its length, rounded,
and cut once more where rounding carried (`round_long`); where its last place comes to stand tells
its magnitude up to a factor of two.
-/

namespace Calculator.Binary64

open Float.Model (UnpackedFloat Format totalExponent)
open Float.Model.UnpackedFloat (Sign ExtendedMantissa shiftToTargetExponent roundWithAccuracy)

/-! ## Lengths in bits -/

theorem log2_mono {m n : Nat} (h : m ≤ n) : m.log2 ≤ n.log2 := by
  rw [Nat.log2_eq_log_two, Nat.log2_eq_log_two]
  exact Nat.log_mono_right h

theorem log2_div_two_pow (m k : Nat) : (m / 2 ^ k).log2 = m.log2 - k := by
  rw [Nat.log2_eq_log_two, Nat.log2_eq_log_two, Nat.log_div_base_pow]

theorem log2_shiftLeft {m : Nat} (hm : 0 < m) (k : Nat) : (m <<< k).log2 = m.log2 + k := by
  induction k with
  | zero => rfl
  | succ k ih =>
    have hpos : m <<< k ≠ 0 := by
      rw [Nat.shiftLeft_eq]
      exact Nat.ne_of_gt (Nat.mul_pos hm (Nat.pow_pos (by decide)))
    rw [Nat.shiftLeft_succ, Nat.log2_two_mul hpos, ih, Nat.add_assoc]

theorem log2_add {m n k : Nat} (hm : m.log2 ≤ k) (hn : n.log2 ≤ k) : (m + n).log2 ≤ k + 1 := by
  by_cases hzero : m + n = 0
  · rw [hzero, Nat.log2_zero]
    exact Nat.zero_le _
  · refine Nat.le_of_lt_succ ((Nat.log2_lt hzero).2 ?_)
    have h₁ : m < 2 ^ (k + 1) :=
      Nat.lt_of_lt_of_le Nat.lt_log2_self (Nat.pow_le_pow_right (by decide) (by omega))
    have h₂ : n < 2 ^ (k + 1) :=
      Nat.lt_of_lt_of_le Nat.lt_log2_self (Nat.pow_le_pow_right (by decide) (by omega))
    rw [Nat.pow_succ]
    omega

theorem log2_mul {m n : Nat} (hm : 0 < m) (hn : 0 < n) :
    m.log2 + n.log2 ≤ (m * n).log2 ∧ (m * n).log2 ≤ m.log2 + n.log2 + 1 := by
  have hmn : m * n ≠ 0 := Nat.ne_of_gt (Nat.mul_pos hm hn)
  constructor
  · rw [Nat.le_log2 hmn, Nat.pow_add]
    exact Nat.mul_le_mul (Nat.log2_self_le (Nat.ne_of_gt hm)) (Nat.log2_self_le (Nat.ne_of_gt hn))
  · refine Nat.le_of_lt_succ ((Nat.log2_lt hmn).2 ?_)
    have hsucc : (m.log2 + n.log2 + 1).succ = (m.log2 + 1) + (n.log2 + 1) := by omega
    rw [hsucc, Nat.pow_add]
    exact Nat.mul_lt_mul'' Nat.lt_log2_self Nat.lt_log2_self

/-! ## Rounding long mantissas -/

theorem mantissa_shiftRight (em : ExtendedMantissa) (k : Nat) :
    (em >>> k).mantissa = em.mantissa / 2 ^ k := by
  induction k with
  | zero =>
    rw [Nat.pow_zero, Nat.div_one]
    rfl
  | succ k ih =>
    rw [Nat.pow_succ, ← Nat.div_div_eq_div_mul, ← ih]
    rfl

theorem roundedMantissa_cases (em : ExtendedMantissa) :
    em.roundedMantissa = em.mantissa ∨ em.roundedMantissa = em.mantissa + 1 := by
  obtain ⟨m, roundBit, stickyBit⟩ := em
  match roundBit, stickyBit with
  | false, false | false, true => exact .inl rfl
  | true, true => exact .inr rfl
  | true, false =>
    show m + m % 2 = m ∨ m + m % 2 = m + 1
    omega

theorem log2_roundedMantissa (em : ExtendedMantissa) :
    em.mantissa.log2 ≤ em.roundedMantissa.log2
      ∧ em.roundedMantissa.log2 ≤ em.mantissa.log2 + 1 := by
  rcases roundedMantissa_cases em with h | h
  · rw [h]
    exact ⟨Nat.le_refl _, Nat.le_succ _⟩
  · rw [h]
    exact ⟨log2_mono (Nat.le_succ _), log2_add (Nat.le_refl _) (Nat.zero_le _)⟩

/-- The last place of a number with a long mantissa. -/
theorem targetExponent_long {m : Nat} {e : Int} (he : -1074 ≤ m.log2 - 52 + e) :
    Format.targetExponent .binary64 (totalExponent m e) = m.log2 - 52 + e := by
  simp only [Format.targetExponent, totalExponent, Format.mantissaBits, Format.minExponent]
  omega

/-- A mantissa of at least fifty-three bits is cut to that length. -/
theorem shiftToTargetExponent_long {m : Nat} {e : Int} (hlog : 52 ≤ m.log2)
    (he : -1074 ≤ m.log2 - 52 + e) :
    ∃ em, shiftToTargetExponent .binary64 m e .exact = (em, m.log2 - 52 + e)
      ∧ em.mantissa = m / 2 ^ (m.log2 - 52) ∧ em.mantissa.log2 = 52 := by
  have hshift : (m.log2 - 52 + e - e).toNat = m.log2 - 52 := by omega
  have hcut : (shiftToTargetExponent .binary64 m e .exact).1.mantissa = m / 2 ^ (m.log2 - 52) := by
    simp only [shiftToTargetExponent, UnpackedFloat.shiftToExponent, targetExponent_long he, hshift,
      mantissa_shiftRight, ExtendedMantissa.ofMantissaAndAccuracy]
  refine ⟨_, Prod.ext rfl ?_, hcut, ?_⟩
  · simp only [shiftToTargetExponent, UnpackedFloat.shiftToExponent, targetExponent_long he, hshift]
    omega
  · rw [hcut, log2_div_two_pow]
    omega

/-- Rounding goes up by at most one in the last place that is kept. A carry may have added a bit, so
the mantissa is brought to its length once more. -/
theorem round_eq (sign : Sign) {m : Nat} {e : Int} (hlog : 52 ≤ m.log2)
    (he : -1074 ≤ m.log2 - 52 + e) :
    ∃ rounded r, ∃ hr : 0 < r,
      roundWithAccuracy .binary64 sign m e .exact
          = .finite sign r (rounded.log2 - 52 + (m.log2 - 52 + e)) hr
        ∧ rounded ≤ m / 2 ^ (m.log2 - 52) + 1 ∧ 52 ≤ rounded.log2 ∧ rounded.log2 ≤ 53
        ∧ r = rounded / 2 ^ (rounded.log2 - 52) ∧ r.log2 = 52 := by
  obtain ⟨em, hshift, hcut, hem⟩ := shiftToTargetExponent_long hlog he
  obtain ⟨hlow, hhigh⟩ := log2_roundedMantissa em
  have hup : em.roundedMantissa ≤ m / 2 ^ (m.log2 - 52) + 1 := by
    rcases roundedMantissa_cases em with h | h <;> omega
  have hcarried : (-1074 : Int) ≤ em.roundedMantissa.log2 - 52 + (m.log2 - 52 + e) := by omega
  obtain ⟨em', hshift', hcut', hem'⟩ := shiftToTargetExponent_long (by omega) hcarried
  have hpos : em'.mantissa ≠ 0 := by
    intro h
    rw [h] at hem'
    cases hem'
  refine ⟨em.roundedMantissa, em'.mantissa, Nat.pos_of_ne_zero hpos, ?_, hup, by omega, by omega,
    hcut', hem'⟩
  rw [roundWithAccuracy, hshift]
  simp only [hshift']
  rw [dif_neg hpos]

/-- **Rounding a mantissa of at least fifty-three bits gives one of fifty-three bits.** -/
theorem round_long (sign : Sign) {m : Nat} {e : Int} (hlog : 52 ≤ m.log2)
    (he : -1074 ≤ m.log2 - 52 + e) :
    ∃ r last, ∃ hr : 0 < r,
      roundWithAccuracy .binary64 sign m e .exact = .finite sign r last hr
        ∧ r.log2 = 52 ∧ m.log2 - 52 + e ≤ last ∧ last ≤ m.log2 - 51 + e := by
  obtain ⟨rounded, r, hr, hround, -, hlow, hhigh, -, hrlog⟩ := round_eq sign hlog he
  exact ⟨r, _, hr, hround, hrlog, by omega, by omega⟩

/-- Normalizing a long mantissa is rounding it. -/
theorem normalize_long {m : Nat} {e : Int} (hlog : 52 ≤ m.log2) (he : -1074 ≤ m.log2 - 52 + e) :
    UnpackedFloat.normalize .binary64 m e .positive
      = roundWithAccuracy .binary64 .positive m e .exact := by
  have hm : (0 : Int) < m := by
    refine Int.natCast_pos.2 (Nat.pos_of_ne_zero fun h => ?_)
    rw [h, Nat.log2_zero] at hlog
    omega
  have hshift : (e - (m.log2 - 52 + e)).toNat = 0 := by omega
  rw [UnpackedFloat.normalize, Int.compare_eq_gt.2 hm]
  simp only [UnpackedFloat.round, UnpackedFloat.decreaseExponent, Int.toNat_natCast,
    targetExponent_long he, hshift, Nat.shiftLeft_zero]
  simp

end Calculator.Binary64
