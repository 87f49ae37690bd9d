import Calculator.Decimal.Fixed
import Calculator.Decimal.Scientific
import Mathlib

/-!
# Rounding to decimal places

What rounding has to give is said of rationals: `Nearest` for integers, with a half to the even one,
and `RoundsTo` for a number of significant digits, where the place of the last digit follows from
the exponent of the rational itself (`Int.log 10`).

A quotient is rounded in natural numbers. `Scientific.ofQuotient_rounds` says that this is rounding
to significant digits, also where all digits are nines and the mantissa becomes the next power of
ten. `Scientific.Rounds.fixed_eq` is about rounding a second time, at the place that the rounded
exponent gives: after such a carry this is one place to the left, and the mantissa is the same.
-/

namespace Calculator.Decimal

/-! ## Nearest integers -/

/-- The integer is nearest to the rational, and the even one of two. -/
structure Nearest (q : ℚ) (k : ℤ) : Prop where
  near : |q - k| ≤ 1 / 2
  even : |q - k| = 1 / 2 → Even k

theorem Nearest.unique {q : ℚ} {k l : ℤ} (hk : Nearest q k) (hl : Nearest q l) : k = l := by
  by_contra hne
  have hk' := abs_le.1 hk.near
  have hl' := abs_le.1 hl.near
  -- Two integers at most a half away stand on both sides of the half between them.
  wlog hlt : k < l generalizing k l
  · exact this hl hk (Ne.symm hne) hl' hk' (lt_of_le_of_ne (not_lt.1 hlt) (Ne.symm hne))
  have hstep : (k : ℚ) + 1 ≤ l := by exact_mod_cast hlt
  have hnext : l = k + 1 := by
    have : (l : ℚ) ≤ k + 1 := by linarith
    exact le_antisymm (by exact_mod_cast this) hlt
  have hhalf : q - k = 1 / 2 := by linarith
  have hkeven : Even k := hk.even (by rw [hhalf]; norm_num)
  have hleven : Even l := hl.even (by
    rw [abs_of_nonpos (by linarith), hnext]
    push_cast
    linarith)
  rw [hnext] at hleven
  exact (Int.even_add_one.1 hleven) hkeven

theorem nearest_of_lt {q : ℚ} {k : ℤ} (h : |q - k| < 1 / 2) : Nearest q k :=
  ⟨h.le, fun hhalf => absurd hhalf h.ne⟩

theorem Nearest.neg {q : ℚ} {k : ℤ} (h : Nearest q k) : Nearest (-q) (-k) := by
  have habs : |-q - (-k : ℤ)| = |q - k| := by
    rw [Int.cast_neg, ← neg_sub', abs_neg]
  refine ⟨?_, fun hhalf => ?_⟩
  · rw [habs]
    exact h.near
  · rw [habs] at hhalf
    exact (h.even hhalf).neg

theorem Nearest.le {q : ℚ} {k m : ℤ} (h : Nearest q k) (hm : m ≤ q) : m ≤ k := by
  by_contra hlt
  have hstep : (k : ℚ) + 1 ≤ m := by exact_mod_cast not_le.1 hlt
  linarith [(abs_le.1 h.near).2]

theorem Nearest.ge {q : ℚ} {k m : ℤ} (h : Nearest q k) (hm : q ≤ m) : k ≤ m := by
  by_contra hlt
  have hstep : (m : ℚ) + 1 ≤ k := by exact_mod_cast not_le.1 hlt
  linarith [(abs_le.1 h.near).1]

/-- Of the two neighbours of a half, one is even. -/
theorem nearest_half (q : Nat) : Nearest (q + 1 / 2) (q + q % 2 : Nat) := by
  rcases Nat.mod_two_eq_zero_or_one q with hq | hq
  · rw [hq, Nat.add_zero]
    refine ⟨?_, fun _ => by exact_mod_cast Nat.even_iff.2 hq⟩
    rw [Int.cast_natCast, add_sub_cancel_left, abs_of_pos one_half_pos]
  · rw [hq]
    refine ⟨?_, fun _ => by exact_mod_cast Nat.even_add_one.2 (Nat.not_even_iff.2 hq)⟩
    rw [abs_le]
    push_cast
    constructor <;> linarith

theorem roundHalfEven_nearest (num : Nat) {den : Nat} (hden : 0 < den) :
    Nearest ((num : ℚ) / den) (roundHalfEven num den : Nat) := by
  have hpos : (0 : ℚ) < den := by exact_mod_cast hden
  have hsplit : (num : ℚ) / den = (num / den : Nat) + ((num % den : Nat) : ℚ) / den := by
    rw [eq_comm, ← eq_sub_iff_add_eq', div_eq_iff hpos.ne', sub_mul, div_mul_cancel₀ _ hpos.ne',
      eq_sub_iff_add_eq]
    exact_mod_cast Nat.mod_add_div' num den
  have hless : ((num % den : Nat) : ℚ) / den < 1 := by
    rw [div_lt_one hpos]
    exact_mod_cast Nat.mod_lt num hden
  have hrest : 0 ≤ ((num % den : Nat) : ℚ) / den := by positivity
  rw [hsplit]
  dsimp only [roundHalfEven]
  generalize num / den = q at *
  split
  case isTrue hlow =>
    have hlow : ((num % den : Nat) : ℚ) / den < 1 / 2 := by
      rw [div_lt_div_iff₀ hpos two_pos]
      exact_mod_cast (by omega : num % den * 2 < 1 * den)
    refine nearest_of_lt ?_
    rwa [Int.cast_natCast, add_sub_cancel_left, abs_of_nonneg hrest]
  case isFalse hlow =>
    split
    case isTrue hhigh =>
      have hhigh : 1 / 2 < ((num % den : Nat) : ℚ) / den := by
        rw [div_lt_div_iff₀ two_pos hpos]
        exact_mod_cast (by omega : 1 * den < num % den * 2)
      refine nearest_of_lt (abs_lt.2 ?_)
      push_cast
      constructor <;> linarith
    case isFalse hhigh =>
      have hhalf : ((num % den : Nat) : ℚ) / den = 1 / 2 := by
        rw [div_eq_div_iff hpos.ne' two_ne_zero]
        exact_mod_cast (by omega : num % den * 2 = 1 * den)
      rw [hhalf]
      exact nearest_half _

/-! ## Decimal exponents -/

theorem log_eq {q : ℚ} {e : ℤ} (hlow : 10 ^ e ≤ q) (hhigh : q < 10 ^ (e + 1)) :
    Int.log 10 q = e := by
  have hpos : 0 < q := lt_of_lt_of_le (by positivity) hlow
  refine le_antisymm (Int.lt_add_one_iff.1 ?_) ?_
  · exact (Int.lt_zpow_iff_log_lt (by norm_num) hpos).1 (by exact_mod_cast hhigh)
  · exact (Int.zpow_le_iff_le_log (by norm_num) hpos).1 (by exact_mod_cast hlow)

theorem zpow_log_le {q : ℚ} (hq : 0 < q) : 10 ^ Int.log 10 q ≤ q := by
  exact_mod_cast Int.zpow_log_le_self (by norm_num : 1 < 10) hq

theorem lt_zpow_log (q : ℚ) : q < 10 ^ (Int.log 10 q + 1) := by
  exact_mod_cast Int.lt_zpow_succ_log_self (by norm_num : 1 < 10) q

theorem digitCount_pos (k : Nat) : 0 < digitCount k := Nat.length_toDigits_pos

theorem lt_digitCount (k : Nat) : k < 10 ^ digitCount k :=
  (Nat.length_toDigits_le_iff (by decide) (digitCount_pos k)).1 (Nat.le_refl _)

theorem digitCount_le {k : Nat} (hk : 0 < k) : 10 ^ (digitCount k - 1) ≤ k := by
  by_contra hlt
  rcases Nat.eq_zero_or_pos (digitCount k - 1) with hone | hmore
  · rw [hone, Nat.pow_zero] at hlt
    omega
  · have hshort := (Nat.length_toDigits_le_iff (by decide) hmore).2 (Nat.lt_of_not_le hlt)
    have hpos := digitCount_pos k
    rw [digitCount, digits] at hpos hshort
    omega

theorem leadingExponent_eq {num den : Nat} (hnum : 0 < num) (hden : 0 < den) :
    leadingExponent num den = Int.log 10 ((num : ℚ) / den) := by
  have hnum' : (0 : ℚ) < num := by exact_mod_cast hnum
  have hden' : (0 : ℚ) < den := by exact_mod_cast hden
  symm
  rw [leadingExponent]
  split
  case isTrue hle =>
    obtain ⟨c, hc⟩ := Nat.exists_eq_add_of_lt (digitCount_pos (num / den))
    have hlow := digitCount_le (Nat.div_pos hle hden)
    have hhigh := lt_digitCount (num / den)
    rw [hc, Nat.zero_add] at hlow hhigh ⊢
    rw [Nat.add_sub_cancel, Nat.le_div_iff_mul_le hden] at hlow
    rw [Nat.div_lt_iff_lt_mul hden] at hhigh
    push_cast
    rw [add_sub_cancel_right]
    refine log_eq ?_ ?_
    · rw [le_div_iff₀ hden', zpow_natCast]
      exact_mod_cast hlow
    · rw [div_lt_iff₀ hden', ← Nat.cast_succ, zpow_natCast]
      exact_mod_cast hhigh
  case isFalse hlt =>
    have hlt := Nat.lt_of_not_le hlt
    obtain ⟨c, hc⟩ := Nat.exists_eq_add_of_lt (digitCount_pos ((den - 1) / num))
    have hlow := digitCount_le (Nat.div_pos (Nat.le_sub_one_of_lt hlt) hnum)
    have hhigh := lt_digitCount ((den - 1) / num)
    rw [hc, Nat.zero_add] at hlow hhigh ⊢
    rw [Nat.add_sub_cancel, Nat.le_div_iff_mul_le hnum] at hlow
    rw [Nat.div_lt_iff_lt_mul hnum] at hhigh
    refine log_eq ?_ ?_
    · rw [zpow_neg, zpow_natCast, inv_le_comm₀ (by positivity) (by positivity), inv_div,
        div_le_iff₀ hnum']
      exact_mod_cast Nat.le_of_pred_lt hhigh
    · have hexponent : -((c + 1 : Nat) : ℤ) + 1 = -(c : ℤ) := by push_cast; ring
      rw [hexponent, zpow_neg, zpow_natCast, lt_inv_comm₀ (by positivity) (by positivity), inv_div,
        lt_div_iff₀ hnum']
      exact_mod_cast (by omega : 10 ^ c * num < den)

/-! ## Significant digits -/

/-- `r` is `q` rounded to so many significant digits: the nearest multiple of the place of the last
one, and of two the even multiple. -/
def RoundsTo (count : ℕ) (q r : ℚ) : Prop :=
  ∃ k : ℤ, Nearest (q / 10 ^ (Int.log 10 |q| + 1 - count)) k
    ∧ r = k * 10 ^ (Int.log 10 |q| + 1 - count)

theorem RoundsTo.neg {count : ℕ} {q r : ℚ} (h : RoundsTo count q r) : RoundsTo count (-q) (-r) := by
  obtain ⟨k, hk, rfl⟩ := h
  refine ⟨-k, ?_, ?_⟩
  · rw [abs_neg, neg_div]
    exact hk.neg
  · rw [abs_neg, Int.cast_neg, neg_mul]

theorem RoundsTo.signed {count : ℕ} {q r : ℚ} (h : RoundsTo count q r) (negative : Bool) :
    RoundsTo count ((if negative then -1 else 1) * q) ((if negative then -1 else 1) * r) := by
  cases negative with
  | false => simpa using h
  | true => simpa using h.neg

namespace Scientific

/-- The rational that a mantissa with `places` digits behind its first one stands for. -/
def value (places : Nat) (s : Scientific) : ℚ := s.mantissa * 10 ^ (s.exponent - places)

/-- The rational rounded at the last place, and a mantissa of full length. -/
structure Rounds (places : Nat) (q : ℚ) (s : Scientific) : Prop where
  low : 10 ^ places ≤ s.mantissa
  high : s.mantissa < 10 ^ (places + 1)
  nearest : Nearest (q * 10 ^ (places - s.exponent)) s.mantissa
  roundsTo : RoundsTo (places + 1) q (s.value places)

theorem scaled_eq (num den : Nat) (shift : ℤ) :
    ((num * powerOfTen shift.toNat : Nat) : ℚ) / (den * powerOfTen (-shift).toNat : Nat)
      = num / den * 10 ^ shift := by
  have hpower (k : Nat) : (powerOfTen k : ℚ) = 10 ^ k := by
    rw [show powerOfTen k = 10 ^ k from rfl]
    push_cast
    rfl
  rw [Nat.cast_mul, Nat.cast_mul, hpower, hpower, mul_div_mul_comm]
  congr 1
  obtain ⟨k, hk | hk⟩ := shift.eq_nat_or_neg
  · simp [hk]
  · simp [hk]

theorem scaled_nearest (num : Nat) {den : Nat} (hden : 0 < den) (shift : ℤ) :
    Nearest (num / den * 10 ^ shift)
      (roundHalfEven (num * powerOfTen shift.toNat) (den * powerOfTen (-shift).toNat) : Nat) := by
  rw [← scaled_eq]
  exact roundHalfEven_nearest _ (Nat.mul_pos hden (Nat.pow_pos (by decide)))

theorem zpow_mul_zpow (a b : ℤ) : (10 : ℚ) ^ a * 10 ^ b = 10 ^ (a + b) :=
  (zpow_add₀ (by norm_num) a b).symm

/-- Rounded at the place that the exponent of the rational gives, the mantissa has full length, or
is the next power of ten. -/
theorem rounds_of_nearest {places : Nat} {q : ℚ} {k : Nat} (hq : 0 < q)
    (hk : Nearest (q * 10 ^ (places - Int.log 10 q)) k) :
    10 ^ places ≤ k ∧ k ≤ 10 ^ (places + 1)
      ∧ RoundsTo (places + 1) q (k * 10 ^ (Int.log 10 q - places)) := by
  have hlow : (10 : ℚ) ^ places ≤ q * 10 ^ (places - Int.log 10 q) := calc
    (10 : ℚ) ^ places = 10 ^ Int.log 10 q * 10 ^ (places - Int.log 10 q) := by
      rw [zpow_mul_zpow, add_sub_cancel, zpow_natCast]
    _ ≤ q * 10 ^ (places - Int.log 10 q) := by gcongr; exact zpow_log_le hq
  have hhigh : q * 10 ^ (places - Int.log 10 q) ≤ (10 : ℚ) ^ (places + 1) := calc
    q * 10 ^ (places - Int.log 10 q)
        ≤ 10 ^ (Int.log 10 q + 1) * 10 ^ (places - Int.log 10 q) := by
      gcongr
      exact (lt_zpow_log q).le
    _ = 10 ^ (places + 1) := by
      rw [zpow_mul_zpow, ← zpow_natCast]
      congr 1
      push_cast
      ring
  have hplace : Int.log 10 |q| + 1 - (places + 1 : Nat) = Int.log 10 q - places := by
    rw [abs_of_pos hq]
    push_cast
    ring
  refine ⟨?_, ?_, k, ?_, ?_⟩
  · exact_mod_cast hk.le (m := 10 ^ places) (by exact_mod_cast hlow)
  · exact_mod_cast hk.ge (m := 10 ^ (places + 1)) (by exact_mod_cast hhigh)
  · rw [hplace, div_eq_mul_inv, ← zpow_neg, neg_sub]
    exact hk
  · rw [hplace]
    rfl

/-- A mantissa that has become the next power of ten is nearest one place to the left too. -/
theorem nearest_of_carry {places : Nat} {q : ℚ} {e : ℤ}
    (h : Nearest (q * 10 ^ (places - e)) (10 ^ (places + 1) : Nat)) :
    Nearest (q * 10 ^ (places - (e + 1))) (10 ^ places : Nat) := by
  have hten : q * 10 ^ (places - e) = q * 10 ^ (places - (e + 1)) * 10 := by
    rw [mul_assoc, ← zpow_add_one₀ (by norm_num)]
    congr 2
    ring
  have hnear := abs_le.1 h.near
  rw [hten] at hnear
  refine nearest_of_lt (abs_lt.2 ?_)
  push_cast [pow_succ] at hnear ⊢
  constructor <;> linarith

/-- **Quotients are rounded to significant digits.** -/
theorem ofQuotient_rounds (places : Nat) {num den : Nat} (hnum : 0 < num) (hden : 0 < den) :
    Rounds places (num / den) (ofQuotient places num den) := by
  have hk := scaled_nearest num hden (places - Int.log 10 ((num : ℚ) / den))
  rw [ofQuotient, if_neg hnum.ne']
  dsimp only
  rw [leadingExponent_eq hnum hden]
  generalize roundHalfEven _ _ = k at hk ⊢
  obtain ⟨hlow, hhigh, hrounds⟩ := rounds_of_nearest (by positivity) hk
  split
  case isTrue hcarry =>
    rw [show k = 10 ^ (places + 1) from hcarry] at hk hrounds
    refine ⟨Nat.le_refl _, Nat.pow_lt_pow_succ (by decide), nearest_of_carry hk, ?_⟩
    have hvalue : value places ⟨powerOfTen places, Int.log 10 ((num : ℚ) / den) + 1⟩
        = (10 ^ (places + 1) : Nat) * 10 ^ (Int.log 10 ((num : ℚ) / den) - places) := by
      rw [value, add_sub_right_comm, zpow_add_one₀ (by norm_num)]
      show ((10 ^ places : Nat) : ℚ) * _ = _
      push_cast
      ring
    rwa [hvalue]
  case isFalse hfull => exact ⟨hlow, lt_of_le_of_ne hhigh hfull, hk, hrounds⟩

variable {places : Nat} {q : ℚ} {s : Scientific}

theorem Rounds.pos (h : s.Rounds places q) : 0 < s.value places :=
  mul_pos (Nat.cast_pos.2 (lt_of_lt_of_le (by positivity) h.low)) (by positivity)

/-- The exponent is that of the rounded value, whatever its sign. -/
theorem Rounds.log_value (h : s.Rounds places q) (negative : Bool) :
    Int.log 10 |(if negative then -1 else 1) * s.value places| = s.exponent := by
  have habs : |(if negative then -1 else 1) * s.value places| = s.value places := by
    cases negative <;> simp [abs_of_pos h.pos]
  rw [habs]
  refine log_eq ?_ ?_
  · calc (10 : ℚ) ^ s.exponent = (10 ^ places : Nat) * 10 ^ (s.exponent - places) := by
          push_cast
          rw [← zpow_natCast, zpow_mul_zpow, add_sub_cancel]
      _ ≤ s.value places := by
          rw [value]
          gcongr
          exact h.low
  · calc s.value places < (10 ^ (places + 1) : Nat) * 10 ^ (s.exponent - places) := by
          rw [value]
          gcongr
          exact h.high
      _ = 10 ^ (s.exponent + 1) := by
          push_cast
          rw [← zpow_natCast, zpow_mul_zpow]
          congr 1
          push_cast
          ring

/-- **Rounding a second time, at the place of the last digit, gives the mantissa again.** -/
theorem Rounds.fixed_eq {num den : Nat} (hden : 0 < den) (h : s.Rounds places (num / den))
    (hplace : s.exponent ≤ places) :
    roundHalfEven (num * powerOfTen (places - s.exponent).toNat) den = s.mantissa := by
  have hagain := scaled_nearest num hden (places - s.exponent)
  have hnone : powerOfTen (-((places : ℤ) - s.exponent)).toNat = 1 := by
    rw [Int.toNat_of_nonpos (by omega)]
    rfl
  rw [hnone, Nat.mul_one] at hagain
  exact_mod_cast hagain.unique h.nearest

end Scientific

end Calculator.Decimal
