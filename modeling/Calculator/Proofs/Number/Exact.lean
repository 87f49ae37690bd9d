import Calculator.Proofs.Number.Integers

/-!
# Exact arithmetic on integers

Up to `2 ^ 53` the natural numbers are numbers of the calculator without exception, and sums and
products that stay in this range are not rounded.

`Binary64.Denotes` says which parts a natural number has. A result that is an integer of fifty-three
bits, however long the mantissa that it was computed with, is brought to its own fifty-three bits
without a loss (`Denotes.round`); sums and products are two cases of this.
-/

namespace Calculator

namespace Representable

theorem of_le {k : Nat} (h : k ≤ 2 ^ 53) : Representable k := by
  rcases Nat.lt_or_eq_of_le h with hlt | rfl
  · exact of_lt hlt
  · exact ⟨1, 53, by decide, by decide⟩

/-- Zeros behind an integer, or fewer of them, change nothing. -/
theorem of_scaled {k l a b : Nat} (hl : Representable l) (h : k * 2 ^ a = l * 2 ^ b) :
    Representable k := by
  obtain ⟨m, i, hm, rfl⟩ := hl
  rw [Nat.mul_assoc, ← Nat.pow_add] at h
  rcases Nat.le_total a (i + b) with hle | hle
  · obtain ⟨d, hd⟩ := Nat.exists_eq_add_of_le hle
    rw [hd, Nat.pow_add, Nat.mul_comm (2 ^ a), ← Nat.mul_assoc] at h
    exact ⟨m, d, hm, Nat.eq_of_mul_eq_mul_right (Nat.two_pow_pos a) h⟩
  · obtain ⟨d, rfl⟩ := Nat.exists_eq_add_of_le hle
    rw [Nat.pow_add, Nat.mul_comm (2 ^ (i + b)), ← Nat.mul_assoc] at h
    have hshort : k * 2 ^ d = m := Nat.eq_of_mul_eq_mul_right (Nat.two_pow_pos (i + b)) h
    exact of_lt (Nat.lt_of_le_of_lt (Nat.le_mul_of_pos_right k (Nat.two_pow_pos d)) (hshort ▸ hm))

/-- Fifty-three bits, and zeros behind them. -/
theorem split {m : Nat} (h : Representable m) (hlog : 52 ≤ m.log2) :
    ∃ r j, 0 < r ∧ r.log2 = 52 ∧ m = r * 2 ^ j := by
  by_cases hlong : 2 ^ 53 ≤ m
  · exact h.leading hlong
  · have hpos : m ≠ 0 := by
      rintro rfl
      exact absurd hlog (by decide)
    have hshort : m.log2 < 53 := (Nat.log2_lt hpos).2 (Nat.lt_of_not_le hlong)
    exact ⟨m, 0, Nat.pos_of_ne_zero hpos, by omega, by rw [Nat.pow_zero, Nat.mul_one]⟩

end Representable

namespace Binary64

open Float.Model (UnpackedFloat)
open Float.Model.UnpackedFloat (Sign roundWithAccuracy)

/-- The parts are those of a natural number, which has fifty-three bits or is zero. -/
def Denotes (k : Nat) : UnpackedFloat → Prop
  | .zero .positive => k = 0
  | .finite .positive m e _ => m.log2 = 52 ∧ (m : ℚ) * 2 ^ e = k
  | _ => False

theorem Denotes.cases {k : Nat} {u : UnpackedFloat} (h : Denotes k u) :
    k = 0 ∧ u = .zero .positive
      ∨ ∃ m e hm, u = .finite .positive m e hm ∧ m.log2 = 52 ∧ (m : ℚ) * 2 ^ e = k := by
  match u, h with
  | .zero .positive, h => exact .inl ⟨h, rfl⟩
  | .finite .positive m e hm, h => exact .inr ⟨m, e, hm, rfl, h⟩

section

variable {m k : Nat} {e : ℤ} (hvalue : (m : ℚ) * 2 ^ e = k)

include hvalue

theorem pos_of_value (hm : 0 < m) : 0 < k := by
  have hpos : (0 : ℚ) < k := by
    rw [← hvalue]
    positivity
  exact_mod_cast hpos

/-- Where the last place of an integer of fifty-three bits can stand. -/
theorem last_place (hm : 0 < m) (hlog : m.log2 = 52) (hk : k ≤ 2 ^ 53) : -52 ≤ e ∧ e ≤ 1 := by
  have hlow : (2 : ℚ) ^ (52 : ℤ) ≤ m := by
    exact_mod_cast hlog ▸ Nat.log2_self_le hm.ne'
  have hhigh : (m : ℚ) < 2 ^ (53 : ℤ) := by
    exact_mod_cast hlog ▸ Nat.lt_log2_self (n := m)
  have hone : (1 : ℚ) ≤ k := by exact_mod_cast pos_of_value hvalue hm
  have htop : (k : ℚ) ≤ 2 ^ (53 : ℤ) := by exact_mod_cast hk
  have hpower : (0 : ℚ) < 2 ^ e := by positivity
  constructor
  · have hless : (2 : ℚ) ^ (0 : ℤ) < 2 ^ (53 + e) := by
      rw [zpow_zero, zpow_add₀ two_ne_zero]
      exact hone.trans_lt (hvalue ▸ mul_lt_mul_of_pos_right hhigh hpower)
    have := (zpow_lt_zpow_iff_right₀ one_lt_two).1 hless
    omega
  · have hle : (2 : ℚ) ^ (52 + e) ≤ 2 ^ (53 : ℤ) := by
      rw [zpow_add₀ two_ne_zero]
      exact (mul_le_mul_of_nonneg_right hlow hpower.le).trans (hvalue ▸ htop)
    have := (zpow_le_zpow_iff_right₀ one_lt_two).1 hle
    omega

theorem representable_mantissa (hk : Representable k) : Representable m := by
  obtain ⟨a, rfl | rfl⟩ := e.eq_nat_or_neg
  · refine hk.of_scaled (a := a) (b := 0) ?_
    rw [zpow_natCast] at hvalue
    exact_mod_cast (by simpa using hvalue : (m : ℚ) * 2 ^ a = k * 2 ^ 0)
  · refine hk.of_scaled (a := 0) (b := a) ?_
    rw [zpow_neg, zpow_natCast, mul_inv_eq_iff_eq_mul₀ (by positivity)] at hvalue
    exact_mod_cast (by simpa using hvalue : (m : ℚ) * 2 ^ 0 = k * 2 ^ a)

/-- **An integer of fifty-three bits is not changed by rounding**, however long the mantissa is that
it is given with. -/
theorem Denotes.round (hlog : 52 ≤ m.log2) (hk : k ≤ 2 ^ 53) :
    Denotes k (roundWithAccuracy .binary64 .positive m e .exact) := by
  have hmantissa := representable_mantissa hvalue (.of_le hk)
  obtain ⟨r, j, hr, hrlog, hmr⟩ := hmantissa.split hlog
  have hvalue' : (r : ℚ) * 2 ^ (e + j) = k := by
    rw [← hvalue, hmr, zpow_add₀ two_ne_zero, zpow_natCast]
    push_cast
    ring
  have hplace := last_place hvalue' hr hrlog hk
  rw [hmr, round_exact .positive hrlog hr j (by omega)]
  exact ⟨hrlog, hvalue'⟩

end

variable {k l : Nat} {u v : UnpackedFloat}

theorem Denotes.settle (h : Denotes k u) (hk : k ≤ 2 ^ 53) : settle u = u := by
  rcases h.cases with ⟨-, rfl⟩ | ⟨m, e, hm, rfl, hlog, hvalue⟩
  · rfl
  · have hplace := last_place hvalue hm hlog hk
    exact settle_normal hlog (by omega) (by omega)

theorem Denotes.mul (hu : Denotes k u) (hv : Denotes l v) (h : k * l ≤ 2 ^ 53) :
    Denotes (k * l) (UnpackedFloat.mul .binary64 u v) := by
  rcases hu.cases with ⟨rfl, rfl⟩ | ⟨m, e, hm, rfl, hlog, hvalue⟩
  · rw [Nat.zero_mul]
    rcases hv.cases with ⟨-, rfl⟩ | ⟨m', e', hm', rfl, -, -⟩ <;> rfl
  · rcases hv.cases with ⟨rfl, rfl⟩ | ⟨m', e', hm', rfl, hlog', hvalue'⟩
    · rfl
    · have hproduct : ((m * m' : Nat) : ℚ) * 2 ^ (e + e') = (k * l : Nat) := by
        rw [zpow_add₀ two_ne_zero, Nat.cast_mul, Nat.cast_mul, ← hvalue, ← hvalue']
        ring
      have hlong := (log2_mul hm hm').1
      exact Denotes.round hproduct (by omega) h

theorem Denotes.add (hu : Denotes k u) (hv : Denotes l v) (h : k + l ≤ 2 ^ 53) :
    Denotes (k + l) (UnpackedFloat.add .binary64 u v) := by
  rcases hu.cases with ⟨rfl, rfl⟩ | ⟨m, e, hm, rfl, hlog, hvalue⟩
  · rw [Nat.zero_add]
    rcases hv.cases with ⟨rfl, rfl⟩ | ⟨m', e', hm', rfl, hv'⟩
    · rfl
    · exact hv'
  · rcases hv.cases with ⟨rfl, rfl⟩ | ⟨m', e', hm', rfl, hlog', hvalue'⟩
    · exact ⟨hlog, hvalue⟩
    · -- Both mantissas are brought to the lower of the last places before they are added.
      obtain ⟨a, ha⟩ : ∃ a, (e - min e e').toNat = a := ⟨_, rfl⟩
      obtain ⟨b, hb⟩ : ∃ b, (e' - min e e').toNat = b := ⟨_, rfl⟩
      have hshifted : 52 ≤ (m <<< a + m' <<< b).log2 := by
        have hlonger := log2_mono (Nat.le_add_right (m <<< a) (m' <<< b))
        rw [log2_shiftLeft hm] at hlonger
        omega
      have htotal : ((m <<< a + m' <<< b : Nat) : ℚ) * 2 ^ min e e' = (k + l : Nat) := by
        rw [Nat.shiftLeft_eq, Nat.shiftLeft_eq]
        push_cast
        rw [add_mul, mul_assoc, mul_assoc, ← zpow_natCast, ← zpow_natCast, ← zpow_add₀ two_ne_zero,
          ← zpow_add₀ two_ne_zero, show (a : ℤ) + min e e' = e by omega,
          show (b : ℤ) + min e e' = e' by omega, hvalue, hvalue']
      have hplace := last_place hvalue hm hlog (by omega)
      have hplace' := last_place hvalue' hm' hlog' (by omega)
      have hsum : UnpackedFloat.add .binary64 (.finite .positive m e hm)
            (.finite .positive m' e' hm')
          = UnpackedFloat.normalize .binary64 (m <<< a + m' <<< b : Nat) (min e e') .positive := by
        rw [← ha, ← hb]
        rfl
      rw [hsum, normalize_long hshifted (by omega)]
      exact Denotes.round htotal hshifted h

end Binary64

namespace Number

open Binary64
open Float.Model.UnpackedFloat (Sign)

/-- The number is a natural number. -/
def IsNatural (n : Number) (k : Nat) : Prop := Denotes k n.parts

theorem isNatural_ofNat {k : Nat} (hk : k ≤ 2 ^ 53) : (ofNat k).IsNatural k := by
  rcases Nat.eq_zero_or_pos k with rfl | hpos
  · rfl
  · obtain ⟨r, e, hr, hparts, hvalue, hlog, -⟩ :=
      parts_ofNat_exact hpos (by omega) (.of_le hk)
    rw [IsNatural, hparts]
    exact ⟨hlog, hvalue⟩

variable {a b : Number} {k l : Nat}

theorem IsNatural.mul (ha : a.IsNatural k) (hb : b.IsNatural l) (hk : k ≤ 2 ^ 53) (hl : l ≤ 2 ^ 53)
    (h : k * l ≤ 2 ^ 53) : (a * b).IsNatural (k * l) := by
  have hproduct := Denotes.mul ha hb h
  rw [IsNatural, parts_mul, Denotes.settle ha hk, Denotes.settle hb hl, hproduct.settle h]
  exact hproduct

theorem IsNatural.add (ha : a.IsNatural k) (hb : b.IsNatural l) (h : k + l ≤ 2 ^ 53) :
    (a + b).IsNatural (k + l) := by
  have hsum := Denotes.add ha hb h
  rw [IsNatural, parts_add, Denotes.settle ha (by omega), Denotes.settle hb (by omega),
    hsum.settle h]
  exact hsum

theorem fields_of_zero {n : Number} {s : Sign} (h : n.parts = .zero s) :
    n.isFinite = true ∧ n.sign = s ∧ n.significand = 0 := by
  rcases n.parts_cases with ⟨-, h' | h'⟩ | ⟨hfinite, ⟨hzero, h'⟩ | ⟨hm, h'⟩⟩
  all_goals
    rw [h'] at h
    injection h
  exact ⟨hfinite, by assumption, hzero⟩

theorem signed_of_positive {n : Number} (h : n.sign = .positive) : n.signed = false := by
  rw [sign] at h
  split at h
  · cases h
  · simp_all

/-- What is a natural number has its value. -/
theorem IsNatural.value_eq (h : a.IsNatural k) :
    a.isFinite = true ∧ a.signed = false ∧ a.value = k := by
  rcases Denotes.cases h with ⟨rfl, hparts⟩ | ⟨m, e, hm, hparts, -, hvalue⟩
  · obtain ⟨hfinite, hsign, hsignificand⟩ := fields_of_zero hparts
    refine ⟨hfinite, signed_of_positive hsign, ?_⟩
    rw [value, magnitude_eq, hsignificand, Nat.cast_zero, zero_mul, mul_zero]
  · obtain ⟨hfinite, hsign, hsignificand, hscale⟩ := fields_of_parts hparts
    have hsigned := signed_of_positive hsign
    refine ⟨hfinite, hsigned, ?_⟩
    rw [value, magnitude_eq, hsignificand, hscale, hsigned, hvalue]
    simp

end Number

end Calculator
