import Calculator.Proofs.Number.Integers
import Calculator.Proofs.Session.Evaluation

/-!
# Remainders

The remainder of two finite numbers is taken of their integer parts, after these are brought into
the range of integers (`saturate`). In that range it is the remainder of division toward zero, and
exact: fifty-three bits are enough for the remainder of two integers for which they are
(`tmod_saturate`). Beyond the range it is the remainder of other integers. Its sign is still right
then, and it is not beyond the right integer part, but it may be equal to that.
-/

namespace Calculator

/-! ## The range of integers -/

/-- An integer of 64 bits. -/
def InRange (k : ℤ) : Prop := minInteger ≤ k ∧ k ≤ maxInteger

instance (k : ℤ) : Decidable (InRange k) := inferInstanceAs (Decidable (_ ∧ _))

/-- An integer, or the bound that it is beyond. -/
def saturate (k : ℤ) : ℤ := max minInteger (min maxInteger k)

theorem saturate_of_inRange {k : ℤ} (h : InRange k) : saturate k = k := by
  simp only [InRange, saturate, minInteger, maxInteger] at h ⊢
  omega

theorem saturate_of_lt {k : ℤ} (h : k < minInteger) : saturate k = minInteger := by
  simp only [saturate, minInteger, maxInteger] at h ⊢
  omega

theorem saturate_of_gt {k : ℤ} (h : maxInteger < k) : saturate k = maxInteger := by
  simp only [saturate, minInteger, maxInteger] at h ⊢
  omega

theorem saturate_eq_zero_iff {k : ℤ} : saturate k = 0 ↔ k = 0 := by
  simp only [saturate, minInteger, maxInteger]
  omega

theorem sign_saturate (k : ℤ) : SignType.sign (saturate k) = SignType.sign k := by
  have hneg : saturate k < 0 ↔ k < 0 := by
    simp only [saturate, minInteger, maxInteger]
    omega
  have hpos : 0 < saturate k ↔ 0 < k := by
    simp only [saturate, minInteger, maxInteger]
    omega
  simp only [sign_apply, hneg, hpos]

theorem natAbs_saturate_le (k : ℤ) : (saturate k).natAbs ≤ k.natAbs := by
  simp only [saturate, minInteger, maxInteger]
  omega

theorem natAbs_saturate_lt (k : ℤ) : (saturate k).natAbs < 2 ^ 64 := by
  simp only [saturate, minInteger, maxInteger]
  omega

theorem Number.toInteger_eq {n : Number} (h : n.isFinite = true) :
    n.toInteger = saturate (truncate n.value) := by
  have hinfinite : n.isInfinite = false := by simp_all [isFinite, isInfinite]
  rw [toInteger, clampedInteger, isNaN_of_isFinite h, hinfinite, integerPart_eq]
  rfl

/-! ## Remainders of integers -/

theorem tmod_eq_self {a b : ℤ} (h : a.natAbs < b.natAbs) : a.tmod b = a := by
  have habs := Int.natAbs_tmod a b
  rw [Nat.mod_eq_of_lt h] at habs
  rcases Int.natAbs_eq a with ha | ha
  · have hsign := Int.tmod_nonneg b (show 0 ≤ a by omega)
    omega
  · have hsign := Int.tmod_nonneg b (show 0 ≤ -a by omega)
    rw [Int.neg_tmod] at hsign
    omega

theorem sign_tmod (a b : ℤ) : a.tmod b = 0 ∨ SignType.sign (a.tmod b) = SignType.sign a := by
  refine or_iff_not_imp_left.2 fun hzero => ?_
  rcases lt_trichotomy a 0 with h | rfl | h
  · have hle := Int.tmod_nonneg b (show 0 ≤ -a by omega)
    rw [Int.neg_tmod] at hle
    rw [sign_neg h, sign_neg (by omega)]
  · exact absurd (Int.zero_tmod b) hzero
  · have hle := Int.tmod_nonneg b h.le
    rw [sign_pos h, sign_pos (by omega)]

theorem natAbs_tmod_lt {a b : ℤ} (hb : b ≠ 0) : (a.tmod b).natAbs < b.natAbs := by
  rw [Int.natAbs_tmod]
  exact Nat.mod_lt _ (Int.natAbs_pos.2 hb)

theorem not_representable_maxInteger : ¬ Representable maxInteger.natAbs := by
  rintro ⟨m, i, hm, h⟩
  simp only [maxInteger] at h
  cases i with
  | zero => omega
  | succ i =>
    rw [Nat.pow_succ, ← Nat.mul_assoc] at h
    omega

/-- Beyond the range a bound stands for the right integer. It leaves nothing or one of the least
integer, which the right integer itself would leave as it is, or, if just beyond, divide. -/
theorem minInteger_tmod_saturate {b : ℤ} (hb : ¬ InRange b) :
    Representable (minInteger.tmod (saturate b)).natAbs
      ∧ minInteger.tmod (saturate b) ≠ minInteger.tmod b := by
  rcases lt_or_ge b minInteger with hlow | hlow
  · have hself : minInteger.tmod b = minInteger := by
      refine tmod_eq_self ?_
      simp only [minInteger] at hlow ⊢
      omega
    rw [saturate_of_lt hlow, Int.tmod_self, hself]
    exact ⟨.of_lt (by decide), by decide⟩
  · have hhigh : maxInteger < b := not_le.1 fun h => hb ⟨hlow, h⟩
    have hone : minInteger.tmod maxInteger = -1 := by decide
    rw [saturate_of_gt hhigh, hone]
    refine ⟨.of_lt (by decide), fun h => ?_⟩
    have habs := Int.natAbs_tmod minInteger b
    have hle : minInteger.natAbs ≤ b.natAbs := by
      simp only [minInteger, maxInteger] at hhigh ⊢
      omega
    rw [← h] at habs
    rcases Nat.lt_or_eq_of_le hle with hlt | heq
    · rw [Nat.mod_eq_of_lt hlt] at habs
      cases habs
    · rw [heq, Nat.mod_self] at habs
      cases habs

/-- **The remainder in the range of integers.** If the left integer is in range and has fifty-three
bits, so has the remainder, and it is that of the integers themselves. The one exception is the
least integer on the left of one that is out of range. -/
theorem tmod_saturate {a b : ℤ} (ha : InRange a) (hexact : Representable a.natAbs)
    (hexact' : Representable b.natAbs) :
    Representable ((saturate a).tmod (saturate b)).natAbs
      ∧ ((saturate a).tmod (saturate b) = a.tmod b ↔ (a = minInteger → InRange b)) := by
  have hmod : Representable (a.tmod b).natAbs := by
    rw [Int.natAbs_tmod]
    exact hexact.mod hexact'
  rw [saturate_of_inRange ha]
  by_cases hb : InRange b
  · rw [saturate_of_inRange hb]
    exact ⟨hmod, iff_of_true rfl fun _ => hb⟩
  by_cases hleast : a = minInteger
  · obtain ⟨hbits, hne⟩ := minInteger_tmod_saturate hb
    rw [hleast]
    exact ⟨hbits, iff_of_false hne fun h => hb (h rfl)⟩
  · -- The left integer is less than both bounds, as the greatest integer has more bits.
    have hgreatest : a.natAbs ≠ maxInteger.natAbs := fun h =>
      not_representable_maxInteger (h ▸ hexact)
    have hsmall : a.natAbs < (saturate b).natAbs := by
      simp only [InRange, saturate, minInteger, maxInteger] at *
      omega
    have hequal : a.tmod (saturate b) = a.tmod b := by
      rw [tmod_eq_self hsmall, tmod_eq_self (hsmall.trans_le (natAbs_saturate_le b))]
    rw [hequal]
    exact ⟨hmod, iff_of_true rfl fun h => absurd h hleast⟩

/-! ## Remainders of numbers -/

/-- What is known of the remainder `n` of two finite numbers. -/
structure Number.IsRemainder (l r n : Number) : Prop where
  finite : n.isFinite = true
  eq_ofInt : n = .ofInt ((saturate (truncate l.value)).tmod (saturate (truncate r.value)))
  sign : n.value = 0 ∨ SignType.sign n.value = SignType.sign l.value
  abs_le : |n.value| ≤ |(truncate r.value : ℚ)|
  value_iff : InRange (truncate l.value) →
    (n.value = truncate l.value - truncate r.value * (truncate l.value).tdiv (truncate r.value)
      ↔ (truncate l.value = minInteger → InRange (truncate r.value)))
  abs_lt : InRange (truncate l.value) → |n.value| < |(truncate r.value : ℚ)|

namespace Number

variable {l r : Number}

theorem representable_truncate (n : Number) : Representable (truncate n.value).natAbs := by
  rw [← integerPart_eq]
  exact representable_integerPart n

theorem natAbs_remainder_lt (a b : ℤ) : ((saturate a).tmod (saturate b)).natAbs < 2 ^ 64 := by
  rw [Int.natAbs_tmod]
  exact (Nat.mod_le _ _).trans_lt (natAbs_saturate_lt a)

theorem sign_remainder (q : ℚ) (b : ℤ) :
    (ofInt ((saturate (truncate q)).tmod (saturate b))).value = 0
      ∨ SignType.sign (ofInt ((saturate (truncate q)).tmod (saturate b))).value
        = SignType.sign q := by
  rcases sign_tmod (saturate (truncate q)) (saturate b) with hzero | hsign
  · rw [hzero]
    exact .inl ofInt_zero.2
  · by_cases hq : truncate q = 0
    · rw [saturate_eq_zero_iff.2 hq, Int.zero_tmod]
      exact .inl ofInt_zero.2
    · rw [sign_value_ofInt (natAbs_remainder_lt _ _), hsign, sign_saturate, sign_truncate hq]
      exact .inr rfl

theorem isRemainder (hr : truncate r.value ≠ 0) : l.IsRemainder r
    (.ofInt ((saturate (truncate l.value)).tmod (saturate (truncate r.value)))) := by
  have hsize := natAbs_remainder_lt (truncate l.value) (truncate r.value)
  have hless := (natAbs_tmod_lt (a := saturate (truncate l.value))
    (saturate_eq_zero_iff.not.2 hr)).trans_le (natAbs_saturate_le (truncate r.value))
  have hinRange (hrange : InRange (truncate l.value)) :=
    tmod_saturate hrange l.representable_truncate r.representable_truncate
  exact {
    finite := isFinite_ofInt hsize
    eq_ofInt := rfl
    sign := sign_remainder l.value _
    abs_le := by
      rw [← Int.cast_abs, ← Nat.cast_natAbs]
      exact abs_value_ofInt_le hsize r.representable_truncate hless.le
    value_iff := fun hrange => by
      obtain ⟨hbits, hsame⟩ := hinRange hrange
      rw [value_ofInt hsize hbits, ← hsame, Int.tmod_def (truncate l.value)]
      exact_mod_cast Iff.rfl
    abs_lt := fun hrange => by
      rw [value_ofInt hsize (hinRange hrange).1, ← Int.cast_abs, ← Int.cast_abs, Int.cast_lt,
        Int.abs_eq_natAbs, Int.abs_eq_natAbs]
      exact_mod_cast hless }

end Number

theorem BinaryOp.onNumbers_modulo {l r : Number} (hl : l.isFinite = true) (hr : r.isFinite = true) :
    BinaryOp.modulo.onNumbers l r = if |r.value| < 1 then .error .moduloByZero
      else .ok (.ofInt ((saturate (truncate l.value)).tmod (saturate (truncate r.value)))) := by
  have hfinite := Number.isFinite_ofInt
    (Number.natAbs_remainder_lt (truncate l.value) (truncate r.value))
  have hdefined (n : Number) (h : n.isFinite = true) : BinaryOp.modulo.defined n = .ok n := by
    rw [BinaryOp.defined, Number.isNaN_of_isFinite h]
    rfl
  simp only [BinaryOp.onNumbers, Number.toInteger_eq hl, Number.toInteger_eq hr,
    saturate_eq_zero_iff, truncate_eq_zero_iff, hdefined _ hfinite]

/-! ## Evaluation -/

namespace Expr

variable {left right : Expr} (span : Span) {s s₁ s₂ : Session}

/-- The operands are evaluated from the left, then the operation is applied. -/
theorem evaluate_binary {op : BinaryOp} {v w : Evaluation} (hleft : left.evaluate s = .ok v s₁)
    (hright : right.evaluate s₁ = .ok w s₂) :
    (binary op left right span).evaluate s
      = (orFailAt span (op.onValues s₂.places v.value w.value)).map .ofValue s₂ := by
  rw [evaluate, bind_of_ok hleft, bind_of_ok hright]
  rfl

/-- **The remainder of two finite numbers** fails where the right one is less than one, and there
only. Otherwise it is a finite number with the sign of the left one or none, and not beyond the
right one. It is the remainder of the integer parts where the left one is an integer of 64 bits,
unless that is the least one and the right one is out of range. -/
theorem evaluate_modulo {l r : Number} {a b : Bool}
    (hleft : left.evaluate s = .ok ⟨.number l, a⟩ s₁)
    (hright : right.evaluate s₁ = .ok ⟨.number r, b⟩ s₂) (hl : l.isFinite = true)
    (hr : r.isFinite = true) :
    ((binary .modulo left right span).evaluate s = .error { cause := .moduloByZero, span } s₂
        ↔ |r.value| < 1)
      ∧ (1 ≤ |r.value| → ∃ n, (binary .modulo left right span).evaluate s
          = .ok (.ofValue (.number n)) s₂ ∧ l.IsRemainder r n) := by
  rw [evaluate_binary span hleft hright, BinaryOp.onValues, BinaryOp.onNumbers_modulo hl hr]
  by_cases hless : |r.value| < 1
  · rw [if_pos hless]
    exact ⟨iff_of_true rfl hless, fun h => absurd hless (not_lt.2 h)⟩
  · rw [if_neg hless]
    refine ⟨iff_of_false (fun h => by cases h) hless, fun _ => ⟨_, rfl, Number.isRemainder ?_⟩⟩
    exact (truncate_eq_zero_iff _).not.2 hless

/-- The least integer has a remainder by minus one, although no quotient in range. -/
theorem evaluate_modulo_least :
    truncate (Number.value ⟨0xc3e0000000000000⟩) = minInteger
      ∧ truncate (Number.value ⟨0xbff0000000000000⟩) = -1
      ∧ ∃ n, (binary .modulo (.number ⟨0xc3e0000000000000⟩ ⟨0, 20⟩)
          (.number ⟨0xbff0000000000000⟩ ⟨23, 25⟩) ⟨0, 25⟩).evaluate {}
          = .ok (.ofValue (.number n)) {}
        ∧ Number.IsRemainder ⟨0xc3e0000000000000⟩ ⟨0xbff0000000000000⟩ n ∧ n.value = 0 := by
  have hl : truncate (Number.value ⟨0xc3e0000000000000⟩) = minInteger := by
    rw [← Number.integerPart_eq]
    decide +kernel
  have hr : truncate (Number.value ⟨0xbff0000000000000⟩) = -1 := by
    rw [← Number.integerPart_eq]
    decide +kernel
  have hone : 1 ≤ |Number.value ⟨0xbff0000000000000⟩| :=
    not_lt.1 ((truncate_eq_zero_iff _).not.1 (by rw [hr]; decide))
  have hleft : (number ⟨0xc3e0000000000000⟩ ⟨0, 20⟩).evaluate {}
      = .ok ⟨.number ⟨0xc3e0000000000000⟩, false⟩ {} := rfl
  have hright : (number ⟨0xbff0000000000000⟩ ⟨23, 25⟩).evaluate {}
      = .ok ⟨.number ⟨0xbff0000000000000⟩, false⟩ {} := rfl
  obtain ⟨n, hrun, hn⟩ := (evaluate_modulo ⟨0, 25⟩ hleft hright (by decide) (by decide)).2 hone
  have hvalue := hn.value_iff (by rw [hl]; decide)
  rw [hl, hr] at hvalue
  refine ⟨hl, hr, n, hrun, hn, ?_⟩
  rw [hvalue.2 fun _ => by decide]
  norm_num [minInteger]

/-- Of larger numbers it is not the remainder of the integer parts: ten quintillions leave seven
when they are divided by ten. -/
theorem evaluate_modulo_saturates :
    ¬ ∀ (l r : Number) (s : Session), l.isFinite = true → r.isFinite = true → 1 ≤ |r.value| →
      ∃ n, (binary .modulo (.number l ⟨0, 20⟩) (.number r ⟨23, 25⟩) ⟨0, 25⟩).evaluate s
          = .ok (.ofValue (.number n)) s
        ∧ n.value = truncate l.value
          - truncate r.value * (truncate l.value).tdiv (truncate r.value) := by
  intro h
  have hl : truncate (Number.value ⟨0x43e158e460913d00⟩) = 10000000000000000000 := by
    rw [← Number.integerPart_eq]
    decide +kernel
  have hr : truncate (Number.value ⟨0x4024000000000000⟩) = 10 := by
    rw [← Number.integerPart_eq]
    decide +kernel
  have hone : 1 ≤ |Number.value ⟨0x4024000000000000⟩| :=
    not_lt.1 ((truncate_eq_zero_iff _).not.1 (by rw [hr]; decide))
  have hseven : (binary .modulo (.number ⟨0x43e158e460913d00⟩ ⟨0, 20⟩)
      (.number ⟨0x4024000000000000⟩ ⟨23, 25⟩) ⟨0, 25⟩).evaluate {}
      = .ok (.ofValue (.number ⟨0x401c000000000000⟩)) {} := eq_ok_of_done? (by decide +kernel)
  have htruncate : truncate (Number.value ⟨0x401c000000000000⟩) = 7 := by
    rw [← Number.integerPart_eq]
    decide +kernel
  have hquotient : (10000000000000000000 : ℤ).tdiv 10 = 1000000000000000000 := rfl
  obtain ⟨n, hrun, hvalue⟩ :=
    h ⟨0x43e158e460913d00⟩ ⟨0x4024000000000000⟩ {} (by decide) (by decide) hone
  rw [hseven] at hrun
  cases hrun
  rw [hvalue, hl, hr, hquotient] at htruncate
  norm_num [truncate] at htruncate

end Expr

end Calculator
