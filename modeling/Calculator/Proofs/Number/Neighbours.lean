import Calculator.Proofs.Number.Order

/-!
# Numbers and their neighbours

Encodings without a sign are natural numbers, and the value of a number grows with its magnitude. So
the neighbour above a number has the next magnitude, in the same binade or not (`unitsAt_succ`), and
between the two stands the point half way (`halfway`). The points half way grow too, so the reals
that round to a number lie between two of them (`Covers`). A point half way belongs to the number of
even magnitude only: no real rounds to two numbers (`Covers.unique`).
-/

namespace Calculator.Number

/-- The value of a magnitude, counted in the least positive number. -/
def unitsAt (i : Nat) : Nat :=
  (if i / 2 ^ 52 = 0 then i % 2 ^ 52 else 2 ^ 52 + i % 2 ^ 52) * 2 ^ (i / 2 ^ 52 - 1)

/-- The last place of a magnitude, counted in the least positive number. -/
def stepAt (i : Nat) : Nat := 2 ^ (i / 2 ^ 52 - 1)

theorem stepAt_pos (i : Nat) : 0 < stepAt i := Nat.two_pow_pos _

/-- The next magnitude is one last place further, also where the exponent changes. -/
theorem unitsAt_succ (i : Nat) : unitsAt (i + 1) = unitsAt i + stepAt i := by
  rw [unitsAt, unitsAt, stepAt]
  by_cases hcarry : i % 2 ^ 52 + 1 = 2 ^ 52
  · have hexponent : (i + 1) / 2 ^ 52 = i / 2 ^ 52 + 1 := by omega
    have hfraction : (i + 1) % 2 ^ 52 = 0 := by omega
    rw [hexponent, hfraction, if_neg (Nat.succ_ne_zero _), Nat.add_sub_cancel]
    split
    case isTrue hzero => rw [hzero]; omega
    case isFalse hpos =>
      have hpower : 2 ^ (i / 2 ^ 52) = 2 * 2 ^ (i / 2 ^ 52 - 1) := by
        rw [← Nat.pow_succ']
        congr 1
        omega
      have hcarried : 2 ^ 52 + i % 2 ^ 52 + 1 = (2 ^ 52 + 0) * 2 := by omega
      rw [hpower, ← Nat.mul_assoc, ← hcarried, Nat.add_one_mul]
  · have hexponent : (i + 1) / 2 ^ 52 = i / 2 ^ 52 := by omega
    have hfraction : (i + 1) % 2 ^ 52 = i % 2 ^ 52 + 1 := by omega
    rw [hexponent, hfraction]
    split
    · rw [Nat.add_one_mul]
    · rw [← Nat.add_assoc, Nat.add_one_mul]

/-- The least positive number. -/
def least : ℚ := 2 ^ (-1074 : ℤ)

theorem least_pos : 0 < least := zpow_pos two_pos _

/-- The point half way from a magnitude to the next. -/
def halfway (i : Nat) : ℚ := (unitsAt i + stepAt i / 2) * least

theorem halfway_strictMono : StrictMono halfway := by
  refine strictMono_nat_of_lt_succ fun i => mul_lt_mul_of_pos_right ?_ least_pos
  have hstep : (0 : ℚ) < stepAt i := Nat.cast_pos.2 (stepAt_pos i)
  have hstep' : (0 : ℚ) < stepAt (i + 1) := Nat.cast_pos.2 (stepAt_pos (i + 1))
  rw [unitsAt_succ, Nat.cast_add]
  linarith

/-- The rational rounds to the magnitude `i`, which is not zero. -/
def Covers (i : Nat) (q : ℚ) : Prop :=
  if Even i then halfway (i - 1) ≤ q ∧ q ≤ halfway i else halfway (i - 1) < q ∧ q < halfway i

theorem covers_of_lt {i : Nat} {q : ℚ} (hlow : halfway (i - 1) < q) (hhigh : q < halfway i) :
    Covers i q := by
  unfold Covers
  split
  · exact ⟨hlow.le, hhigh.le⟩
  · exact ⟨hlow, hhigh⟩

theorem Covers.le {i : Nat} {q : ℚ} (h : Covers i q) : halfway (i - 1) ≤ q ∧ q ≤ halfway i := by
  unfold Covers at h
  split at h
  · exact h
  · exact ⟨h.1.le, h.2.le⟩

theorem Covers.even_of_end {i : Nat} {q : ℚ} (h : Covers i q)
    (hend : q = halfway (i - 1) ∨ q = halfway i) : Even i := by
  by_contra hodd
  rw [Covers, if_neg hodd] at h
  rcases hend with rfl | rfl
  · exact lt_irrefl _ h.1
  · exact lt_irrefl _ h.2

theorem Covers.pos {i : Nat} {q : ℚ} (h : Covers i q) : 0 < q := by
  have hstep : (0 : ℚ) < stepAt (i - 1) := Nat.cast_pos.2 (stepAt_pos (i - 1))
  exact lt_of_lt_of_le (mul_pos (by positivity) least_pos) h.le.1

/-- **No rational rounds to two magnitudes.** -/
theorem Covers.unique {i j : Nat} {q : ℚ} (hi : Covers i q) (hj : Covers j q) (hpos : 0 < i)
    (hpos' : 0 < j) : i = j := by
  by_contra hne
  wlog hlt : i < j generalizing i j
  · exact this hj hi hpos' hpos (Ne.symm hne) (by omega)
  -- The upper end of the one is not above the lower end of the other, so both are `q`.
  have hends : halfway i ≤ halfway (j - 1) := halfway_strictMono.monotone (by omega)
  have hhigh : q = halfway i := le_antisymm hi.le.2 (hends.trans hj.le.1)
  have hlow : q = halfway (j - 1) := le_antisymm (hi.le.2.trans hends) hj.le.1
  have hnext : i = j - 1 := halfway_strictMono.injective (hhigh.symm.trans hlow)
  have heven := hi.even_of_end (.inr hhigh)
  have heven' := hj.even_of_end (.inl hlow)
  rw [show j = i + 1 by omega] at heven'
  exact Nat.even_add_one.1 heven' heven

/-! ## The magnitude of a number -/

theorem exponentField_eq_div (n : Number) : n.magnitude / 2 ^ 52 = n.exponentField := by
  have hfields := n.magnitude_eq_fields
  have hfraction := n.fractionField_lt
  omega

theorem fractionField_eq_mod (n : Number) : n.magnitude % 2 ^ 52 = n.fractionField := by
  have hfields := n.magnitude_eq_fields
  have hfraction := n.fractionField_lt
  omega

theorem significand_mul_stepAt (n : Number) :
    n.significand * stepAt n.magnitude = unitsAt n.magnitude := by
  rw [unitsAt, stepAt, exponentField_eq_div, fractionField_eq_mod, significand]
  rfl

theorem scale_eq (n : Number) : n.scale = (n.magnitude / 2 ^ 52 - 1 : Nat) - 1074 := by
  rw [scale, exponentField_eq_div]
  split <;> omega

theorem even_magnitude_iff (n : Number) : Even n.magnitude ↔ n.significand % 2 = 0 := by
  have hscaled := n.magnitude_eq_scaled
  rw [Nat.even_iff]
  omega

theorem significand_pos {n : Number} (h : 0 < n.magnitude) : 0 < n.significand := by
  have hfields := n.magnitude_eq_fields
  rw [significand]
  split
  · omega
  · exact Nat.add_pos_left (Nat.two_pow_pos 52) _

/-- The last place of a number. -/
theorem stepAt_eq (n : Number) : (stepAt n.magnitude : ℚ) * least = 2 ^ n.scale := by
  rw [stepAt, least, scale_eq, Nat.cast_pow, Nat.cast_ofNat, ← zpow_natCast,
    ← zpow_add₀ two_ne_zero]
  rfl

/-- The neighbour above is one last place away. -/
theorem halfway_magnitude (n : Number) :
    halfway n.magnitude = (n.significand + 1 / 2) * 2 ^ n.scale := by
  rw [halfway, ← significand_mul_stepAt, ← stepAt_eq]
  push_cast
  ring

/-- The neighbour below is one last place away, or half of one below a power of two. -/
theorem halfway_below {n : Number} (h : 0 < n.magnitude) :
    halfway (n.magnitude - 1)
      = (n.significand - if n.fractionField = 0 ∧ 1 < n.exponentField then 1 / 4 else 1 / 2)
        * 2 ^ n.scale := by
  have hexponent := n.exponentField_eq_div
  have hfraction := n.fractionField_eq_mod
  have hunits := unitsAt_succ (n.magnitude - 1)
  rw [Nat.sub_add_cancel h, ← significand_mul_stepAt] at hunits
  have hunits' : (unitsAt (n.magnitude - 1) : ℚ)
      = n.significand * stepAt n.magnitude - stepAt (n.magnitude - 1) := by
    rw [eq_sub_iff_add_eq]
    exact_mod_cast hunits.symm
  rw [halfway, hunits', ← stepAt_eq]
  split
  case isTrue hpower =>
    have hhalf : stepAt n.magnitude = 2 * stepAt (n.magnitude - 1) := by
      rw [stepAt, stepAt, ← Nat.pow_succ']
      congr 1
      omega
    rw [hhalf]
    push_cast
    ring
  case isFalse hordinary =>
    have hsame : stepAt n.magnitude = stepAt (n.magnitude - 1) := by
      rw [stepAt, stepAt]
      congr 1
      omega
    rw [hsame]
    ring

theorem eq_of_magnitude_eq {a b : Number} (hsigned : a.signed = b.signed)
    (h : a.magnitude = b.magnitude) : a = b := by
  refine rank_injective ?_
  rw [rank_eq, rank_eq, hsigned, h]

end Calculator.Number
