import Calculator.Proofs.Number.Integers

/-!
# The order of numbers

Numbers are compared as values, where the two zeros are the same, and sorted by the total order of
their encodings, where they are not. Both read the encoding without its sign (`magnitude`) as a
natural number: its exponent stands before its fraction, so a greater one is a greater value.

`lt_iff_place` and `same_iff` say this of all numbers but NaN, through the magnitude with its sign
(`place`), and `place_le_of_rank_le` says that the total order only refines the order of values.
It goes as far as it can: no two encodings have the same place in it (`rank_injective`).
-/

namespace Calculator.Number

open Binary64 (settle)
open Float.Model (UnpackedFloat)
open Float.Model.UnpackedFloat (Sign)

/-- The encoding without its sign. -/
def magnitude (n : Number) : Nat := (n.bits &&& magnitudeMask).toNat

/-- The magnitude with the sign, which zero has none of. -/
def place (n : Number) : Int := if n.signed then -n.magnitude else n.magnitude

/-! ## Magnitudes -/

theorem magnitude_eq_fields (n : Number) :
    n.magnitude = n.exponentField * 2 ^ 52 + n.fractionField := by
  have hmask : n.magnitude = n.bits.toNat % 2 ^ 63 := Nat.and_two_pow_sub_one_eq_mod _ 63
  have hexponent : n.exponentField = n.bits.toNat / 2 ^ 52 % 2 ^ 11 := rfl
  have hfraction : n.fractionField = n.bits.toNat % 2 ^ 52 := rfl
  omega

theorem fractionField_lt (n : Number) : n.fractionField < 2 ^ 52 :=
  Nat.mod_lt _ (Nat.two_pow_pos 52)

theorem exponentField_lt (n : Number) : n.exponentField < 2 ^ 11 :=
  Nat.mod_lt _ (Nat.two_pow_pos 11)

/-- The magnitude counts the places of the significand from the least exponent on. -/
theorem magnitude_eq_scaled (n : Number) :
    (n.magnitude : Int) = (n.scale + 1074) * 2 ^ 52 + n.significand := by
  rw [magnitude_eq_fields, scale, significand]
  split
  case isTrue hsubnormal => simp [hsubnormal]
  case isFalse =>
    show _ = _ + ((2 ^ 52 + n.fractionField : Nat) : Int)
    push_cast
    ring

/-- Only at the least exponent a significand is short. -/
theorem significand_ge (n : Number) :
    n.scale = -1074 ∨ -1074 < n.scale ∧ 2 ^ 52 ≤ n.significand := by
  rw [scale, significand]
  split
  case isTrue => exact .inl rfl
  case isFalse hnormal =>
    by_cases hone : n.exponentField = 1
    · exact .inl (by omega)
    · exact .inr ⟨by omega, Nat.le_add_right _ _⟩

theorem magnitude_lt_of_scale_lt {a b : Number} (h : a.scale < b.scale) :
    a.magnitude < b.magnitude := by
  have ha := a.magnitude_eq_scaled
  have hb := b.magnitude_eq_scaled
  have ha' := a.significand_lt
  rcases a.significand_ge with hleast | hleast
  · rcases b.significand_ge with hleast' | hleast' <;> omega
  · rcases b.significand_ge with hleast' | hleast' <;> omega

/-- Exponents are compared before significands, which is how magnitudes are compared. -/
theorem compare_fields (a b : Number) :
    (compare a.scale b.scale).then (compare a.significand b.significand)
      = compare a.magnitude b.magnitude := by
  rcases lt_trichotomy a.scale b.scale with h | h | h
  · rw [Int.compare_eq_lt.2 h, Nat.compare_eq_lt.2 (magnitude_lt_of_scale_lt h)]
    rfl
  · have ha := a.magnitude_eq_scaled
    have hb := b.magnitude_eq_scaled
    have hsame : compare a.significand b.significand = compare a.magnitude b.magnitude := by
      rcases lt_trichotomy a.significand b.significand with h' | h' | h'
      · rw [Nat.compare_eq_lt.2 h', Nat.compare_eq_lt.2 (by omega)]
      · rw [Nat.compare_eq_eq.2 h', Nat.compare_eq_eq.2 (by omega)]
      · rw [Nat.compare_eq_gt.2 h', Nat.compare_eq_gt.2 (by omega)]
    rw [Int.compare_eq_eq.2 h, hsame]
    rfl
  · rw [Int.compare_eq_gt.2 h, Nat.compare_eq_gt.2 (magnitude_lt_of_scale_lt h)]
    rfl

/-! ## Comparing parts -/

/-- The parts of a number that is not NaN, with its magnitude. -/
theorem parts_of_not_isNaN {n : Number} (h : n.isNaN = false) :
    n.parts = .infinity n.sign ∧ n.magnitude = 2047 * 2 ^ 52
      ∨ n.parts = .zero n.sign ∧ n.magnitude = 0
      ∨ ∃ hm, n.parts = .finite n.sign n.significand n.scale hm
        ∧ 0 < n.magnitude ∧ n.magnitude < 2047 * 2 ^ 52 := by
  have hmagnitude := n.magnitude_eq_fields
  have hfraction := n.fractionField_lt
  have hexponent := n.exponentField_lt
  rw [isNaN] at h
  rcases n.parts_cases with ⟨hfinite, hparts⟩ | ⟨hfinite, ⟨hzero, hparts⟩ | ⟨hm, hparts⟩⟩
  · have hspecial : n.exponentField = 2047 := by simpa [isFinite] using hfinite
    have hnone : n.fractionField = 0 := by simpa [hspecial] using h
    refine .inl ⟨hparts.resolve_right fun hnan => ?_, by omega⟩
    rw [parts, UnpackedFloat.unpack, if_pos (BitVec.eq_of_toNat_eq (n.exponentField_eq ▸ hspecial)),
      if_pos (BitVec.eq_of_toNat_eq (n.fractionField_eq ▸ hnone))] at hnan
    cases hnan
  · refine .inr (.inl ⟨hparts, ?_⟩)
    rw [significand] at hzero
    split at hzero
    case isTrue hsubnormal => omega
    case isFalse => exact absurd hzero (Nat.ne_of_gt (Nat.add_pos_left (Nat.two_pow_pos 52) _))
  · have hordinary : n.exponentField ≠ 2047 := by simpa [isFinite] using hfinite
    refine .inr (.inr ⟨hm, hparts, ?_, by omega⟩)
    rw [significand] at hm
    split at hm <;> omega

theorem settle_parts {n : Number} (h : n.isNaN = false) : settle n.parts = n.parts := by
  have hbits : @UnpackedFloat.isNaNBits .binary64 n.bits.toBitVec = false := by
    rw [UnpackedFloat.isNaNBits, decide_eq_false_iff_not]
    rintro ⟨hexponent, hfraction⟩
    have hspecial : n.exponentField = 2047 := by
      rw [exponentField_eq, hexponent]
      rfl
    have hsome : n.fractionField ≠ 0 := fun hzero =>
      hfraction (BitVec.eq_of_toNat_eq (n.fractionField_eq ▸ hzero))
    simp [isNaN, hspecial, hsome] at h
  rw [settle, parts, UnpackedFloat.pack_unpack, hbits]
  rfl

theorem compare_natCast (k l : Nat) : compare (k : Int) l = compare k l := by
  rcases lt_trichotomy k l with h | h | h
  · rw [Nat.compare_eq_lt.2 h, Int.compare_eq_lt.2 (by omega)]
  · rw [Nat.compare_eq_eq.2 h, Int.compare_eq_eq.2 (by omega)]
  · rw [Nat.compare_eq_gt.2 h, Int.compare_eq_gt.2 (by omega)]

theorem compare_neg_neg (k l : Int) : compare (-k) (-l) = (compare k l).swap := by
  rw [Int.compare_swap]
  rcases lt_trichotomy k l with h | h | h
  · rw [Int.compare_eq_gt.2 h, Int.compare_eq_gt.2 (by omega)]
  · rw [Int.compare_eq_eq.2 h.symm, Int.compare_eq_eq.2 (by omega)]
  · rw [Int.compare_eq_lt.2 h, Int.compare_eq_lt.2 (by omega)]

theorem compare_swap (u v : UnpackedFloat) :
    UnpackedFloat.compare v u = (UnpackedFloat.compare u v).map Ordering.swap := by
  rcases u with ⟨⟨⟩⟩ | _ | ⟨⟨⟩⟩ | ⟨⟨⟩, m, e, hm⟩ <;>
    rcases v with ⟨⟨⟩⟩ | _ | ⟨⟨⟩⟩ | ⟨⟨⟩, m', e', hm'⟩
  case finite.negative.finite.negative =>
    simp [UnpackedFloat.compare, Ordering.swap_then, Int.compare_swap, Nat.compare_swap]
  case finite.positive.finite.positive =>
    simp [UnpackedFloat.compare, Ordering.swap_then, Int.compare_swap, Nat.compare_swap]
  all_goals rfl

section

variable {a b : Number} (ha : a.isNaN = false) (hb : b.isNaN = false)

include ha hb

/-- A number with a sign is below a number without one, unless both are zero. -/
theorem compare_parts_of_signed (has : a.signed = true) (hbs : b.signed = false) :
    UnpackedFloat.compare a.parts b.parts = some (compare a.place b.place) := by
  have hplaces : a.place = -a.magnitude ∧ b.place = b.magnitude := by simp [place, has, hbs]
  have hsigns : a.sign = .negative ∧ b.sign = .positive := by simp [sign, has, hbs]
  rcases parts_of_not_isNaN ha with ⟨hpa, hma⟩ | ⟨hpa, hma⟩ | ⟨hm, hpa, hma, -⟩
  · rw [Int.compare_eq_lt.2 (by omega), hpa, hsigns.1]
    rcases parts_of_not_isNaN hb with ⟨hpb, -⟩ | ⟨hpb, -⟩ | ⟨hm', hpb, -⟩
    all_goals rw [hpb, hsigns.2]; rfl
  · rw [hpa]
    rcases parts_of_not_isNaN hb with ⟨hpb, hmb⟩ | ⟨hpb, hmb⟩ | ⟨hm', hpb, hmb, -⟩
    · rw [Int.compare_eq_lt.2 (by omega), hpb, hsigns.2]
      rfl
    · rw [Int.compare_eq_eq.2 (by omega), hpb]
      rfl
    · rw [Int.compare_eq_lt.2 (by omega), hpb, hsigns.2]
      rfl
  · rw [Int.compare_eq_lt.2 (by omega), hpa, hsigns.1]
    rcases parts_of_not_isNaN hb with ⟨hpb, -⟩ | ⟨hpb, -⟩ | ⟨hm', hpb, -⟩
    all_goals rw [hpb, hsigns.2]; rfl

/-- Of two numbers without sign the one of greater magnitude is greater, and of two with a sign the
other one. -/
theorem compare_parts_of_sign_eq (h : a.signed = b.signed) :
    UnpackedFloat.compare a.parts b.parts = some (compare a.place b.place) := by
  have hsign : a.sign = b.sign := by rw [sign, sign, h]
  have hplace : compare a.place b.place = if b.signed
      then (compare a.magnitude b.magnitude).swap else compare a.magnitude b.magnitude := by
    rw [place, place, h]
    split
    · rw [compare_neg_neg, compare_natCast]
    · rw [compare_natCast]
  rw [hplace]
  rcases parts_of_not_isNaN ha with ⟨hpa, hma⟩ | ⟨hpa, hma⟩ | ⟨hm, hpa, hma, hma'⟩
  · rcases parts_of_not_isNaN hb with ⟨hpb, hmb⟩ | ⟨hpb, hmb⟩ | ⟨hm', hpb, hmb, hmb'⟩
    · rw [hpa, hpb, hma, hmb, hsign, sign]
      cases b.signed <;> rfl
    · rw [hpa, hpb, hma, hmb, hsign, sign]
      cases b.signed <;> rfl
    · rw [hpa, hpb, hsign, Nat.compare_eq_gt.2 (by omega), sign]
      cases b.signed <;> rfl
  · rcases parts_of_not_isNaN hb with ⟨hpb, hmb⟩ | ⟨hpb, hmb⟩ | ⟨hm', hpb, hmb, hmb'⟩
    · rw [hpa, hpb, hma, hmb, hsign, sign]
      cases b.signed <;> rfl
    · rw [hpa, hpb, hma, hmb, hsign, sign]
      cases b.signed <;> rfl
    · rw [hpa, hpb, hsign, Nat.compare_eq_lt.2 (by omega), sign]
      cases b.signed <;> rfl
  · rcases parts_of_not_isNaN hb with ⟨hpb, hmb⟩ | ⟨hpb, hmb⟩ | ⟨hm', hpb, hmb, hmb'⟩
    · rw [hpa, hpb, hsign, Nat.compare_eq_lt.2 (by omega), sign]
      cases b.signed <;> rfl
    · rw [hpa, hpb, hsign, Nat.compare_eq_gt.2 (by omega), sign]
      cases b.signed <;> rfl
    · rw [hpa, hpb, hsign, ← compare_fields, sign]
      cases b.signed <;> rfl

/-- **Numbers are compared by their places.** -/
theorem compare_parts : UnpackedFloat.compare a.parts b.parts = some (compare a.place b.place) := by
  cases has : a.signed with
  | false =>
    cases hbs : b.signed with
    | false => exact compare_parts_of_sign_eq ha hb (has.trans hbs.symm)
    | true =>
      rw [compare_swap, compare_parts_of_signed hb ha hbs has, Option.map_some, Int.compare_swap]
  | true =>
    cases hbs : b.signed with
    | false => exact compare_parts_of_signed ha hb has hbs
    | true => exact compare_parts_of_sign_eq ha hb (has.trans hbs.symm)

end

theorem lt_iff_place {a b : Number} (ha : a.isNaN = false) (hb : b.isNaN = false) :
    a < b ↔ a.place < b.place := by
  rw [lt_iff, settle_parts ha, settle_parts hb, UnpackedFloat.lt, compare_parts ha hb,
    beq_iff_eq, Option.some_inj, Int.compare_eq_lt]

theorem same_iff {a b : Number} (ha : a.isNaN = false) (hb : b.isNaN = false) :
    a.same b = true ↔ a.place = b.place := by
  have hparts : a.same b = (settle a.parts).beq (settle b.parts) := rfl
  rw [hparts, settle_parts ha, settle_parts hb, UnpackedFloat.beq, compare_parts ha hb,
    beq_iff_eq, Option.some_inj, Int.compare_eq_eq]

theorem same_comm (a b : Number) : a.same b = b.same a := by
  show UnpackedFloat.beq (settle a.parts) (settle b.parts)
    = UnpackedFloat.beq (settle b.parts) (settle a.parts)
  rw [UnpackedFloat.beq, UnpackedFloat.beq, compare_swap (settle a.parts)]
  rcases UnpackedFloat.compare (settle a.parts) (settle b.parts) with _ | ⟨⟨⟩⟩ <;> rfl

/-! ## The total order -/

theorem rank_eq (n : Number) :
    n.rank = if n.signed then -1 - (n.magnitude : Int) else n.magnitude :=
  rfl

/-- What comes later in the total order is not less as a value. -/
theorem place_le_of_rank_le {a b : Number} (h : a.rank ≤ b.rank) : a.place ≤ b.place := by
  rw [rank_eq, rank_eq] at h
  rw [place, place]
  split_ifs at h ⊢ <;> omega

/-- The sign is the leading bit. -/
theorem signed_eq_decide (n : Number) : n.signed = decide (2 ^ 63 ≤ n.bits.toNat) := by
  have hbound := n.bits.toNat_lt
  rw [signed_eq, BitVec.getLsbD, Nat.testBit_eq_decide_div_mod_eq, UInt64.toNat_toBitVec]
  simp only [decide_eq_decide]
  omega

/-- **Every encoding has its own place in the total order.** -/
theorem rank_injective : Function.Injective rank := by
  intro a b h
  have hmask (n : Number) : n.magnitude = n.bits.toNat % 2 ^ 63 :=
    Nat.and_two_pow_sub_one_eq_mod _ 63
  have ha := a.bits.toNat_lt
  have hb := b.bits.toNat_lt
  have hbits : a.bits.toNat = b.bits.toNat := by
    simp only [rank_eq, signed_eq_decide, hmask, decide_eq_true_eq] at h
    split_ifs at h <;> omega
  exact congrArg Number.mk (UInt64.toNat_inj.1 hbits)

end Calculator.Number
