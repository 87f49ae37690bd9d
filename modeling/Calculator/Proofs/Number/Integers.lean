import Calculator.Number.Exact
import Calculator.Proofs.Number.Classes

/-!
# Integers and numbers

A finite number is a rational (`Number.value`), and its integer part is that rational without its
fraction (`Number.integerPart_eq`). In the other direction an integer becomes the nearest number.
Nothing is lost where fifty-three bits are enough for it (`Representable`), as they are for the
integer part of every number.
-/

namespace Calculator

namespace Binary64

open Float.Model (UnpackedFloat Format totalExponent)
open Float.Model.UnpackedFloat (Sign ExtendedMantissa shiftToTargetExponent roundWithAccuracy)

/-! ## Mantissas that need no rounding -/

/-- Zeros at the end are cut without a trace. -/
theorem shiftRight_exact (r j : Nat) :
    (⟨r * 2 ^ j, false, false⟩ : ExtendedMantissa) >>> j = ⟨r, false, false⟩ := by
  induction j generalizing r with
  | zero =>
    rw [Nat.pow_zero, Nat.mul_one]
    rfl
  | succ j ih =>
    have hlast : (⟨r * 2 ^ (j + 1), false, false⟩ : ExtendedMantissa) >>> (j + 1)
        = ((⟨r * 2 * 2 ^ j, false, false⟩ : ExtendedMantissa) >>> j).shiftRightOne := by
      rw [Nat.pow_succ', Nat.mul_assoc]
      rfl
    rw [hlast, ih]
    simp [ExtendedMantissa.shiftRightOne]

/-- A mantissa of fifty-three bits and zeros behind them is cut to the fifty-three bits. -/
theorem shiftToTargetExponent_exact {r : Nat} (hlog : r.log2 = 52) (hr : 0 < r) (j : Nat) {e : Int}
    (he : -1074 ≤ e + j) :
    shiftToTargetExponent .binary64 (r * 2 ^ j) e .exact = (⟨r, false, false⟩, e + j) := by
  have hlong : (r * 2 ^ j).log2 = 52 + j := by
    rw [← Nat.shiftLeft_eq, log2_shiftLeft hr, hlog]
  have htarget : Format.targetExponent .binary64 (totalExponent (r * 2 ^ j) e) = e + j := by
    rw [targetExponent_long (by omega), hlong]
    push_cast
    omega
  have hshift : (e + j - e).toNat = j := by omega
  simp only [shiftToTargetExponent, UnpackedFloat.shiftToExponent, htarget, hshift,
    ExtendedMantissa.ofMantissaAndAccuracy, shiftRight_exact]

/-- **A mantissa of fifty-three bits and zeros behind them is not changed by rounding.** -/
theorem round_exact (sign : Sign) {r : Nat} (hlog : r.log2 = 52) (hr : 0 < r) (j : Nat) {e : Int}
    (he : -1074 ≤ e + j) :
    roundWithAccuracy .binary64 sign (r * 2 ^ j) e .exact = .finite sign r (e + j) hr := by
  have hcut := shiftToTargetExponent_exact hlog hr j he
  have hagain : shiftToTargetExponent .binary64 r (e + j) .exact = (⟨r, false, false⟩, e + j) := by
    simpa using shiftToTargetExponent_exact hlog hr 0 (e := e + j) (by simpa using he)
  have hrounded : ExtendedMantissa.roundedMantissa ⟨r, false, false⟩ = r := rfl
  rw [roundWithAccuracy, hcut]
  simp only [hrounded, hagain]
  rw [dif_neg (Nat.ne_of_gt hr)]

/-- An integer of at most fifty-three bits is brought to that length. -/
theorem normalize_short {k : Nat} (hpos : 0 < k) (hlog : k.log2 ≤ 52) :
    ∃ r, ∃ hr : 0 < r, UnpackedFloat.normalize .binary64 k 0 .positive
        = .finite .positive r (k.log2 - 52) hr
      ∧ r.log2 = 52 ∧ r = k * 2 ^ (52 - k.log2) := by
  have hr : 0 < k * 2 ^ (52 - k.log2) := Nat.mul_pos hpos (Nat.two_pow_pos _)
  have hlength : (k * 2 ^ (52 - k.log2)).log2 = 52 := by
    rw [← Nat.shiftLeft_eq, log2_shiftLeft hpos]
    omega
  have htarget : Format.targetExponent .binary64 (totalExponent k 0) = k.log2 - 52 := by
    rw [targetExponent_long (by omega), Int.add_zero]
  have hshift : (0 - ((k.log2 : Int) - 52)).toNat = 52 - k.log2 := by omega
  have hround := round_exact .positive hlength hr 0 (e := k.log2 - 52) (by omega)
  refine ⟨_, hr, ?_, hlength, rfl⟩
  rw [UnpackedFloat.normalize, Int.compare_eq_gt.2 (Int.natCast_pos.2 hpos)]
  simp only [UnpackedFloat.round, UnpackedFloat.decreaseExponent, Int.toNat_natCast, htarget,
    hshift, Nat.shiftLeft_eq]
  rw [Nat.pow_zero, Nat.mul_one] at hround
  rw [show (0 : Int) - (52 - k.log2 : Nat) = k.log2 - 52 by omega, hround]
  simp

end Binary64

/-! ## Integers of fifty-three bits -/

/-- Fifty-three bits and zeros behind them. -/
def Representable (k : Nat) : Prop := ∃ m i, m < 2 ^ 53 ∧ k = m * 2 ^ i

namespace Representable

theorem of_lt {k : Nat} (h : k < 2 ^ 53) : Representable k := ⟨k, 0, h, by simp⟩

/-- The remainder of two such integers has its zeros where one of them has. -/
theorem mod {a b : Nat} (ha : Representable a) (hb : Representable b) : Representable (a % b) := by
  obtain ⟨m, i, hm, rfl⟩ := ha
  obtain ⟨n, j, hn, rfl⟩ := hb
  rcases Nat.le_total i j with hij | hij
  · obtain ⟨d, rfl⟩ := Nat.exists_eq_add_of_le hij
    refine ⟨m % (n * 2 ^ d), i, Nat.lt_of_le_of_lt (Nat.mod_le _ _) hm, ?_⟩
    rw [Nat.pow_add, Nat.mul_comm (2 ^ i), ← Nat.mul_assoc, Nat.mul_mod_mul_right]
  · obtain ⟨d, rfl⟩ := Nat.exists_eq_add_of_le hij
    rw [Nat.pow_add, Nat.mul_comm (2 ^ j), ← Nat.mul_assoc, Nat.mul_mod_mul_right]
    by_cases hzero : n = 0
    · rw [hzero, Nat.mod_zero, Nat.mul_assoc, ← Nat.pow_add]
      exact ⟨m, d + j, hm, rfl⟩
    · exact ⟨m * 2 ^ d % n, j, Nat.lt_trans (Nat.mod_lt _ (Nat.pos_of_ne_zero hzero)) hn, rfl⟩

/-- A long one has its first fifty-three bits, and zeros behind them. -/
theorem leading {k : Nat} (h : Representable k) (hk : 2 ^ 53 ≤ k) :
    ∃ r j, 0 < r ∧ r.log2 = 52 ∧ k = r * 2 ^ j := by
  obtain ⟨m, i, hm, rfl⟩ := h
  have hpos : 0 < m := by
    refine Nat.pos_of_ne_zero fun hzero => ?_
    rw [hzero, Nat.zero_mul] at hk
    omega
  have hshort : m.log2 ≤ 52 := Nat.le_of_lt_succ ((Nat.log2_lt (Nat.ne_of_gt hpos)).2 hm)
  have hlong : 53 ≤ m.log2 + i := by
    rw [← Binary64.log2_shiftLeft hpos, Nat.shiftLeft_eq]
    exact (Nat.le_log2 (by omega)).2 hk
  obtain ⟨j, hj⟩ := Nat.exists_eq_add_of_le (show 52 - m.log2 ≤ i by omega)
  refine ⟨m * 2 ^ (52 - m.log2), j, Nat.mul_pos hpos (Nat.two_pow_pos _), ?_, ?_⟩
  · rw [← Nat.shiftLeft_eq, Binary64.log2_shiftLeft hpos]
    omega
  · rw [Nat.mul_assoc, ← Nat.pow_add, ← hj]

/-- Beyond `k` the next one is at a multiple of the last place of `k`. -/
theorem next_le {k b t : Nat} (hb : Representable b) (hk : 2 ^ (52 + t) ≤ k) (hlt : k < b) :
    (k / 2 ^ t + 1) * 2 ^ t ≤ b := by
  obtain ⟨m, i, hm, rfl⟩ := hb
  have hplace : t ≤ i := by
    by_contra h
    have hshort : m * 2 ^ i < 2 ^ (53 + i) := by
      rw [Nat.pow_add]
      exact Nat.mul_lt_mul_of_pos_right hm (Nat.two_pow_pos i)
    have hpower : 2 ^ (53 + i) ≤ 2 ^ (52 + t) := Nat.pow_le_pow_right (by decide) (by omega)
    omega
  obtain ⟨d, rfl⟩ := Nat.exists_eq_add_of_le hplace
  rw [Nat.pow_add, Nat.mul_comm (2 ^ t), ← Nat.mul_assoc] at hlt ⊢
  exact Nat.mul_le_mul_right _ (Nat.div_lt_of_lt_mul (by rwa [Nat.mul_comm]))

end Representable

/-! ## Numbers made from integers -/

namespace Number

open Binary64
open Float.Model (UnpackedFloat)
open Float.Model.UnpackedFloat (Sign)

theorem parts_ofNat_short {k : Nat} (h : k < 2 ^ 53) :
    (ofNat k).parts = settle (UnpackedFloat.mul .binary64
      (settle (UnpackedFloat.normalize .binary64 k 0 .positive))
      (.finite .positive (2 ^ 52) (-52) (by decide))) := by
  have hofNat : Float.ofNat k = k.toUInt64.toFloat * Float.ofBits 0x3ff0000000000000 := by
    show Float.ofScientific k false 0 = _
    rw [Float.ofScientific, dif_pos ⟨h, by decide⟩]
    rfl
  have hword : k.toUInt64.toNat = k := by
    rw [Nat.toUInt64, UInt64.toNat_ofNat']
    omega
  rw [ofNat, hofNat]
  show settle (UnpackedFloat.mul .binary64
    (settle (UnpackedFloat.normalize .binary64 k.toUInt64.toNat 0 .positive)) _) = _
  rw [hword]
  rfl

theorem parts_ofNat_long {k : Nat} (h : 2 ^ 53 ≤ k) :
    (ofNat k).parts = settle (UnpackedFloat.roundWithAccuracy .binary64 .positive (k * 2 ^ 53) (-53)
      .exact) := by
  have hk : k ≠ 0 := by omega
  show (Float.ofScientific k false 0).toModel.unpack = _
  rw [Float.ofScientific, dif_neg (fun hshort => by omega)]
  show settle (UnpackedFloat.ofScientific .binary64 k 0) = _
  rw [UnpackedFloat.ofScientific, dif_neg hk, if_neg (by decide), if_neg (by simp),
    if_pos (by decide)]
  show settle (UnpackedFloat.roundWithAccuracy .binary64 .positive (k <<< 53 * 1) (-53) .exact) = _
  rw [Nat.mul_one, Nat.shiftLeft_eq]

theorem parts_ofNat_exact {k : Nat} (hpos : 0 < k) (hk : k < 2 ^ 64) (hexact : Representable k) :
    ∃ r e, ∃ hr : 0 < r, (ofNat k).parts = .finite .positive r e hr ∧ (r : ℚ) * 2 ^ e = k
      ∧ r.log2 = 52 ∧ -52 ≤ e ∧ e ≤ 12 := by
  by_cases hshort : k < 2 ^ 53
  · have hlog : k.log2 ≤ 52 := Nat.le_of_lt_succ ((Nat.log2_lt (Nat.ne_of_gt hpos)).2 hshort)
    obtain ⟨r, hr, hnormal, hrlog, hrk⟩ := normalize_short hpos hlog
    have hproduct : UnpackedFloat.mul .binary64 (.finite .positive r (k.log2 - 52) hr)
        (.finite .positive (2 ^ 52) (-52) (by decide)) = .finite .positive r (k.log2 - 52) hr := by
      have hround := round_exact .positive hrlog hr 52 (e := k.log2 - 52 + -52) (by omega)
      rw [show (k.log2 : Int) - 52 + -52 + (52 : Nat) = k.log2 - 52 by omega] at hround
      exact hround
    refine ⟨r, k.log2 - 52, hr, ?_, ?_, hrlog, by omega, by omega⟩
    · rw [parts_ofNat_short hshort, hnormal, settle_normal hrlog (by omega) (by omega), hproduct,
        settle_normal hrlog (by omega) (by omega)]
    · have hsplit : (k.log2 : Int) - 52 = -((52 - k.log2 : Nat) : Int) := by omega
      rw [hrk, hsplit, zpow_neg, zpow_natCast]
      push_cast
      exact mul_inv_cancel_right₀ (by positivity) _
  · have hlong : 2 ^ 53 ≤ k := Nat.le_of_not_lt hshort
    obtain ⟨r, j, hr, hrlog, rfl⟩ := hexact.leading hlong
    have hj : 52 + j < 64 := by
      rw [← hrlog, ← log2_shiftLeft hr, Nat.shiftLeft_eq]
      exact (Nat.log2_lt (Nat.ne_of_gt hpos)).2 hk
    have hround := round_exact .positive hrlog hr (j + 53) (e := -53) (by omega)
    rw [Nat.pow_add, ← Nat.mul_assoc, show (-53 : Int) + (j + 53 : Nat) = j by omega] at hround
    refine ⟨r, j, hr, ?_, ?_, hrlog, by omega, by omega⟩
    · rw [parts_ofNat_long hlong, hround, settle_normal hrlog (by omega) (by omega)]
    · push_cast
      rfl

/-- What is rounded does not come beyond the next integer of fifty-three bits. -/
theorem parts_ofNat_rounded {k : Nat} (hlong : 2 ^ 53 ≤ k) (hk : k < 2 ^ 64) :
    ∃ r e, ∃ hr : 0 < r, (ofNat k).parts = .finite .positive r e hr
      ∧ (∀ b, Representable b → k < b → (r : ℚ) * 2 ^ e ≤ b)
      ∧ r.log2 = 52 ∧ -52 ≤ e ∧ e ≤ 12 := by
  have hzero : k ≠ 0 := by omega
  have hlow : 53 ≤ k.log2 := (Nat.le_log2 hzero).2 hlong
  have hhigh : k.log2 < 64 := (Nat.log2_lt hzero).2 hk
  obtain ⟨t, ht⟩ := Nat.exists_eq_add_of_le (show 52 ≤ k.log2 by omega)
  have hlog : (k * 2 ^ 53).log2 = 52 + t + 53 := by
    rw [← Nat.shiftLeft_eq, log2_shiftLeft (Nat.pos_of_ne_zero hzero), ht]
  obtain ⟨rounded, r, hr, hround, hup, hrounded, hcarry, hcut, hrlog⟩ :=
    round_eq .positive (m := k * 2 ^ 53) (e := -53) (by omega) (by omega)
  obtain ⟨c, hc⟩ := Nat.exists_eq_add_of_le hrounded
  have hlast : (rounded.log2 : Int) - 52 + ((k * 2 ^ 53).log2 - 52 + -53) = (c + t : Nat) := by
    omega
  have hkept : k * 2 ^ 53 / 2 ^ ((k * 2 ^ 53).log2 - 52) = k / 2 ^ t := by
    have hshift : (k * 2 ^ 53).log2 - 52 = t + 53 := by omega
    rw [hshift, Nat.pow_add, Nat.mul_div_mul_right _ _ (Nat.two_pow_pos 53)]
  rw [hlast] at hround
  rw [hkept] at hup
  refine ⟨r, (c + t : Nat), hr, ?_, fun b hb hlt => ?_, hrlog, by omega, by omega⟩
  · rw [parts_ofNat_long hlong, hround, settle_normal hrlog (by omega) (by omega)]
  · have hnext := hb.next_le (t := t) (ht ▸ Nat.log2_self_le hzero) hlt
    have hvalue : r * 2 ^ (c + t) ≤ b := calc
      r * 2 ^ (c + t) = r * 2 ^ c * 2 ^ t := by rw [Nat.pow_add, Nat.mul_assoc]
      _ ≤ rounded * 2 ^ t := by
        refine Nat.mul_le_mul_right _ ?_
        rw [hcut, show rounded.log2 - 52 = c by omega]
        exact Nat.div_mul_le_self _ _
      _ ≤ (k / 2 ^ t + 1) * 2 ^ t := Nat.mul_le_mul_right _ hup
      _ ≤ b := hnext
    rw [zpow_natCast]
    exact_mod_cast hvalue

/-- **An integer becomes a number of fifty-three bits**, which is the integer itself if these are
enough for it, and is not beyond any other for which they are. -/
theorem parts_ofNat {k : Nat} (hpos : 0 < k) (hk : k < 2 ^ 64) :
    ∃ r e, ∃ hr : 0 < r, (ofNat k).parts = .finite .positive r e hr
      ∧ (Representable k → (r : ℚ) * 2 ^ e = k)
      ∧ (∀ b, Representable b → k ≤ b → (r : ℚ) * 2 ^ e ≤ b)
      ∧ r.log2 = 52 ∧ -52 ≤ e ∧ e ≤ 12 := by
  by_cases hexact : Representable k
  · obtain ⟨r, e, hr, hparts, hvalue, hfields⟩ := parts_ofNat_exact hpos hk hexact
    refine ⟨r, e, hr, hparts, fun _ => hvalue, fun b _ hle => ?_, hfields⟩
    rw [hvalue]
    exact Nat.cast_le.2 hle
  · have hlong : 2 ^ 53 ≤ k := Nat.le_of_not_lt fun h => hexact (.of_lt h)
    obtain ⟨r, e, hr, hparts, hbound, hfields⟩ := parts_ofNat_rounded hlong hk
    refine ⟨r, e, hr, hparts, fun h => absurd h hexact, fun b hb hle => ?_, hfields⟩
    exact hbound b hb (Nat.lt_of_le_of_ne hle fun h => hexact (h ▸ hb))

theorem parts_ofInt {k : Int} (hzero : k ≠ 0) (hk : k.natAbs < 2 ^ 64) :
    ∃ r e, ∃ hr : 0 < r,
      (ofInt k).parts = .finite (if k < 0 then .negative else .positive) r e hr
      ∧ (Representable k.natAbs → (r : ℚ) * 2 ^ e = k.natAbs)
      ∧ (∀ b, Representable b → k.natAbs ≤ b → (r : ℚ) * 2 ^ e ≤ b) := by
  cases k with
  | ofNat k =>
    obtain ⟨r, e, hr, hparts, hvalue, hbound, -⟩ := parts_ofNat (Int.natAbs_pos.2 hzero) hk
    refine ⟨r, e, hr, ?_, hvalue, hbound⟩
    rw [if_neg (by simp)]
    exact hparts
  | negSucc k =>
    obtain ⟨r, e, hr, hparts, hvalue, hbound, hlog, hlow, hhigh⟩ := parts_ofNat (Nat.succ_pos k) hk
    refine ⟨r, e, hr, ?_, hvalue, hbound⟩
    rw [if_pos (Int.negSucc_lt_zero k)]
    show settle (UnpackedFloat.neg (ofNat (k + 1)).parts) = _
    rw [hparts]
    exact settle_normal hlog (by omega) (by omega)

/-! ## The fields of a number and its parts -/

/-- The sign that the sign bit says. -/
def sign (n : Number) : Sign := if n.signed then .negative else .positive

theorem signed_eq (n : Number) : n.signed = n.bits.toBitVec.getLsbD 63 := by
  have hmask : (n.bits &&& signBit).toBitVec
      = if n.bits.toBitVec.getLsbD 63 then BitVec.twoPow 64 63 else 0#64 :=
    BitVec.and_twoPow n.bits.toBitVec 63
  rw [signed]
  cases hbit : n.bits.toBitVec.getLsbD 63 with
  | false =>
    rw [hbit] at hmask
    have hzero : n.bits &&& signBit = 0 := UInt64.toBitVec_inj.1 hmask
    rw [hzero]
    rfl
  | true =>
    rw [hbit] at hmask
    have hone : n.bits &&& signBit = signBit := UInt64.toBitVec_inj.1 hmask
    rw [hone]
    rfl

theorem unpackSign_eq (b : BitVec 64) :
    @UnpackedFloat.unpackSign .binary64 b = BitVec.ofBool (b.getLsbD 63) := by
  ext i hi
  obtain rfl : i = 0 := by omega
  simp [UnpackedFloat.unpackSign, ← BitVec.getLsbD_eq_getElem]

theorem ofBitVec_unpackSign (n : Number) :
    Sign.ofBitVec (@UnpackedFloat.unpackSign .binary64 n.bits.toBitVec) = n.sign := by
  rw [unpackSign_eq, sign, signed_eq]
  cases n.bits.toBitVec.getLsbD 63 <;> rfl

theorem toNat_significand {f : BitVec 52} : (1#1 ++ f).toNat = 2 ^ 52 + f.toNat := by
  rw [BitVec.toNat_append, ← Nat.shiftLeft_add_eq_or_of_lt f.isLt, Nat.shiftLeft_eq]
  simp

theorem isNaN_of_isFinite {n : Number} (h : n.isFinite = true) : n.isNaN = false := by
  simp_all [isFinite, isNaN]

/-- What a number is taken apart into. -/
theorem parts_cases (n : Number) :
    n.isFinite = false ∧ (n.parts = .infinity n.sign ∨ n.parts = .notANumber)
    ∨ n.isFinite = true ∧ (n.significand = 0 ∧ n.parts = .zero n.sign
      ∨ ∃ hm, n.parts = .finite n.sign n.significand n.scale hm) := by
  have hexponent := n.exponentField_eq
  have hfraction := n.fractionField_eq
  have hfinite {m m' : Nat} {e e' : Int} {hm : 0 < m} {hm' : 0 < m'} (h : m = m') (h' : e = e') :
      UnpackedFloat.finite n.sign m e hm = .finite n.sign m' e' hm' := by
    subst h h'
    rfl
  rw [parts, UnpackedFloat.unpack, ofBitVec_unpackSign]
  by_cases hspecial : n.exponentField = 2047
  · have hones : @UnpackedFloat.unpackExponent .binary64 n.bits.toBitVec = -1#11 :=
      BitVec.eq_of_toNat_eq (hexponent.symm.trans hspecial)
    refine .inl ⟨by simp [isFinite, hspecial], ?_⟩
    rw [if_pos hones]
    split
    · exact .inl rfl
    · exact .inr rfl
  · have hones : @UnpackedFloat.unpackExponent .binary64 n.bits.toBitVec ≠ -1#11 := fun h =>
      hspecial (hexponent.trans (congrArg BitVec.toNat h))
    refine .inr ⟨by simp [isFinite, hspecial], ?_⟩
    rw [if_neg hones, significand, scale]
    by_cases hsubnormal : n.exponentField = 0
    · have hzeros : @UnpackedFloat.unpackExponent .binary64 n.bits.toBitVec = 0#11 :=
        BitVec.eq_of_toNat_eq (hexponent.symm.trans hsubnormal)
      rw [if_pos hzeros, if_pos hsubnormal, if_pos hsubnormal]
      split
      case isTrue hzero => exact .inl ⟨hfraction.trans (congrArg BitVec.toNat hzero), rfl⟩
      case isFalse hzero =>
        refine .inr ⟨?_, hfinite hfraction.symm ?_⟩
        · rw [hfraction]
          exact Nat.pos_of_ne_zero fun h => hzero (BitVec.eq_of_toNat_eq h)
        · rw [← hexponent, hsubnormal]
          rfl
    · have hzeros : @UnpackedFloat.unpackExponent .binary64 n.bits.toBitVec ≠ 0#11 := fun h =>
        hsubnormal (hexponent.trans (congrArg BitVec.toNat h))
      rw [if_neg hzeros, if_neg hsubnormal, if_neg hsubnormal]
      refine .inr ⟨?_, hfinite ?_ ?_⟩
      · exact Nat.add_pos_left (Nat.two_pow_pos 52) _
      · rw [hfraction]
        exact toNat_significand
      · rw [← hexponent]
        rfl

theorem fields_of_parts {n : Number} {sign : Sign} {m : Nat} {e : Int} {hm : 0 < m}
    (h : n.parts = .finite sign m e hm) :
    n.isFinite = true ∧ n.sign = sign ∧ n.significand = m ∧ n.scale = e := by
  rcases n.parts_cases with ⟨-, h' | h'⟩ | ⟨hfinite, ⟨-, h'⟩ | ⟨hm', h'⟩⟩
  · rw [h'] at h
    cases h
  · rw [h'] at h
    cases h
  · rw [h'] at h
    cases h
  · rw [h'] at h
    injection h with hsign hmantissa hexponent
    exact ⟨hfinite, hsign, hmantissa, hexponent⟩

/-! ## The rational that a number is -/

/-- The value of a finite number. -/
def value (n : Number) : ℚ := (if n.signed then -1 else 1) * (n.numerator / n.denominator)

theorem magnitude_eq (n : Number) :
    (n.numerator : ℚ) / n.denominator = n.significand * 2 ^ n.scale := by
  have hpower (k : Nat) : (powerOfTwo k : ℚ) = 2 ^ k := by
    rw [show powerOfTwo k = 2 ^ k from rfl]
    push_cast
    rfl
  rw [numerator, denominator, Nat.cast_mul, hpower, hpower, mul_div_assoc]
  congr 1
  obtain ⟨k, hk | hk⟩ := n.scale.eq_nat_or_neg
  · simp [hk]
  · simp [hk]

theorem ofInt_zero : (ofInt 0).isFinite = true ∧ (ofInt 0).value = 0 := by
  have hsignificand : (ofInt 0).significand = 0 := by decide +kernel
  refine ⟨by decide +kernel, ?_⟩
  rw [value, magnitude_eq, hsignificand, Nat.cast_zero, zero_mul, mul_zero]

/-- An integer other than zero becomes a number of its sign, and of its value if fifty-three bits
are enough. -/
theorem ofInt_nonzero {k : Int} (hzero : k ≠ 0) (hk : k.natAbs < 2 ^ 64) :
    (ofInt k).isFinite = true ∧ ∃ x : ℚ, 0 < x ∧ (ofInt k).value = (if k < 0 then -1 else 1) * x
      ∧ (Representable k.natAbs → x = k.natAbs)
      ∧ (∀ b, Representable b → k.natAbs ≤ b → x ≤ b) := by
  obtain ⟨r, e, hr, hparts, hvalue, hbound⟩ := parts_ofInt hzero hk
  obtain ⟨hfinite, hsign, hsignificand, hscale⟩ := fields_of_parts hparts
  have hsigned : (ofInt k).signed = true ↔ k < 0 := by
    rw [sign] at hsign
    split at hsign <;> split at hsign <;> simp_all
  refine ⟨hfinite, r * 2 ^ e, by positivity, ?_, hvalue, hbound⟩
  rw [value, magnitude_eq, hsignificand, hscale]
  simp only [hsigned]

theorem isFinite_ofInt {k : Int} (hk : k.natAbs < 2 ^ 64) : (ofInt k).isFinite = true := by
  by_cases hzero : k = 0
  · rw [hzero]
    exact ofInt_zero.1
  · exact (ofInt_nonzero hzero hk).1

theorem value_ofInt {k : Int} (hk : k.natAbs < 2 ^ 64) (hexact : Representable k.natAbs) :
    (ofInt k).value = k := by
  by_cases hzero : k = 0
  · rw [hzero]
    exact ofInt_zero.2
  · obtain ⟨-, x, -, hvalue, hx, -⟩ := ofInt_nonzero hzero hk
    rw [hvalue, hx hexact, Nat.cast_natAbs, Int.cast_abs]
    split
    case isTrue h => rw [abs_of_neg (Int.cast_lt_zero.2 h), neg_one_mul, neg_neg]
    case isFalse h => rw [abs_of_nonneg (Int.cast_nonneg (not_lt.1 h)), one_mul]

theorem abs_value_ofInt_le {k : Int} (hk : k.natAbs < 2 ^ 64) {b : Nat} (hb : Representable b)
    (hle : k.natAbs ≤ b) : |(ofInt k).value| ≤ b := by
  by_cases hzero : k = 0
  · rw [hzero, ofInt_zero.2, abs_zero]
    exact Nat.cast_nonneg b
  · obtain ⟨-, x, hpos, hvalue, -, hbound⟩ := ofInt_nonzero hzero hk
    have habs : |(ofInt k).value| = x := by
      rw [hvalue, abs_mul, abs_of_pos hpos]
      split <;> simp
    rw [habs]
    exact hbound b hb hle

theorem sign_value_ofInt {k : Int} (hk : k.natAbs < 2 ^ 64) :
    SignType.sign (ofInt k).value = SignType.sign k := by
  rcases lt_trichotomy k 0 with h | h | h
  · obtain ⟨-, x, hpos, hvalue, -⟩ := ofInt_nonzero (ne_of_lt h) hk
    rw [hvalue, if_pos h, sign_neg h, sign_neg (by linarith)]
  · rw [h, ofInt_zero.2, sign_zero, sign_zero]
  · obtain ⟨-, x, hpos, hvalue, -⟩ := ofInt_nonzero (ne_of_gt h) hk
    rw [hvalue, if_neg (not_lt.2 h.le), sign_pos h, sign_pos (by linarith)]

end Number

/-! ## Integer parts -/

/-- A rational without its fraction. -/
def truncate (q : ℚ) : ℤ := if q < 0 then ⌈q⌉ else ⌊q⌋

theorem truncate_neg (q : ℚ) : truncate (-q) = -truncate q := by
  rcases lt_trichotomy q 0 with h | h | h
  · rw [truncate, truncate, if_neg (by linarith), if_pos h, Int.floor_neg]
  · simp [truncate, h]
  · rw [truncate, truncate, if_pos (by linarith), if_neg (by linarith), Int.ceil_neg]

theorem truncate_eq_zero_iff (q : ℚ) : truncate q = 0 ↔ |q| < 1 := by
  rw [truncate]
  split
  case isTrue h =>
    rw [Int.ceil_eq_zero_iff, abs_of_neg h, Set.mem_Ioc]
    constructor
    · rintro ⟨hlow, -⟩
      linarith
    · intro hlow
      exact ⟨by linarith, h.le⟩
  case isFalse h =>
    rw [Int.floor_eq_zero_iff, abs_of_nonneg (not_lt.1 h), Set.mem_Ico]
    exact and_iff_right (not_lt.1 h)

theorem sign_truncate {q : ℚ} (h : truncate q ≠ 0) :
    SignType.sign (truncate q) = SignType.sign q := by
  rw [truncate] at h ⊢
  split
  case isTrue hq =>
    rw [if_pos hq] at h
    have hceil : ⌈q⌉ ≤ 0 := Int.ceil_nonpos.2 hq.le
    rw [sign_neg hq, sign_neg (lt_of_le_of_ne hceil h)]
  case isFalse hq =>
    rw [if_neg hq] at h
    have hfloor : 0 ≤ ⌊q⌋ := Int.floor_nonneg.2 (not_lt.1 hq)
    have hpos : 0 < ⌊q⌋ := lt_of_le_of_ne hfloor (Ne.symm h)
    rw [sign_pos hpos, sign_pos (Int.floor_pos.1 hpos |>.trans_lt' one_pos)]

namespace Number

theorem integerPart_eq (n : Number) : n.integerPart = truncate n.value := by
  have hwhole : ((n.numerator / n.denominator : Nat) : ℤ)
      = truncate (n.numerator / n.denominator) := by
    rw [truncate, if_neg (not_lt.2 (by positivity)), ← Int.natCast_floor_eq_floor (by positivity),
      Nat.floor_div_eq_div]
  rw [integerPart, value]
  split
  · rw [neg_one_mul, truncate_neg, ← hwhole]
  · rw [one_mul, ← hwhole]

theorem significand_lt (n : Number) : n.significand < 2 ^ 53 := by
  have hfraction : n.fractionField < 2 ^ 52 := Nat.mod_lt _ (Nat.two_pow_pos 52)
  rw [significand]
  split
  · omega
  · show 2 ^ 52 + n.fractionField < 2 ^ 53
    omega

/-- Fifty-three bits are enough for an integer part. -/
theorem representable_integerPart (n : Number) : Representable n.integerPart.natAbs := by
  have hwhole : n.integerPart.natAbs = n.numerator / n.denominator := by
    rw [integerPart]
    split
    · rw [Int.natAbs_neg, Int.natAbs_natCast]
    · rw [Int.natAbs_natCast]
  have hsignificand := n.significand_lt
  rw [hwhole, numerator, denominator]
  obtain ⟨k, hk | hk⟩ := n.scale.eq_nat_or_neg
  · refine ⟨n.significand, k, hsignificand, ?_⟩
    rw [hk, Int.toNat_natCast, Int.toNat_neg_natCast]
    exact Nat.div_one _
  · refine ⟨n.significand / 2 ^ k, 0, Nat.lt_of_le_of_lt (Nat.div_le_self _ _) hsignificand, ?_⟩
    rw [hk, Int.neg_neg, Int.toNat_natCast, Int.toNat_neg_natCast]
    simp [powerOfTwo]

end Number

end Calculator
