import Calculator.Number
import Calculator.Proofs.Number.Rounding

/-!
# Classes of numbers

Two classes that arithmetic keeps, told by the parts of a number:

* `Unsigned`: neither negative nor NaN, infinity included. Sums of unsigned numbers are unsigned,
  and so are their products and quotients where no zero meets an infinity.
* `AtLeastOne top`: from one on, with a last place of at most `2 ^ top`. Each operation says by how
  much `top` grows, so that a bounded number of operations does not run into infinity.

A number is stored after each operation (`settle`), where what is too large becomes infinite.
-/

namespace Calculator

namespace Binary64

open Float.Model (UnpackedFloat Format)
open Float.Model.UnpackedFloat (Sign packComponents roundWithAccuracy)

/-- Neither negative nor NaN. -/
def Unsigned : UnpackedFloat → Prop
  | .infinity .positive | .zero .positive | .finite .positive .. => True
  | _ => False

/-- From one on, with a last place of at most `2 ^ top`. -/
def AtLeastOne (top : Int) : UnpackedFloat → Prop
  | .finite .positive m e _ => m.log2 = 52 ∧ -52 ≤ e ∧ e ≤ top
  | _ => False

/-- Such a number is positive, with a full significand and an exponent within bounds. -/
theorem AtLeastOne.parts {top : Int} {u : UnpackedFloat} (h : AtLeastOne top u) :
    ∃ m e hm, u = .finite .positive m e hm ∧ m.log2 = 52 ∧ -52 ≤ e ∧ e ≤ top := by
  match u, h with
  | .finite .positive m e hm, h => exact ⟨m, e, hm, rfl, h⟩

/-- The bound may be raised. -/
theorem AtLeastOne.mono {a b : Int} {u : UnpackedFloat} (h : AtLeastOne a u) (hab : a ≤ b) :
    AtLeastOne b u := by
  obtain ⟨m, e, hm, rfl, hlog, hlow, hhigh⟩ := h.parts
  exact ⟨hlog, hlow, Int.le_trans hhigh hab⟩

theorem AtLeastOne.unsigned {top : Int} {u : UnpackedFloat} (h : AtLeastOne top u) :
    Unsigned u := by
  obtain ⟨m, e, hm, rfl, -⟩ := h.parts
  trivial

/-! ## Storing -/

/-- A result as it is stored: packed, and taken apart again. -/
def settle (u : UnpackedFloat) : UnpackedFloat :=
  UnpackedFloat.unpack .binary64 (UnpackedFloat.pack .binary64 u)

theorem sign_of_components {spec : Format} {sign : Sign}
    {exponent : BitVec spec.exponentBits} {mantissa : BitVec spec.mantissaBitsWithoutImplicit} :
    UnpackedFloat.unpackSign (packComponents spec sign exponent mantissa) = sign.toBitVec := by
  ext i hi
  obtain rfl : i = 0 := by omega
  simp [UnpackedFloat.unpackSign, packComponents, BitVec.getLsbD_append,
    BitVec.getLsbD_eq_getElem, BitVec.getElem_append]

theorem ofBitVec_toBitVec (sign : Sign) : Sign.ofBitVec sign.toBitVec = sign := by
  cases sign <;> rfl

theorem unsigned_unpack {exponent : BitVec 11} {mantissa : BitVec 52}
    (h : exponent = -1#11 → mantissa = 0#52) :
    Unsigned (UnpackedFloat.unpack .binary64
      (packComponents .binary64 .positive exponent mantissa)) := by
  simp only [UnpackedFloat.unpack, UnpackedFloat.unpackExponent_packComponents,
    UnpackedFloat.unpackMantissa_packComponents, sign_of_components, ofBitVec_toBitVec]
  by_cases hexponent : exponent = -1#11
  · rw [if_pos hexponent, if_pos (h hexponent)]
    trivial
  · rw [if_neg hexponent]
    split
    · split <;> trivial
    · trivial

/-- Packing and unpacking keep a number unsigned. -/
theorem unsigned_settle {u : UnpackedFloat} (h : Unsigned u) : Unsigned (settle u) := by
  unfold settle
  match u, h with
  | .infinity .positive, _ => exact unsigned_unpack fun _ => rfl
  | .zero .positive, _ => exact unsigned_unpack fun _ => rfl
  | .finite .positive m e hm, _ =>
    rw [UnpackedFloat.pack]
    split
    case isTrue => exact unsigned_unpack fun _ => rfl
    case isFalse hfits =>
      split
      · refine unsigned_unpack fun hexponent => ?_
        have hones := congrArg BitVec.toNat hexponent
        simp [BitVec.toNat_ofNat, Format.exponentBias] at hones hfits
        omega
      · exact unsigned_unpack fun hexponent => absurd hexponent (by decide)

/-- The bit that is not stored is put back. -/
theorem toNat_implicitBit {m : Nat} (hm : 0 < m) (hlog : m.log2 = 52) :
    (1#1 ++ BitVec.ofNat 52 m).toNat = m := by
  have hlow := Nat.log2_self_le (Nat.ne_of_gt hm)
  have hhigh : m < 2 ^ (m.log2 + 1) := Nat.lt_log2_self
  rw [hlog] at hlow hhigh
  rw [BitVec.toNat_append, ← Nat.shiftLeft_add_eq_or_of_lt (BitVec.isLt _), Nat.shiftLeft_eq,
    BitVec.toNat_ofNat, BitVec.toNat_ofNat]
  omega

/-- What is in range is stored as it is. -/
theorem settle_normal {sign : Sign} {m : Nat} {e : Int} {hm : 0 < m} (hlog : m.log2 = 52)
    (hlow : -1074 ≤ e) (hhigh : e ≤ 971) :
    settle (.finite sign m e hm) = .finite sign m e hm := by
  have hones : BitVec.ofNat 11 (e + 1023 + 52).toNat ≠ -1#11 := by
    intro h
    have := congrArg BitVec.toNat h
    simp [BitVec.toNat_ofNat] at this
    omega
  have hzeros : BitVec.ofNat 11 (e + 1023 + 52).toNat ≠ 0#11 := by
    intro h
    have := congrArg BitVec.toNat h
    simp [BitVec.toNat_ofNat] at this
    omega
  have hpack : UnpackedFloat.pack .binary64 (.finite sign m e hm)
      = packComponents .binary64 sign (BitVec.ofNat 11 (e + 1023 + 52).toNat)
        (BitVec.ofNat 52 m) := by
    simp only [UnpackedFloat.pack, Format.exponentBias, Format.mantissaBits, hlog]
    rw [if_neg (by omega), if_pos trivial]
    rfl
  rw [settle, hpack]
  simp only [UnpackedFloat.unpack, UnpackedFloat.unpackExponent_packComponents,
    UnpackedFloat.unpackMantissa_packComponents, sign_of_components, ofBitVec_toBitVec]
  rw [if_neg hones, if_neg hzeros]
  simp only [toNat_implicitBit hm hlog, BitVec.toNat_ofNat, Format.exponentBias]
  congr 1
  omega

/-- A number that is in range stays what it is when it is packed and unpacked. -/
theorem AtLeastOne.settle {top : Int} {u : UnpackedFloat} (h : AtLeastOne top u)
    (htop : top ≤ 971) : settle u = u := by
  obtain ⟨m, e, hm, rfl, hlog, hlow, hhigh⟩ := h.parts
  exact settle_normal hlog (by omega) (by omega)

/-- What is too large becomes infinite. -/
theorem settle_large {sign : Sign} {m : Nat} {e : Int} {hm : 0 < m} (he : 971 < e) :
    settle (.finite sign m e hm) = .infinity sign := by
  rw [Binary64.settle, UnpackedFloat.pack, if_pos]
  · cases sign <;> rfl
  · simp only [Format.exponentBias]
    omega

/-! ## Arithmetic from one on -/

/-- A product of two such numbers is one, with the exponents added. -/
theorem AtLeastOne.mul {a b : Int} {u v : UnpackedFloat} (hu : AtLeastOne a u)
    (hv : AtLeastOne b v) : AtLeastOne (a + b + 54) (UnpackedFloat.mul .binary64 u v) := by
  obtain ⟨m, e, hm, rfl, hlog, hlow, hhigh⟩ := hu.parts
  obtain ⟨m', e', hm', rfl, hlog', hlow', hhigh'⟩ := hv.parts
  obtain ⟨h₁, h₂⟩ := log2_mul hm hm'
  have hlast : (-1074 : Int) ≤ (m * m').log2 - 52 + (e + e') := by omega
  obtain ⟨r, last, hr, hround, hrlog, hlast₁, hlast₂⟩ := round_long .positive (by omega) hlast
  have hmul : UnpackedFloat.mul .binary64 (.finite .positive m e hm) (.finite .positive m' e' hm')
      = .finite .positive r last hr := hround
  rw [hmul]
  exact ⟨hrlog, by omega, by omega⟩

/-- A sum of two such numbers is one, a few binary places larger. -/
theorem AtLeastOne.add {a b c : Int} {u v : UnpackedFloat} (hu : AtLeastOne a u)
    (hv : AtLeastOne b v) (ha : a ≤ c) (hb : b ≤ c) :
    AtLeastOne (c + 2) (UnpackedFloat.add .binary64 u v) := by
  obtain ⟨m, e, hm, rfl, hlog, hlow, hhigh⟩ := hu.parts
  obtain ⟨m', e', hm', rfl, hlog', hlow', hhigh'⟩ := hv.parts
  -- Both mantissas are brought to the lower of the last places before they are added.
  obtain ⟨k, hk⟩ : ∃ k, (e - min e e').toNat = k := ⟨_, rfl⟩
  obtain ⟨k', hk'⟩ : ∃ k', (e' - min e e').toNat = k' := ⟨_, rfl⟩
  have h₁ := log2_shiftLeft hm k
  have h₂ := log2_shiftLeft hm' k'
  have h₃ := log2_mono (Nat.le_add_right (m <<< k) (m' <<< k'))
  have h₄ := log2_mono (Nat.le_add_left (m' <<< k') (m <<< k))
  have h₅ : (m <<< k + m' <<< k').log2 ≤ 52 + max k k' + 1 := log2_add (by omega) (by omega)
  have hlast : (-1074 : Int) ≤ (m <<< k + m' <<< k').log2 - 52 + min e e' := by omega
  obtain ⟨r, last, hr, hround, hrlog, hlast₁, hlast₂⟩ := round_long .positive (by omega) hlast
  have hsum : UnpackedFloat.add .binary64 (.finite .positive m e hm) (.finite .positive m' e' hm')
      = UnpackedFloat.normalize .binary64 (m <<< k + m' <<< k' : Nat) (min e e') .positive := by
    rw [← hk, ← hk']
    rfl
  rw [hsum, normalize_long (by omega) hlast, hround]
  exact ⟨hrlog, by omega, by omega⟩

/-! ## Unsigned arithmetic -/

/-- Rounding a positive number gives an unsigned one, infinity if it is too large. -/
theorem unsigned_round (m : Nat) (e : Int) (accuracy : UnpackedFloat.Accuracy) :
    Unsigned (roundWithAccuracy .binary64 .positive m e accuracy) := by
  unfold roundWithAccuracy
  dsimp only
  split <;> trivial

theorem Unsigned.add {u v : UnpackedFloat} (hu : Unsigned u) (hv : Unsigned v) :
    Unsigned (UnpackedFloat.add .binary64 u v) := by
  match u, v, hu, hv with
  | .infinity .positive, .infinity .positive, _, _ => trivial
  | .infinity .positive, .zero .positive, _, _ => trivial
  | .infinity .positive, .finite .positive .., _, _ => trivial
  | .zero .positive, .infinity .positive, _, _ => trivial
  | .zero .positive, .zero .positive, _, _ => trivial
  | .zero .positive, .finite .positive .., _, _ => trivial
  | .finite .positive .., .infinity .positive, _, _ => trivial
  | .finite .positive .., .zero .positive, _, _ => trivial
  | .finite .positive m e hm, .finite .positive m' e' hm', _, _ =>
    have hsum : UnpackedFloat.add .binary64 (.finite .positive m e hm) (.finite .positive m' e' hm')
        = UnpackedFloat.normalize .binary64
          (m <<< (e - min e e').toNat + m' <<< (e' - min e e').toNat : Nat) (min e e')
          .positive := rfl
    rw [hsum, UnpackedFloat.normalize]
    split
    case h_1 hneg => exact absurd (Int.compare_eq_lt.1 hneg) (Int.not_lt.2 (Int.natCast_nonneg _))
    case h_2 => trivial
    case h_3 => exact unsigned_round _ _ _

/-- No zero meets an infinity here, since the second factor is neither. -/
theorem Unsigned.mul {top : Int} {u v : UnpackedFloat} (hu : Unsigned u)
    (hv : AtLeastOne top v) : Unsigned (UnpackedFloat.mul .binary64 u v) := by
  obtain ⟨m', e', hm', rfl, -⟩ := hv.parts
  match u, hu with
  | .infinity .positive, _ => trivial
  | .zero .positive, _ => trivial
  | .finite .positive .., _ => exact unsigned_round _ _ _

/-! ## Large numbers -/

/-- Infinite, or from one on. -/
def Large (u : UnpackedFloat) : Prop := u = .infinity .positive ∨ ∃ top, AtLeastOne top u

theorem Large.settle {u : UnpackedFloat} (h : Large u) : Large (settle u) := by
  rcases h with rfl | ⟨top, h⟩
  · exact .inl rfl
  · obtain ⟨m, e, hm, rfl, hlog, hlow, hhigh⟩ := h.parts
    by_cases he : e ≤ 971
    · rw [settle_normal hlog (by omega) he]
      exact .inr ⟨top, h⟩
    · exact .inl (settle_large (by omega))

/-- What is large stays so when it is multiplied. -/
theorem Large.mul {top : Int} {u v : UnpackedFloat} (hu : Large u) (hv : AtLeastOne top v) :
    Large (UnpackedFloat.mul .binary64 u v) := by
  rcases hu with rfl | ⟨a, hu⟩
  · obtain ⟨m', e', hm', rfl, -⟩ := hv.parts
    exact .inl rfl
  · exact .inr ⟨_, hu.mul hv⟩

/-- What is finite can be divided by what is large. -/
theorem Unsigned.div_large {u v : UnpackedFloat} (hu : Unsigned u)
    (hfinite : u ≠ .infinity .positive) (hv : Large v) :
    Unsigned (UnpackedFloat.div .binary64 u v) := by
  match u, hu with
  | .infinity .positive, _ => exact absurd rfl hfinite
  | .zero .positive, _ =>
    rcases hv with rfl | ⟨top, hv⟩
    · trivial
    · obtain ⟨m', e', hm', rfl, -⟩ := hv.parts
      trivial
  | .finite .positive .., _ =>
    rcases hv with rfl | ⟨top, hv⟩
    · trivial
    · obtain ⟨m', e', hm', rfl, -⟩ := hv.parts
      exact unsigned_round _ _ _

end Binary64

/-! ## Numbers -/

namespace Number

open Binary64
open Float.Model (UnpackedFloat)

/-- A number taken apart. -/
def parts (n : Number) : UnpackedFloat := UnpackedFloat.unpack .binary64 n.bits.toBitVec

/-- The operations on numbers, on their unpacked forms. -/
theorem parts_add (a b : Number) :
    (a + b).parts = settle (UnpackedFloat.add .binary64 (settle a.parts) (settle b.parts)) := rfl

theorem parts_mul (a b : Number) :
    (a * b).parts = settle (UnpackedFloat.mul .binary64 (settle a.parts) (settle b.parts)) := rfl

theorem parts_div (a b : Number) :
    (a / b).parts = settle (UnpackedFloat.div .binary64 (settle a.parts) (settle b.parts)) := rfl

theorem lt_iff (a b : Number) : a < b ↔ (settle a.parts).lt (settle b.parts) = true := by
  show Float.lt _ _ = true ↔ _
  rw [Float.lt, decide_eq_true_eq]
  exact Iff.rfl

/-- The fields of the bits are what unpacking reads. -/
theorem exponentField_eq (n : Number) :
    n.exponentField = (@UnpackedFloat.unpackExponent .binary64 n.bits.toBitVec).toNat := by
  simp [exponentField, UnpackedFloat.unpackExponent, powerOfTwo, Nat.shiftRight_eq_div_pow]

theorem fractionField_eq (n : Number) :
    n.fractionField = (@UnpackedFloat.unpackMantissa .binary64 n.bits.toBitVec).toNat := by
  simp [fractionField, UnpackedFloat.unpackMantissa, powerOfTwo]

/-- An unsigned number is no NaN. -/
theorem isNaN_of_unsigned {n : Number} (h : Unsigned n.parts) : n.isNaN = false := by
  rw [isNaN, exponentField_eq, fractionField_eq, Bool.and_eq_false_imp]
  intro hexponent
  by_contra hfraction
  rw [parts, UnpackedFloat.unpack, if_pos (BitVec.eq_of_toNat_eq (beq_iff_eq.1 hexponent)),
    if_neg fun hzero => hfraction (by rw [hzero]; rfl)] at h
  exact h

theorem unsigned_add {a b : Number} (ha : Unsigned a.parts) (hb : Unsigned b.parts) :
    Unsigned (a + b).parts := by
  rw [parts_add]
  exact unsigned_settle ((unsigned_settle ha).add (unsigned_settle hb))

theorem unsigned_mul {top : Int} {a b : Number} (ha : Unsigned a.parts)
    (hb : AtLeastOne top b.parts) (htop : top ≤ 971) : Unsigned (a * b).parts := by
  rw [parts_mul, hb.settle htop]
  exact unsigned_settle ((unsigned_settle ha).mul hb)

/-- Negation keeps all fields but the sign. -/
theorem isNaN_neg (n : Number) : (-n).isNaN = n.isNaN := by
  have hbits : (-n).bits.toNat = n.bits.toNat ^^^ signBit.toNat := UInt64.toNat_xor _ _
  have hexponent : (-n).exponentField = n.exponentField := by
    rw [exponentField, exponentField, hbits]
    show (_ ^^^ _) / 2 ^ 52 % 2 ^ 11 = _ / 2 ^ 52 % 2 ^ 11
    rw [Nat.xor_div_two_pow, Nat.xor_mod_two_pow]
    exact Nat.xor_zero _
  have hfraction : (-n).fractionField = n.fractionField := by
    rw [fractionField, fractionField, hbits]
    show (_ ^^^ _) % 2 ^ 52 = _ % 2 ^ 52
    rw [Nat.xor_mod_two_pow]
    exact Nat.xor_zero _
  rw [isNaN, isNaN, hexponent, hfraction]

end Number

end Calculator
