import Calculator.Proofs.Number.Classes
import Calculator.Token.Literal

/-!
# Numbers in a source text

Reading the digits of a number gives a number, however many they are. Before the point the value
may become infinite, and stays so. After it at most seventeen digits count, so the digits stay far
below infinity (`Fraction.Sound`), while the power of ten that they stand over may become infinite
but never zero: their quotient is a number in every case.
-/

namespace Calculator

open Float.Model (UnpackedFloat)
open Binary64

instance (top : Int) (u : UnpackedFloat) : Decidable (AtLeastOne top u) :=
  match u with
  | .finite .positive m e _ => inferInstanceAs (Decidable (m.log2 = 52 ∧ -52 ≤ e ∧ e ≤ top))
  | .finite .negative .. | .infinity _ | .zero _ | .notANumber => isFalse id

namespace Number

/-- The bases and the digits other than zero are exact and small. -/
theorem atLeastOne_ofNat {k : Nat} (hpos : 0 < k) (hk : k < 17) :
    AtLeastOne (-48) (ofNat k).parts := by
  have hall : ∀ k < 17, 0 < k → AtLeastOne (-48) (ofNat k).parts := by decide +kernel
  exact hall k hk hpos

theorem unsigned_ofNat {k : Nat} (hk : k < 17) : Unsigned (ofNat k).parts := by
  by_cases hpos : 0 < k
  · exact (atLeastOne_ofNat hpos hk).unsigned
  · obtain rfl : k = 0 := by omega
    trivial

/-- A product with a base or digit is larger by a few binary places. -/
theorem atLeastOne_mul {top : Int} {a b : Number} (ha : AtLeastOne top a.parts)
    (hb : AtLeastOne (-48) b.parts) (htop : top + 6 ≤ 971) :
    AtLeastOne (top + 6) (a * b).parts := by
  rw [parts_mul, ha.settle (by omega), hb.settle (by decide)]
  have h := (ha.mul hb).mono (show top + -48 + 54 ≤ top + 6 by omega)
  rw [h.settle htop]
  exact h

theorem atLeastOne_add {top : Int} {a b : Number} (ha : AtLeastOne top a.parts)
    (hb : AtLeastOne (-48) b.parts) (hlow : -48 ≤ top) (htop : top + 2 ≤ 971) :
    AtLeastOne (top + 2) (a + b).parts := by
  rw [parts_add, ha.settle (by omega), hb.settle (by decide)]
  have h := ha.add hb (Int.le_refl top) hlow
  rw [h.settle htop]
  exact h

/-! ## Zero -/

/-- Leading zeros keep the value at zero. -/
theorem parts_zero_mul {top : Int} {a b : Number} (ha : a.parts = .zero .positive)
    (hb : AtLeastOne top b.parts) (htop : top ≤ 971) : (a * b).parts = .zero .positive := by
  have hzero : settle (.zero .positive) = .zero .positive := rfl
  obtain ⟨m, e, hm, hparts, -⟩ := hb.parts
  rw [parts_mul, ha, hb.settle htop, hparts, hzero]
  exact hzero

/-- The first digit other than zero is the value so far. -/
theorem parts_zero_add {top : Int} {a b : Number} (ha : a.parts = .zero .positive)
    (hb : AtLeastOne top b.parts) (htop : top ≤ 971) : (a + b).parts = b.parts := by
  rw [parts_add, ha, hb.settle htop]
  obtain ⟨m, e, hm, hparts, hlog, hlow, hhigh⟩ := hb.parts
  rw [hparts]
  exact settle_normal hlog (by omega) (by omega)

theorem parts_add_zero {top : Int} {a b : Number} (ha : AtLeastOne top a.parts)
    (hb : b.parts = .zero .positive) (htop : top ≤ 971) : (a + b).parts = a.parts := by
  rw [parts_add, hb, ha.settle htop]
  obtain ⟨m, e, hm, hparts, hlog, hlow, hhigh⟩ := ha.parts
  rw [hparts]
  exact settle_normal hlog (by omega) (by omega)

theorem parts_zero_add_zero {a b : Number} (ha : a.parts = .zero .positive)
    (hb : b.parts = .zero .positive) : (a + b).parts = .zero .positive := by
  rw [parts_add, ha, hb]
  rfl

theorem not_positive_of_zero {n : Number} (h : n.parts = .zero .positive) : ¬ 0 < n := by
  rw [lt_iff, h]
  exact Bool.false_ne_true

/-- A fraction counts its digits as soon as their value is positive. -/
theorem positive_of_atLeastOne {top : Int} {n : Number} (h : AtLeastOne top n.parts)
    (htop : top ≤ 971) : 0 < n := by
  rw [lt_iff, h.settle htop]
  obtain ⟨m, e, hm, hparts, -⟩ := h.parts
  rw [hparts]
  rfl

end Number

namespace Token

/-! ## Digits -/

/-- However many digits come, their value has no sign and is not NaN. It may be infinite. -/
theorem unsigned_accumulate {base : Nat} {digits : List Nat} (hpos : 0 < base) (hbase : base < 17)
    (hdigits : ∀ d ∈ digits, d < 17) : Unsigned (accumulate base digits).parts := by
  suffices h : ∀ value : Number, Unsigned value.parts →
      Unsigned (digits.foldl (fun value digit => value * .ofNat base + .ofNat digit) value).parts by
    exact h 0 (Number.unsigned_ofNat (by decide))
  induction digits with
  | nil => exact fun _ h => h
  | cons d ds ih =>
    intro value hvalue
    obtain ⟨hd, hds⟩ := List.forall_mem_cons.1 hdigits
    have hscaled := Number.unsigned_mul hvalue (Number.atLeastOne_ofNat hpos hbase) (by decide)
    exact ih hds _ (Number.unsigned_add hscaled (Number.unsigned_ofNat hd))

/-- The digits that there are have small values. -/
theorem digitValue_lt {c : Char} (h : c.isDigit = true) : digitValue c < 17 := by
  have hnine : c.val ≤ 57 := (by simpa [Char.isDigit] using h : 48 ≤ c.val ∧ c.val ≤ 57).2
  have : c.toNat ≤ 57 := UInt32.le_iff_toNat_le.1 hnine
  show c.toNat - 48 < 17
  omega

/-! ## Fractions -/

/-- The digits are zero and none counts, or they are at least one and no larger than the digits that
count can make them; the power of ten is not zero. -/
structure Fraction.Sound (fraction : Fraction) : Prop where
  digits : fraction.significant = 0 ∧ fraction.digits.parts = .zero .positive
    ∨ 0 < fraction.significant
      ∧ AtLeastOne (8 * fraction.significant - 56) fraction.digits.parts
  scale : Large fraction.scale.parts
  significant : fraction.significant ≤ maxSignificant

theorem Fraction.sound_start : Fraction.Sound {} where
  digits := .inl ⟨rfl, rfl⟩
  scale := .inr ⟨_, Number.atLeastOne_ofNat Nat.one_pos (by decide)⟩
  significant := Nat.zero_le _

/-- The digits after one more: zero as long as only zeros were read. -/
theorem Fraction.digits_read {fraction : Fraction} (h : fraction.Sound)
    (hfull : fraction.significant < maxSignificant) {digit : Nat} (hdigit : digit < 17) :
    fraction.significant = 0 ∧ (fraction.digits * 10 + .ofNat digit).parts = .zero .positive
      ∨ AtLeastOne (8 * fraction.significant - 48)
        (fraction.digits * 10 + .ofNat digit).parts := by
  have hten : AtLeastOne (-48) (10 : Number).parts :=
    Number.atLeastOne_ofNat (by decide) (by decide)
  have hmax : fraction.significant < 17 := hfull
  rcases h.digits with ⟨hnone, hzero⟩ | ⟨hsome, hdigits⟩
  · have hscaled := Number.parts_zero_mul hzero hten (by decide)
    by_cases hpos : 0 < digit
    · have hd := Number.atLeastOne_ofNat hpos hdigit
      rw [Number.parts_zero_add hscaled hd (by decide), hnone]
      exact .inr hd
    · obtain rfl : digit = 0 := by omega
      exact .inl ⟨hnone, Number.parts_zero_add_zero hscaled rfl⟩
  · have hscaled := Number.atLeastOne_mul hdigits hten (by omega)
    refine .inr ?_
    by_cases hpos : 0 < digit
    · have hsum := Number.atLeastOne_add hscaled (Number.atLeastOne_ofNat hpos hdigit)
        (by omega) (by omega)
      exact hsum.mono (by omega)
    · obtain rfl : digit = 0 := by omega
      rw [Number.parts_add_zero hscaled rfl (by omega)]
      exact hscaled.mono (by omega)

/-- One more digit keeps a fraction sound. Only so many digits count, so that their value stays in
range, and behind those nothing changes. -/
theorem Fraction.Sound.read {fraction : Fraction} (h : fraction.Sound) {digit : Nat}
    (hdigit : digit < 17) : (fraction.read digit).Sound := by
  unfold Fraction.read
  by_cases hfull : fraction.significant = maxSignificant
  · rw [if_pos hfull]
    exact h
  rw [if_neg hfull]
  have hless : fraction.significant < maxSignificant := Nat.lt_of_le_of_ne h.significant hfull
  have hmax : fraction.significant < 17 := hless
  have hten : AtLeastOne (-48) (10 : Number).parts :=
    Number.atLeastOne_ofNat (by decide) (by decide)
  have hscale : Large (fraction.scale * 10).parts := by
    rw [Number.parts_mul, hten.settle (by decide)]
    exact (h.scale.settle.mul hten).settle
  rcases Fraction.digits_read h hless hdigit with ⟨hnone, hzero⟩ | hdigits
  · have hsame : ¬ 0 < fraction.digits * 10 + .ofNat digit := Number.not_positive_of_zero hzero
    simp only [if_neg hsame]
    exact ⟨.inl ⟨hnone, hzero⟩, hscale, h.significant⟩
  · have hmore : 0 < fraction.digits * 10 + .ofNat digit :=
      Number.positive_of_atLeastOne hdigits (by omega)
    simp only [if_pos hmore]
    exact ⟨.inr ⟨Nat.succ_pos _, hdigits.mono (by push_cast; omega)⟩, hscale, hless⟩

/-- So do all digits of a fraction, by induction on them. -/
theorem Fraction.Sound.foldl {fraction : Fraction} (h : fraction.Sound) {digits : List Nat}
    (hdigits : ∀ d ∈ digits, d < 17) : (digits.foldl Fraction.read fraction).Sound := by
  induction digits generalizing fraction with
  | nil => exact h
  | cons d ds ih =>
    obtain ⟨hd, hds⟩ := List.forall_mem_cons.1 hdigits
    exact ih (h.read hd) hds

/-- The quotient of digits and scale is no NaN: the digits are finite, and the scale is not zero. -/
theorem unsigned_fractionValue {digits : List Nat} (hdigits : ∀ d ∈ digits, d < 17) :
    Unsigned (fractionValue digits).parts := by
  have h := Fraction.sound_start.foldl hdigits
  have hmax : (digits.foldl Fraction.read {}).significant ≤ 17 := h.significant
  show Unsigned (_ / _ : Number).parts
  rw [Number.parts_div]
  refine unsigned_settle (Unsigned.div_large ?_ ?_ h.scale.settle)
  · rcases h.digits with ⟨-, hzero⟩ | ⟨-, hdigits⟩
    · rw [hzero]
      trivial
    · exact unsigned_settle hdigits.unsigned
  · rcases h.digits with ⟨-, hzero⟩ | ⟨-, hdigits⟩
    · rw [hzero]
      rintro ⟨⟩
    · rw [hdigits.settle (by omega)]
      intro hinfinite
      rw [hinfinite] at hdigits
      exact hdigits

/-! ## Numbers -/

theorem decimalDigits_lt (cs : List Char) :
    ∀ d ∈ (cs.takeWhile Char.isDigit).map digitValue, d < 17 := by
  intro d hd
  obtain ⟨c, hc, rfl⟩ := List.mem_map.1 hd
  exact digitValue_lt (List.all_eq_true.1 List.all_takeWhile c hc)

theorem base_lt (radix : Radix) : radix.base < 17 := by
  cases radix <;> decide

theorem base_pos (radix : Radix) : 0 < radix.base := by
  cases radix <;> decide

/-- A digit of either base is smaller than seventeen. -/
theorem digit?_lt {radix : Radix} {c : Char} {d : Nat} (h : radix.digit? c = some d) : d < 17 := by
  obtain ⟨hless, hvalue⟩ := Option.ite_none_right_eq_some.1 h
  rw [← Option.some.inj hvalue]
  exact Nat.lt_trans hless (base_lt radix)

theorem radixDigits_lt {radix : Radix} {cs : List Char} {digits : List Nat}
    (h : cs.mapM radix.digit? = some digits) : ∀ d ∈ digits, d < 17 := by
  induction cs generalizing digits with
  | nil =>
    cases h
    exact List.forall_mem_nil _
  | cons c cs ih =>
    rw [List.mapM_cons] at h
    obtain ⟨d, hd, h⟩ := Option.bind_eq_some_iff.1 h
    obtain ⟨ds, hds, h⟩ := Option.bind_eq_some_iff.1 h
    cases h
    exact List.forall_mem_cons.2 ⟨digit?_lt hd, ih hds⟩

/-- A number before the point is a number. -/
theorem isNaN_decimal (cs : List Char) :
    (accumulate 10 ((cs.takeWhile Char.isDigit).map digitValue)).isNaN = false :=
  Number.isNaN_of_unsigned
    (unsigned_accumulate (by decide) (by decide) (decimalDigits_lt cs))

/-- A number with a point is a number. -/
theorem isNaN_withFraction (cs decimals : List Char) :
    (accumulate 10 ((cs.takeWhile Char.isDigit).map digitValue)
      + fractionValue ((decimals.takeWhile Char.isDigit).map digitValue)).isNaN = false :=
  Number.isNaN_of_unsigned (Number.unsigned_add
    (unsigned_accumulate (by decide) (by decide) (decimalDigits_lt cs))
    (unsigned_fractionValue (decimalDigits_lt decimals)))

/-- A number with a base is a number. -/
theorem isNaN_radix {radix : Radix} {cs : List Char} {digits : List Nat}
    (h : cs.mapM radix.digit? = some digits) : (accumulate radix.base digits).isNaN = false :=
  Number.isNaN_of_unsigned
    (unsigned_accumulate (base_pos radix) (base_lt radix) (radixDigits_lt h))

end Token

end Calculator
