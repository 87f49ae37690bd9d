import Calculator.Decimal.Shortest
import Calculator.Proofs.Decimal.General
import Calculator.Proofs.Decimal.Rounding
import Calculator.Proofs.Number.Neighbours

/-!
# The shortest form tells numbers apart

A number is written with as few digits as are needed to read it back. The decimal that is written
rounds to the number (`Rounding.shortest_covers`): a candidate is taken only when it does, and with
seventeen digits there is one, since these stand closer together than the points half way to the
neighbours (`Rounding.decimal?_seventeen`). What rounds to one number rounds to no other, and the
text of a decimal determines its value; so two numbers that are written in the same way are the
same, zeros of both signs and infinities included (`shortest_injective`).
-/

namespace Calculator.Decimal

open Calculator.Number (Covers halfway)

/-! ## The interval over its denominator -/

theorem powerOfTen_div (s : ℤ) : (powerOfTen s.toNat : ℚ) / powerOfTen (-s).toNat = 10 ^ s := by
  simpa using Scientific.scaled_eq 1 1 s

theorem powerOfTwo_div (s : ℤ) :
    (Number.powerOfTwo s.toNat : ℚ) / Number.powerOfTwo (-s).toNat = 2 ^ s := by
  have hpower (k : Nat) : (Number.powerOfTwo k : ℚ) = 2 ^ k := by
    rw [show Number.powerOfTwo k = 2 ^ k from rfl, Nat.cast_pow, Nat.cast_ofNat]
  rw [hpower, hpower]
  obtain ⟨k, hk | hk⟩ := s.eq_nat_or_neg
  · simp [hk]
  · simp [hk]

namespace Rounding

section

variable (x c : Nat) {den : Nat} (hden : 0 < den) (s : ℤ)

include hden

theorem scaled_le_iff : x * powerOfTen (-s).toNat ≤ c * (powerOfTen s.toNat * den)
    ↔ (x : ℚ) / den ≤ c * 10 ^ s := by
  have hdown : (0 : ℚ) < powerOfTen (-s).toNat := Nat.cast_pos.2 (Nat.pow_pos (by decide))
  rw [← powerOfTen_div, ← mul_div_assoc, div_le_div_iff₀ (Nat.cast_pos.2 hden) hdown,
    mul_assoc (c : ℚ)]
  exact_mod_cast Iff.rfl

theorem le_scaled_iff : c * (powerOfTen s.toNat * den) ≤ x * powerOfTen (-s).toNat
    ↔ (c : ℚ) * 10 ^ s ≤ x / den := by
  have hdown : (0 : ℚ) < powerOfTen (-s).toNat := Nat.cast_pos.2 (Nat.pow_pos (by decide))
  rw [← powerOfTen_div, ← mul_div_assoc, div_le_div_iff₀ hdown (Nat.cast_pos.2 hden),
    mul_assoc (c : ℚ)]
  exact_mod_cast Iff.rfl

end

theorem denominator_pos (n : Number) : 0 < (ofNumber n).denominator := Nat.two_pow_pos _

theorem over_denominator (n : Number) (k : Nat) :
    ((k * Number.powerOfTwo (n.scale - 2).toNat : Nat) : ℚ) / (ofNumber n).denominator
      = k / 4 * 2 ^ n.scale := by
  have hunit := powerOfTwo_div (n.scale - 2)
  rw [neg_sub, zpow_sub₀ two_ne_zero] at hunit
  rw [Nat.cast_mul, mul_div_assoc]
  show (k : ℚ) * (_ / Number.powerOfTwo (2 - n.scale).toNat) = _
  rw [hunit]
  ring

theorem value_eq (n : Number) :
    ((ofNumber n).value : ℚ) / (ofNumber n).denominator = n.significand * 2 ^ n.scale := by
  have hvalue := over_denominator n (4 * n.significand)
  refine hvalue.trans ?_
  push_cast
  ring

theorem high_eq (n : Number) :
    ((ofNumber n).high : ℚ) / (ofNumber n).denominator = halfway n.magnitude := by
  have hhigh := over_denominator n (4 * n.significand + 2)
  rw [Number.halfway_magnitude]
  refine hhigh.trans ?_
  push_cast
  ring

/-- The multiples of a power of ten around a number. -/
theorem neighbours (n : Number) {e : ℤ} {c : Nat} (hc : (ofNumber n).value * powerOfTen (-e).toNat
    / (powerOfTen e.toNat * (ofNumber n).denominator) = c) :
    (c : ℚ) * 10 ^ e ≤ n.significand * 2 ^ n.scale
      ∧ (n.significand : ℚ) * 2 ^ n.scale < (c + 1) * 10 ^ e := by
  have hden := denominator_pos n
  have hup : 0 < powerOfTen e.toNat * (ofNumber n).denominator :=
    Nat.mul_pos (Nat.pow_pos (by decide)) hden
  constructor
  · rw [← value_eq, ← le_scaled_iff _ _ hden, ← hc]
    exact Nat.div_mul_le_self _ _
  · rw [← Nat.cast_succ, ← value_eq, ← not_le, ← le_scaled_iff _ _ hden, ← hc, Nat.not_le]
    exact Nat.lt_mul_of_div_lt (Nat.lt_succ_self _) hup

/-- Decimals of seventeen digits stand closer together than numbers do. -/
theorem grid_lt {n : Number} {g : ℚ} (hg : 10 ^ 16 * g ≤ n.significand * 2 ^ n.scale) :
    g / 2 < (if n.fractionField = 0 ∧ 1 < n.exponentField then 1 / 4 else 1 / 2) * 2 ^ n.scale := by
  have hplace : (0 : ℚ) < 2 ^ n.scale := by positivity
  split
  case isTrue hpower =>
    have hsignificand : n.significand = 2 ^ 52 := by
      rw [Number.significand, if_neg (by omega), hpower.1]
      rfl
    rw [hsignificand] at hg
    push_cast at hg
    linarith
  case isFalse =>
    have hsignificand : (n.significand : ℚ) ≤ 2 ^ 53 := by exact_mod_cast n.significand_lt.le
    have := mul_le_mul_of_nonneg_right hsignificand hplace.le
    linarith

variable {n : Number} (hn : 0 < n.magnitude)

include hn

theorem low_eq : ((ofNumber n).low : ℚ) / (ofNumber n).denominator = halfway (n.magnitude - 1) := by
  have hpos := Number.significand_pos hn
  have hlow := over_denominator n
    (4 * n.significand - if n.fractionField = 0 ∧ 1 < n.exponentField then 1 else 2)
  rw [Number.halfway_below hn]
  refine hlow.trans ?_
  split
  · rw [Nat.cast_sub (by omega)]
    push_cast
    ring
  · rw [Nat.cast_sub (by omega)]
    push_cast
    ring

/-- What is tested of a decimal is that it rounds to the number. -/
theorem holds_iff (c : Nat) (s : ℤ) :
    (ofNumber n).holds (c * (powerOfTen s.toNat * (ofNumber n).denominator))
        (powerOfTen (-s).toNat) = true ↔ Covers n.magnitude (c * 10 ^ s) := by
  have hden := denominator_pos n
  have hclosed : (ofNumber n).closed = decide (n.significand % 2 = 0) := rfl
  by_cases heven : n.significand % 2 = 0
  · rw [holds, hclosed, if_pos (decide_eq_true heven), Covers,
      if_pos (n.even_magnitude_iff.2 heven), Bool.and_eq_true, decide_eq_true_eq,
      decide_eq_true_eq, scaled_le_iff _ _ hden, le_scaled_iff _ _ hden, low_eq hn, high_eq]
  · rw [holds, hclosed, if_neg (by simpa using heven), Covers,
      if_neg (mt n.even_magnitude_iff.1 heven), Bool.and_eq_true, decide_eq_true_eq,
      decide_eq_true_eq, ← Nat.not_le, ← Nat.not_le, scaled_le_iff _ _ hden, le_scaled_iff _ _ hden,
      low_eq hn, high_eq, not_le, not_le]

/-! ## Candidates -/

theorem decimal?_covers {k c : Nat} {s : ℤ} (h : (ofNumber n).decimal? k = some (c, s)) :
    Covers n.magnitude (c * 10 ^ s) := by
  obtain ⟨e, he⟩ : ∃ e, leadingExponent (ofNumber n).value (ofNumber n).denominator
      - ((k : ℤ) - 1) = e := ⟨_, rfl⟩
  -- A mantissa that is the next power of ten is written with fewer digits and the same value.
  have hpick {a : Nat} (ha : Covers n.magnitude (a * 10 ^ e))
      (hp : (if a = powerOfTen k then (1, e + k) else (a, e)) = (c, s)) :
      Covers n.magnitude (c * 10 ^ s) := by
    split at hp
    case isTrue hcarry =>
      obtain ⟨rfl, rfl⟩ := Prod.mk.inj hp
      have hpower : (a : ℚ) = 10 ^ k := by
        rw [hcarry, show powerOfTen k = 10 ^ k from rfl, Nat.cast_pow, Nat.cast_ofNat]
      rw [hpower] at ha
      rw [Nat.cast_one, one_mul, add_comm, zpow_add₀ (by norm_num), zpow_natCast]
      exact ha
    case isFalse =>
      obtain ⟨rfl, rfl⟩ := Prod.mk.inj hp
      exact ha
  simp only [decimal?, he] at h
  split at h
  case h_1 hlow hhigh =>
    refine hpick ?_ (Option.some.inj h)
    split
    · exact (holds_iff hn _ e).1 hlow
    · exact (holds_iff hn _ e).1 hhigh
  case h_2 hlow hhigh => exact hpick ((holds_iff hn _ e).1 hlow) (Option.some.inj h)
  case h_3 hlow hhigh => exact hpick ((holds_iff hn _ e).1 hhigh) (Option.some.inj h)
  case h_4 => cases h

/-! ## Seventeen digits -/

/-- What is as near as a decimal of seventeen digits rounds to the number. -/
theorem covers_of_near {g q : ℚ} (hg : 10 ^ 16 * g ≤ n.significand * 2 ^ n.scale)
    (hnear : |q - n.significand * 2 ^ n.scale| ≤ g / 2) : Covers n.magnitude q := by
  have hplace : (0 : ℚ) < 2 ^ n.scale := by positivity
  have hbelow := grid_lt hg
  have habove : g / 2 < 1 / 2 * 2 ^ n.scale := by
    refine hbelow.trans_le (mul_le_mul_of_nonneg_right ?_ hplace.le)
    split <;> norm_num
  have hlow := Number.halfway_below hn
  have hhigh := n.halfway_magnitude
  rw [sub_mul] at hlow
  rw [add_mul] at hhigh
  obtain ⟨hfrom, hto⟩ := abs_le.1 hnear
  exact Number.covers_of_lt (by linarith) (by linarith)

/-- The grid of seventeen digits is fine enough. -/
theorem grid_le {e : ℤ} (he : leadingExponent (ofNumber n).value (ofNumber n).denominator
    - (((17 : Nat) : ℤ) - 1) = e) : (10 : ℚ) ^ 16 * 10 ^ e ≤ n.significand * 2 ^ n.scale := by
  have hden := denominator_pos n
  have hnumerator : 0 < (ofNumber n).value :=
    Nat.mul_pos (Nat.mul_pos (by decide) (Number.significand_pos hn)) (Nat.two_pow_pos _)
  have hlog := zpow_log_le (q := (ofNumber n).value / (ofNumber n).denominator)
    (div_pos (Nat.cast_pos.2 hnumerator) (Nat.cast_pos.2 hden))
  rw [← leadingExponent_eq hnumerator hden, value_eq n] at hlog
  rw [← zpow_natCast, ← zpow_add₀ (by norm_num)]
  refine le_trans (le_of_eq ?_) hlog
  congr 1
  push_cast at he ⊢
  omega

/-- **Seventeen digits suffice**: the nearer of the two decimals around a number rounds to it. -/
theorem decimal?_seventeen : (ofNumber n).decimal? 17 ≠ none := by
  obtain ⟨e, he⟩ : ∃ e, leadingExponent (ofNumber n).value (ofNumber n).denominator
      - (((17 : Nat) : ℤ) - 1) = e := ⟨_, rfl⟩
  obtain ⟨c, hc⟩ : ∃ c, (ofNumber n).value * powerOfTen (-e).toNat
      / (powerOfTen e.toNat * (ofNumber n).denominator) = c := ⟨_, rfl⟩
  have hgrid := grid_le hn he
  have hstep : (0 : ℚ) < 10 ^ e := by positivity
  obtain ⟨hbelow, habove⟩ := neighbours n hc
  intro hnone
  simp only [decimal?, he, hc] at hnone
  rcases le_total (n.significand * 2 ^ n.scale - c * (10 : ℚ) ^ e) (10 ^ e / 2) with hnear | hfar
  · have hholds := (holds_iff hn c e).2
      (covers_of_near hn hgrid (abs_le.2 ⟨by linarith, by linarith⟩))
    rw [hholds] at hnone
    split at hnone <;> simp_all
  · rw [add_mul, one_mul] at habove
    have hholds := (holds_iff hn (c + 1) e).2 (covers_of_near hn hgrid (by
      rw [Nat.cast_succ, add_mul, one_mul]
      exact abs_le.2 ⟨by linarith, by linarith⟩))
    rw [hholds] at hnone
    split at hnone <;> simp_all

/-- **The shortest decimal rounds to the number.** -/
theorem shortest_covers : Covers n.magnitude
    ((ofNumber n).shortest.1 * 10 ^ (ofNumber n).shortest.2) := by
  have hfound : (List.range 17).findSome? (fun k => (ofNumber n).decimal? (k + 1)) ≠ none := by
    intro hnone
    exact decimal?_seventeen hn (List.findSome?_eq_none_iff.1 hnone 16 (by simp))
  obtain ⟨⟨c, s⟩, hcs⟩ := Option.ne_none_iff_exists'.1 hfound
  obtain ⟨k, -, hk⟩ := List.exists_of_findSome?_eq_some hcs
  rw [shortest, hcs]
  exact decimal?_covers hn hk

end Rounding

/-! ## The text -/

namespace Numeral

/-- The numeral of `c · 10 ^ s` in positional notation. -/
def ofPosition (negative : Bool) (c : Nat) (s : ℤ) : Numeral :=
  if 0 ≤ s then
    { negative
      whole := digits c ++ List.replicate s.toNat '0'
      fraction := none
      exponent := none }
  else ofPlaces negative (-s).toNat c

theorem negative_ofPosition (negative : Bool) (c : Nat) (s : ℤ) :
    (ofPosition negative c s).negative = negative := by
  unfold ofPosition
  split <;> rfl

theorem text_ofPosition (negative : Bool) (c : Nat) (s : ℤ) : (ofPosition negative c s).text
    = (if negative then ['-'] else []) ++ positional c s := by
  unfold ofPosition positional
  split
  case isTrue => simp [text, body, fractionText, exponentText]
  case isFalse hneg =>
    rw [text_of_exponent_none rfl, body_ofPlaces, if_neg (show ¬ (-s).toNat = 0 by omega)]
    rfl

theorem wellFormed_ofPosition (negative : Bool) (c : Nat) (s : ℤ) :
    (ofPosition negative c s).WellFormed := by
  unfold ofPosition
  split
  case isFalse => exact ofPlaces_wellFormed _ _ _
  case isTrue =>
    refine ⟨fun d hd => ?_, fun hnil => digits_ne_nil c (List.append_eq_nil_iff.1 hnil).1,
      fun ds hds => (Option.not_mem_none _ hds).elim, fun e he => (Option.not_mem_none _ he).elim⟩
    rcases List.mem_append.1 hd with hdigit | hzero
    · exact isDigits_digits c d hdigit
    · rw [List.eq_of_mem_replicate hzero]
      rfl

theorem value_ofPosition (negative : Bool) (c : Nat) (s : ℤ) :
    (ofPosition negative c s).value = (if negative then -1 else 1) * (c * 10 ^ s) := by
  unfold ofPosition
  split
  case isTrue hs =>
    have hwhole : digitsValue (digits c ++ List.replicate s.toNat '0') = c * 10 ^ s.toNat := by
      rw [digitsValue_append, digitsValue_digits, List.length_replicate, digitsValue,
        Nat.ofDigitChars_replicate_zero, Nat.mul_zero, Nat.add_zero]
    have hpower : (10 : ℚ) ^ s.toNat = 10 ^ s := by
      rw [← zpow_natCast, Int.toNat_of_nonneg hs]
    rw [value, hwhole, Nat.cast_mul, Nat.cast_pow, Nat.cast_ofNat, hpower]
    simp [exponentValue, digitsValue]
  case isFalse hs =>
    have hpower : (10 : ℚ) ^ (-s).toNat = (10 ^ s)⁻¹ := by
      rw [← zpow_natCast, Int.toNat_of_nonneg (by omega), zpow_neg]
    rw [value_ofPlaces, hpower, div_inv_eq_mul]

/-- A numeral has no line break in it. -/
theorem newline_not_mem_text {m : Numeral} (h : m.WellFormed) : '\n' ∉ m.text := by
  have hwhole := not_mem_digits h.whole (c := '\n') rfl
  have hfraction : '\n' ∉ fractionText m.fraction := by
    cases hf : m.fraction with
    | none => simp [fractionText]
    | some ds => simpa [fractionText] using not_mem_digits (h.fraction ds hf) (c := '\n') rfl
  have hexponent : '\n' ∉ exponentText m.exponent := by
    cases he : m.exponent with
    | none => simp [exponentText]
    | some e =>
      obtain ⟨hsign, -, hds⟩ := h.exponent e he
      have hsign' : '\n' ∉ e.1.toList := fun hmem => by
        rcases hsign '\n' (Option.mem_toList.1 hmem) with hc | hc <;> cases hc
      simpa [exponentText, hsign'] using not_mem_digits hds (c := '\n') rfl
  have hminus : '\n' ∉ (if m.negative then ['-'] else []) := by split <;> simp
  rw [text, body]
  simp only [List.mem_append, not_or]
  exact ⟨hminus, ⟨hwhole, hfraction⟩, hexponent⟩

end Numeral

/-- The decimal that is written for a number, as `c · 10 ^ s`. -/
def written (n : Number) : Nat × ℤ :=
  if n.numerator = 0 then (0, 0) else (Rounding.ofNumber n).shortest

theorem toList_shortest {n : Number} (h : n.isFinite = true) :
    (shortest n).toList = (Numeral.ofPosition n.signed (written n).1 (written n).2).text := by
  rw [shortest, toList_withSign h, Numeral.text_ofPosition, written]
  congr 1
  split <;> rfl

theorem toList_shortest_infinite {n : Number} (h : n.isInfinite = true) :
    (shortest n).toList = (if n.signed then ['-'] else []) ++ ['i', 'n', 'f'] := by
  have hnan : n.isNaN = false := by simp_all [Number.isNaN, Number.isInfinite]
  rw [shortest, withSign, hnan, h]
  exact String.toList_ofList

theorem isFinite_or_isInfinite {n : Number} (h : n.isNaN = false) :
    n.isFinite = true ∨ n.isInfinite = true := by
  simp only [Number.isNaN, Number.isFinite, Number.isInfinite] at h ⊢
  grind

theorem numerator_eq_zero_iff (n : Number) : n.numerator = 0 ↔ n.magnitude = 0 := by
  have hfields := n.magnitude_eq_fields
  refine ⟨fun hzero => ?_, fun hzero => ?_⟩
  · by_contra hne
    have hpos := Number.significand_pos (Nat.pos_of_ne_zero hne)
    exact (Nat.mul_pos hpos (Nat.two_pow_pos _)).ne' hzero
  · rw [Number.numerator, Number.significand, if_pos (by omega), show n.fractionField = 0 by omega,
      Nat.zero_mul]

/-- The decimal that is written rounds to the number. -/
theorem written_covers {n : Number} (h : 0 < n.magnitude) :
    Covers n.magnitude ((written n).1 * 10 ^ (written n).2) := by
  rw [written, if_neg (mt (numerator_eq_zero_iff n).1 h.ne')]
  exact Rounding.shortest_covers h

theorem written_zero {n : Number} (h : n.magnitude = 0) : written n = (0, 0) :=
  if_pos ((numerator_eq_zero_iff n).2 h)

/-- The decimal that is written determines the magnitude. -/
theorem magnitude_eq_of_written {a b : Number}
    (h : ((written a).1 * 10 ^ (written a).2 : ℚ) = (written b).1 * 10 ^ (written b).2) :
    a.magnitude = b.magnitude := by
  rcases Nat.eq_zero_or_pos a.magnitude with ha | ha <;>
    rcases Nat.eq_zero_or_pos b.magnitude with hb | hb
  · rw [ha, hb]
  · have hpos := (written_covers hb).pos
    rw [← h, written_zero ha] at hpos
    simp at hpos
  · have hpos := (written_covers ha).pos
    rw [h, written_zero hb] at hpos
    simp at hpos
  · have hcovers := written_covers ha
    rw [h] at hcovers
    exact hcovers.unique (written_covers hb) ha hb

/-- The name of infinity is no numeral. -/
theorem read?_infinite (negative : Bool) :
    Numeral.read? ((if negative then ['-'] else []) ++ ['i', 'n', 'f']) = none := by
  cases negative <;> rfl

theorem read?_shortest {n : Number} (h : n.isFinite = true) : Numeral.read? (shortest n).toList
    = some (Numeral.ofPosition n.signed (written n).1 (written n).2) := by
  rw [toList_shortest h]
  exact Numeral.read?_text (Numeral.wellFormed_ofPosition _ _ _)

/-- **Numbers that are written in the same way are the same.** -/
theorem shortest_injective {a b : Number} (ha : a.isNaN = false) (hb : b.isNaN = false)
    (h : shortest a = shortest b) : a = b := by
  rcases isFinite_or_isInfinite ha with ha | ha <;> rcases isFinite_or_isInfinite hb with hb | hb
  · have hread := read?_shortest ha
    rw [h, read?_shortest hb, Option.some_inj] at hread
    have hsigned := congrArg Numeral.negative hread
    rw [Numeral.negative_ofPosition, Numeral.negative_ofPosition] at hsigned
    have hvalue := congrArg Numeral.value hread
    rw [Numeral.value_ofPosition, Numeral.value_ofPosition, hsigned] at hvalue
    refine (Number.eq_of_magnitude_eq hsigned (magnitude_eq_of_written ?_)).symm
    exact mul_left_cancel₀ (by split <;> norm_num) hvalue
  · have hread := read?_shortest ha
    rw [h, toList_shortest_infinite hb, read?_infinite] at hread
    cases hread
  · have hread := read?_shortest hb
    rw [← h, toList_shortest_infinite ha, read?_infinite] at hread
    cases hread
  · have htext := toList_shortest_infinite ha
    rw [h, toList_shortest_infinite hb] at htext
    have hsigned : a.signed = b.signed := by
      cases hsa : a.signed <;> cases hsb : b.signed <;> simp_all
    refine Number.eq_of_magnitude_eq hsigned ?_
    have hfields := a.magnitude_eq_fields
    have hfields' := b.magnitude_eq_fields
    simp only [Number.isInfinite, Bool.and_eq_true, beq_iff_eq] at ha hb
    rw [hfields, hfields', ha.1, ha.2, hb.1, hb.2]

/-- The text of a number is on one line. -/
theorem newline_not_mem_shortest (n : Number) : '\n' ∉ (shortest n).toList := by
  by_cases hnan : n.isNaN = true
  · rw [shortest, withSign, if_pos hnan]
    simp
  · rcases isFinite_or_isInfinite (by simpa using hnan) with h | h
    · rw [toList_shortest h]
      exact Numeral.newline_not_mem_text (Numeral.wellFormed_ofPosition _ _ _)
    · rw [toList_shortest_infinite h]
      split <;> simp

end Calculator.Decimal
