import Calculator.Decimal.General
import Mathlib

/-!
# Decimal numerals

A numeral is read from its text (`Numeral.read?`): an optional minus sign, digits, an optional point
with digits behind it, and an optional exponent, which may have a sign of its own. What is written
from the parts is read as these parts (`Numeral.read?_text`), so that the value of a text is the
value of its parts.

`Numeral.ofPlaces` is a natural number with a point in front of its last digits, as fixed places and
mantissas are written. Without the zeros at the end of its fraction a numeral has the same value
(`Numeral.value_trimmed`).
-/

namespace Calculator.Decimal

/-! ## Digits -/

/-- Decimal digits only. -/
def IsDigits (cs : List Char) : Prop := ∀ c ∈ cs, c.isDigit = true

/-- The natural number that digits stand for. -/
def digitsValue (cs : List Char) : Nat := Nat.ofDigitChars 10 cs 0

theorem digitsValue_append (cs ds : List Char) :
    digitsValue (cs ++ ds) = digitsValue cs * 10 ^ ds.length + digitsValue ds := by
  rw [digitsValue, Nat.ofDigitChars_append, Nat.ofDigitChars_eq_ofDigitChars_zero, Nat.mul_comm]
  rfl

theorem digitsValue_digits (k : Nat) : digitsValue (digits k) = k := Nat.ofDigitChars_ten_toDigits

theorem isDigits_digits (k : Nat) : IsDigits (digits k) := fun _ =>
  Nat.isDigit_of_mem_toDigits (by decide) (by decide)

theorem digits_ne_nil (k : Nat) : digits k ≠ [] := Nat.toDigits_ne_nil

theorem digitsValue_padded (width k : Nat) : digitsValue (padded width k) = k := by
  rw [padded, digitsValue_append, digitsValue_digits, digitsValue, Nat.ofDigitChars_replicate_zero,
    Nat.mul_zero, Nat.zero_mul, Nat.zero_add]

theorem isDigits_padded (width k : Nat) : IsDigits (padded width k) := by
  intro c hc
  rcases List.mem_append.1 hc with hzero | hdigit
  · rw [List.eq_of_mem_replicate hzero]
    rfl
  · exact isDigits_digits k c hdigit

theorem not_mem_digits {cs : List Char} (hcs : IsDigits cs) {c : Char} (hc : c.isDigit = false) :
    c ∉ cs := fun hmem => by
  have hdigit := hcs c hmem
  rw [hc] at hdigit
  cases hdigit

theorem getLast_ne_point {cs : List Char} (hcs : IsDigits cs) (hne : cs ≠ []) :
    cs.getLast hne ≠ '.' := fun hlast =>
  not_mem_digits hcs (c := '.') rfl (hlast ▸ List.getLast_mem hne)

theorem length_padded (width k : Nat) : (padded width k).length = max width (digitCount k) := by
  rw [padded, List.length_append, List.length_replicate, ← digitCount]
  omega

theorem length_padded_of_lt {width k : Nat} (hwidth : 0 < width) (hk : k < 10 ^ width) :
    (padded width k).length = width := by
  rw [length_padded]
  exact max_eq_left ((Nat.length_toDigits_le_iff (by decide) hwidth).2 hk)

/-! ## Numerals -/

/-- A decimal numeral taken apart. -/
structure Numeral where
  negative : Bool
  whole : List Char
  /-- The digits behind the point, if there is a point. -/
  fraction : Option (List Char)
  /-- The sign behind `e`, if there is one, and the digits. -/
  exponent : Option (Option Char × List Char)
deriving DecidableEq

namespace Numeral

def fractionText : Option (List Char) → List Char
  | none => []
  | some ds => '.' :: ds

def exponentText : Option (Option Char × List Char) → List Char
  | none => []
  | some (sign, ds) => 'e' :: (sign.toList ++ ds)

/-- The text between sign and exponent. -/
def body (m : Numeral) : List Char := m.whole ++ fractionText m.fraction

/-- The text of a numeral. -/
def text (m : Numeral) : List Char :=
  (if m.negative then ['-'] else []) ++ (m.body ++ exponentText m.exponent)

theorem text_of_exponent_none {m : Numeral} (h : m.exponent = none) :
    m.text = (if m.negative then ['-'] else []) ++ m.body := by
  rw [text, h, exponentText, List.append_nil]

/-- The exponent as an integer; zero if there is none. -/
def exponentValue (m : Numeral) : ℤ :=
  match m.exponent with
  | none => 0
  | some (sign, ds) => if sign = some '-' then -digitsValue ds else digitsValue ds

/-- The rational that a numeral denotes. -/
def value (m : Numeral) : ℚ :=
  (if m.negative then -1 else 1)
    * (digitsValue m.whole + digitsValue (m.fraction.getD []) / 10 ^ (m.fraction.getD []).length)
    * 10 ^ m.exponentValue

/-! ## Reading -/

/-- One of the signs, if there is one. -/
def readSign (signs : List Char) : List Char → Option Char × List Char
  | [] => (none, [])
  | c :: rest => if c ∈ signs then (some c, rest) else (none, c :: rest)

/-- A point and the digits behind it, if there is a point. -/
def readFraction : List Char → Option (List Char) × List Char
  | [] => (none, [])
  | c :: rest =>
    if c = '.' then (some (rest.takeWhile Char.isDigit), rest.dropWhile Char.isDigit)
    else (none, c :: rest)

/-- An exponent up to the end of the text, if the text goes on. -/
def readExponent? : List Char → Option (Option (Option Char × List Char))
  | [] => some none
  | c :: rest =>
    let (sign, ds) := readSign ['+', '-'] rest
    if c = 'e' ∧ ds ≠ [] ∧ ds.all Char.isDigit then some (some (sign, ds)) else none

/-- The numeral that a whole text is. -/
def read? (text : List Char) : Option Numeral :=
  let (sign, rest) := readSign ['-'] text
  let whole := rest.takeWhile Char.isDigit
  let (fraction, rest) := readFraction (rest.dropWhile Char.isDigit)
  match readExponent? rest with
  | none => none
  | some exponent =>
    if whole = [] then none else some { negative := sign.isSome, whole, fraction, exponent }

/-- The parts are digits and signs where they have to be. -/
structure WellFormed (m : Numeral) : Prop where
  whole : IsDigits m.whole
  whole_ne_nil : m.whole ≠ []
  fraction : ∀ ds ∈ m.fraction, IsDigits ds
  exponent : ∀ e ∈ m.exponent, (∀ c ∈ e.1, c = '+' ∨ c = '-') ∧ e.2 ≠ [] ∧ IsDigits e.2

/-- Digits are read up to what is no digit. -/
theorem span_digits {ds rest : List Char} (hds : IsDigits ds)
    (hrest : ∀ c ∈ rest.head?, c.isDigit = false) :
    (ds ++ rest).takeWhile Char.isDigit = ds ∧ (ds ++ rest).dropWhile Char.isDigit = rest := by
  rw [List.takeWhile_append_of_pos hds, List.dropWhile_append_of_pos hds]
  cases rest with
  | nil => simp
  | cons c rest =>
    have hc := hrest c rfl
    simp [hc]

theorem readSign_digits (signs : List Char) (hsigns : ∀ c ∈ signs, c.isDigit = false)
    {ds : List Char} (hds : IsDigits ds) (hne : ds ≠ []) (rest : List Char) :
    readSign signs (ds ++ rest) = (none, ds ++ rest) := by
  cases ds with
  | nil => exact absurd rfl hne
  | cons d ds =>
    have hd : d ∉ signs := fun h => by
      have hdigit := hds d List.mem_cons_self
      rw [hsigns d h] at hdigit
      cases hdigit
    rw [List.cons_append, readSign, if_neg hd]

theorem head?_exponentText {e : Option (Option Char × List Char)} {c : Char}
    (h : c ∈ (exponentText e).head?) : c = 'e' := by
  match e, h with
  | some (sign, ds), h =>
    cases h
    rfl

theorem readExponent?_text {e : Option (Option Char × List Char)}
    (h : ∀ x ∈ e, (∀ c ∈ x.1, c = '+' ∨ c = '-') ∧ x.2 ≠ [] ∧ IsDigits x.2) :
    readExponent? (exponentText e) = some e := by
  match e, h with
  | none, _ => rfl
  | some (sign, ds), h =>
    obtain ⟨hsign, hne, hds⟩ := h _ rfl
    have hread : readSign ['+', '-'] (sign.toList ++ ds) = (sign, ds) := by
      cases sign with
      | none =>
        have := readSign_digits ['+', '-'] (by simp) hds hne []
        rwa [List.append_nil] at this
      | some c =>
        rcases hsign c rfl with rfl | rfl <;> rfl
    rw [exponentText, readExponent?, hread]
    exact if_pos ⟨rfl, hne, List.all_eq_true.2 hds⟩

theorem readFraction_text {f : Option (List Char)} (hf : ∀ ds ∈ f, IsDigits ds)
    (e : Option (Option Char × List Char)) :
    readFraction (fractionText f ++ exponentText e) = (f, exponentText e) := by
  have hstop : ∀ c ∈ (exponentText e).head?, c.isDigit = false := fun c hc => by
    rw [head?_exponentText hc]
    rfl
  cases f with
  | none =>
    match e with
    | none => rfl
    | some (sign, ds) => rfl
  | some ds =>
    obtain ⟨htake, hdrop⟩ := span_digits (hf ds rfl) hstop
    rw [fractionText, List.cons_append, readFraction, if_pos rfl, htake, hdrop]

/-- **What is written is read again.** -/
theorem read?_text {m : Numeral} (h : m.WellFormed) : read? m.text = some m := by
  have hstop : ∀ c ∈ (fractionText m.fraction ++ exponentText m.exponent).head?,
      c.isDigit = false := by
    intro c hc
    cases hf : m.fraction with
    | none =>
      rw [hf] at hc
      rw [head?_exponentText hc]
      rfl
    | some ds =>
      rw [hf] at hc
      cases hc
      rfl
  obtain ⟨htake, hdrop⟩ := span_digits h.whole hstop
  have hsign : readSign ['-'] m.text
      = (if m.negative then some '-' else none,
        m.whole ++ (fractionText m.fraction ++ exponentText m.exponent)) := by
    rw [text, body, List.append_assoc]
    cases m.negative with
    | false => exact readSign_digits ['-'] (by simp) h.whole h.whole_ne_nil _
    | true => rfl
  rw [read?, hsign]
  simp only [htake, hdrop, readFraction_text h.fraction, readExponent?_text h.exponent,
    if_neg h.whole_ne_nil]
  obtain ⟨negative, whole, fraction, exponent⟩ := m
  cases negative <;> rfl

/-- A text whose point has digits behind it ends in digits. -/
theorem digits_suffix_text {m : Numeral} (h : m.WellFormed) (hpoint : ∀ ds ∈ m.fraction, ds ≠ []) :
    ∃ ds, ds <:+ m.text ∧ IsDigits ds ∧ ds ≠ [] := by
  have hbody : m.body ++ exponentText m.exponent <:+ m.text := List.suffix_append _ _
  cases hexponent : m.exponent with
  | some e =>
    obtain ⟨-, hne, hds⟩ := h.exponent e hexponent
    rw [hexponent] at hbody
    have hdigits : e.2 <:+ exponentText (some e) :=
      (List.suffix_append e.1.toList e.2).trans (List.suffix_cons 'e' _)
    exact ⟨e.2, hdigits.trans ((List.suffix_append _ _).trans hbody), hds, hne⟩
  | none =>
    rw [hexponent, exponentText, List.append_nil, body] at hbody
    cases hfraction : m.fraction with
    | some ds =>
      rw [hfraction] at hbody
      have hdigits : ds <:+ fractionText (some ds) := List.suffix_cons '.' ds
      exact ⟨ds, hdigits.trans ((List.suffix_append _ _).trans hbody), h.fraction ds hfraction,
        hpoint ds hfraction⟩
    | none =>
      rw [hfraction, fractionText, List.append_nil] at hbody
      exact ⟨m.whole, hbody, h.whole, h.whole_ne_nil⟩

theorem getLast?_text_ne_point {m : Numeral} (h : m.WellFormed)
    (hpoint : ∀ ds ∈ m.fraction, ds ≠ []) : m.text.getLast? ≠ some '.' := by
  obtain ⟨ds, ⟨front, htext⟩, hds, hne⟩ := digits_suffix_text h hpoint
  rw [← htext, List.getLast?_append_of_ne_nil _ hne, List.getLast?_eq_some_getLast hne]
  exact fun hlast => getLast_ne_point hds hne (Option.some.inj hlast)

/-! ## Exponents -/

/-- A numeral with an exponent behind it. -/
def withExponent (m : Numeral) (sign : Option Char) (ds : List Char) : Numeral :=
  { m with exponent := some (sign, ds) }

theorem WellFormed.withExponent {m : Numeral} (h : m.WellFormed) {sign : Option Char}
    (hsign : ∀ c ∈ sign, c = '+' ∨ c = '-') {ds : List Char} (hne : ds ≠ []) (hds : IsDigits ds) :
    (m.withExponent sign ds).WellFormed where
  whole := h.whole
  whole_ne_nil := h.whole_ne_nil
  fraction := h.fraction
  exponent e he := by
    cases he
    exact ⟨hsign, hne, hds⟩

theorem value_withExponent {m : Numeral} (h : m.exponent = none) (sign : Option Char)
    (ds : List Char) : (m.withExponent sign ds).value
      = m.value * 10 ^ (m.withExponent sign ds).exponentValue := by
  have hnone : m.exponentValue = 0 := by rw [exponentValue, h]
  rw [value, value, hnone, zpow_zero, mul_one]
  rfl

theorem exponentValue_withExponent {m : Numeral} {sign : Option Char} {ds : List Char} {e : ℤ}
    (hsign : sign = some '-' ↔ e < 0) (hds : digitsValue ds = e.natAbs) :
    (m.withExponent sign ds).exponentValue = e := by
  simp only [withExponent, exponentValue, hsign, hds]
  split <;> omega

/-! ## A point in front of the last digits -/

/-- `k` with a point in front of its last `places` digits, or without a point if there are none. -/
def ofPlaces (negative : Bool) (places k : Nat) : Numeral where
  negative := negative
  whole := digits (k / powerOfTen places)
  fraction := if places = 0 then none else some (padded places (k % powerOfTen places))
  exponent := none

theorem ofPlaces_wellFormed (negative : Bool) (places k : Nat) :
    (ofPlaces negative places k).WellFormed where
  whole := isDigits_digits _
  whole_ne_nil := digits_ne_nil _
  fraction ds hds := by
    rw [ofPlaces] at hds
    split at hds
    · cases hds
    · cases hds
      exact isDigits_padded _ _
  exponent e he := by cases he

theorem value_ofPlaces (negative : Bool) (places k : Nat) :
    (ofPlaces negative places k).value = (if negative then -1 else 1) * (k / 10 ^ places) := by
  have hpower : powerOfTen places = 10 ^ places := rfl
  have hpos : (0 : ℚ) < 10 ^ places := by positivity
  have hexponent : (ofPlaces negative places k).exponentValue = 0 := rfl
  rw [value, hexponent, zpow_zero, mul_one]
  congr 1
  simp only [ofPlaces, digitsValue_digits, hpower]
  split
  case isTrue hnone =>
    subst hnone
    simp [digitsValue]
  case isFalse hsome =>
    have hlength := length_padded_of_lt (Nat.pos_of_ne_zero hsome)
      (Nat.mod_lt k (Nat.pow_pos (n := places) (by decide : 0 < 10)))
    rw [Option.getD_some, digitsValue_padded, hlength, eq_div_iff hpos.ne', add_mul,
      div_mul_cancel₀ _ hpos.ne']
    exact_mod_cast Nat.div_add_mod' k (10 ^ places)

/-! ## Zeros at the end of a fraction -/

/-- Digits without the zeros at their end. -/
def dropZeros (ds : List Char) : List Char := ds.rdropWhile (· = '0')

/-- A fraction without the zeros at its end, and no fraction if nothing else is there. -/
def trimmedFraction : Option (List Char) → Option (List Char)
  | none => none
  | some ds => if dropZeros ds = [] then none else some (dropZeros ds)

def trimmed (m : Numeral) : Numeral := { m with fraction := trimmedFraction m.fraction }

theorem mem_trimmedFraction {f : Option (List Char)} {ds : List Char} (h : ds ∈ trimmedFraction f) :
    ∃ cs ∈ f, ds = dropZeros cs ∧ ds ≠ [] := by
  cases f with
  | none => cases h
  | some cs =>
    rw [trimmedFraction] at h
    split at h
    case isTrue => cases h
    case isFalse hne =>
      cases h
      exact ⟨cs, rfl, rfl, hne⟩

theorem last_of_trimmedFraction {f : Option (List Char)} {ds : List Char}
    (h : ds ∈ trimmedFraction f) : ds ≠ [] ∧ ds.getLast? ≠ some '0' := by
  obtain ⟨cs, -, rfl, hne⟩ := mem_trimmedFraction h
  refine ⟨hne, fun hlast => ?_⟩
  rw [List.getLast?_eq_some_getLast hne, Option.some_inj] at hlast
  exact List.rdropWhile_last_not _ _ hne (decide_eq_true hlast)

theorem isDigits_dropZeros {ds : List Char} (h : IsDigits ds) : IsDigits (dropZeros ds) :=
  fun c hc => h c ((List.rdropWhile_prefix _ _).subset hc)

theorem WellFormed.trimmed {m : Numeral} (h : m.WellFormed) : m.trimmed.WellFormed where
  whole := h.whole
  whole_ne_nil := h.whole_ne_nil
  fraction ds hds := by
    obtain ⟨cs, hcs, rfl, -⟩ := mem_trimmedFraction hds
    exact isDigits_dropZeros (h.fraction cs hcs)
  exponent := h.exponent

/-- Zeros at the end of a fraction are worth nothing. -/
theorem value_dropZeros (ds : List Char) :
    (digitsValue (dropZeros ds) : ℚ) / 10 ^ (dropZeros ds).length
    = digitsValue ds / 10 ^ ds.length := by
  induction ds using List.reverseRecOn with
  | nil => rfl
  | append_singleton ds d ih =>
    rw [dropZeros] at ih ⊢
    by_cases hd : d = '0'
    · subst hd
      have hvalue : digitsValue (ds ++ ['0']) = digitsValue ds * 10 := digitsValue_append ds ['0']
      rw [List.rdropWhile_concat_pos _ _ _ (by decide), ih, hvalue, List.length_append]
      push_cast [List.length_singleton, pow_succ]
      rw [mul_div_mul_right _ _ (by norm_num)]
    · rw [List.rdropWhile_concat_neg _ _ _ (by simpa using hd)]

theorem value_trimmed (m : Numeral) : m.trimmed.value = m.value := by
  have hfraction : (digitsValue (m.trimmed.fraction.getD []) : ℚ)
        / 10 ^ (m.trimmed.fraction.getD []).length
      = digitsValue (m.fraction.getD []) / 10 ^ (m.fraction.getD []).length := by
    rw [trimmed]
    cases m.fraction with
    | none => rfl
    | some ds =>
      rw [Option.getD_some, ← value_dropZeros ds, trimmedFraction]
      split
      case isTrue hnil =>
        rw [hnil]
        rfl
      case isFalse => rfl
  rw [value, hfraction]
  rfl

/-- What is no digit stops the dropping from the end. -/
theorem dropZeros_append (whole ds : List Char) :
    dropZeros (whole ++ '.' :: ds) = whole ++ '.' :: dropZeros ds := by
  induction ds using List.reverseRecOn with
  | nil => exact List.rdropWhile_concat_neg _ _ _ (by decide)
  | append_singleton ds d ih =>
    rw [dropZeros] at ih ⊢
    rw [← List.cons_append, ← List.append_assoc]
    by_cases hd : d = '0'
    · rw [List.rdropWhile_concat_pos _ _ _ (by simpa using hd), ih, dropZeros, dropZeros,
        List.rdropWhile_concat_pos _ _ _ (by simpa using hd)]
    · rw [List.rdropWhile_concat_neg _ _ _ (by simpa using hd), dropZeros,
        List.rdropWhile_concat_neg _ _ _ (by simpa using hd)]
      simp

theorem trimFraction_point (whole ds : List Char) :
    trimFraction (whole ++ '.' :: ds) = (whole ++ '.' :: dropZeros ds).rdropWhile (· = '.') := by
  rw [← dropZeros_append, trimFraction, if_pos (by simp)]
  simp only [dropZeros, List.rdropWhile, List.reverse_reverse]

/-- Cutting the text is dropping the zeros of the fraction, and the point where only zeros stood
behind it. -/
theorem trimFraction_body {m : Numeral} (h : m.WellFormed) :
    trimFraction m.body = m.trimmed.body := by
  rw [body, body, trimmed]
  cases hfraction : m.fraction with
  | none =>
    rw [fractionText, trimmedFraction, fractionText, List.append_nil, trimFraction, if_neg]
    simpa using not_mem_digits h.whole (c := '.') rfl
  | some ds =>
    rw [fractionText, trimmedFraction, trimFraction_point]
    split
    case isTrue hnil =>
      rw [hnil, List.rdropWhile_concat_pos _ _ _ (by decide), fractionText, List.append_nil,
        List.rdropWhile_eq_self_iff]
      intro hne hlast
      exact getLast_ne_point h.whole hne (of_decide_eq_true hlast)
    case isFalse hne =>
      have hdigits := isDigits_dropZeros (h.fraction ds hfraction)
      rw [fractionText, List.rdropWhile_eq_self_iff]
      intro hne' hlast
      rw [List.getLast_append_of_ne_nil _ (List.cons_ne_nil _ _), List.getLast_cons hne] at hlast
      exact getLast_ne_point hdigits hne (of_decide_eq_true hlast)

end Numeral

end Calculator.Decimal
