import Calculator.Proofs.Token.Radix
import Calculator.Text.Quoted

/-!
# Quoted text can be read back

A character can be read back from the way it stands in quoted text, whatever comes behind it
(`Text.readQuotedChar_append`): only a backslash starts an escape, the letter behind it tells which
one, and the digits of a code point end at a brace. So different texts are quoted differently
(`Text.quoted_injective`), and a quoted text is on one line (`Text.newline_not_mem_quoted`).
-/

namespace Calculator

namespace Radix

/-! ## Code points in hexadecimal -/

theorem digitChar_mem_allDigits {k : Nat} (h : k < 16) :
    k.digitChar ∈ allDigits ∧ worth k.digitChar = k := by
  have hall : ∀ k < 16, k.digitChar ∈ allDigits ∧ worth k.digitChar = k := by decide +kernel
  exact hall k h

theorem denoted_append_digit (digits : List Char) (c : Char) :
    denoted .hexadecimal (digits ++ [c]) = worth c + 16 * denoted .hexadecimal digits := by
  rw [denoted, List.reverse_append, List.reverse_singleton, List.singleton_append, List.map_cons,
    Nat.ofDigits_cons]
  rfl

/-- The hexadecimal digits of a natural number denote it. -/
theorem denoted_toDigits (k : Nat) : denoted .hexadecimal (Nat.toDigits 16 k) = k := by
  induction k using Nat.strongRecOn with
  | _ k ih =>
    rw [Nat.toDigits_eq_if (by decide)]
    split
    case isTrue hsmall =>
      have hlast := denoted_append_digit [] k.digitChar
      rw [(digitChar_mem_allDigits hsmall).2] at hlast
      exact hlast
    case isFalse hlarge =>
      rw [denoted_append_digit, ih (k / 16) (by omega),
        (digitChar_mem_allDigits (Nat.mod_lt k (by decide))).2]
      omega

theorem mem_allDigits_of_mem_toDigits (k : Nat) : ∀ c ∈ Nat.toDigits 16 k, c ∈ allDigits := by
  induction k using Nat.strongRecOn with
  | _ k ih =>
    intro c hc
    rw [Nat.toDigits_eq_if (by decide)] at hc
    split at hc
    case isTrue hsmall =>
      rw [List.mem_singleton.1 hc]
      exact (digitChar_mem_allDigits hsmall).1
    case isFalse hlarge =>
      rcases List.mem_append.1 hc with hfront | hlast
      · exact ih (k / 16) (by omega) c hfront
      · rw [List.mem_singleton.1 hlast]
        exact (digitChar_mem_allDigits (Nat.mod_lt k (by decide))).1

end Radix

namespace Text

/-! ## Reading a character back -/

/-- The letters that stand for a character behind a backslash. -/
def letters : List (Char × Char) :=
  [('"', '"'), ('\\', '\\'), ('n', '\n'), ('r', '\r'), ('t', '\t'), ('0', '\x00')]

/-- What stands behind a backslash: a code point in braces, or a letter. -/
def readEscape : List Char → Option (Char × List Char)
  | [] => none
  | c :: rest =>
    if c = 'u' then
      let digits := (rest.drop 1).takeWhile (· ≠ '\x7d')
      some (Char.ofNat (Radix.denoted .hexadecimal digits), rest.drop (digits.length + 2))
    else (letters.lookup c).map (·, rest)

/-- The first character of the content of a quoted text, and what comes behind it. -/
def readQuotedChar : List Char → Option (Char × List Char)
  | [] => none
  | c :: rest => if c = '\\' then readEscape rest else some (c, rest)

theorem readEscape_code (c : Char) (rest : List Char) :
    readEscape ('u' :: '\x7b' :: (Nat.toDigits 16 c.toNat ++ ['\x7d']) ++ rest)
      = some (c, rest) := by
  have hdigits : ∀ d ∈ Nat.toDigits 16 c.toNat, decide (d ≠ '\x7d') = true := by
    intro d hd
    have hmem := Radix.mem_allDigits_of_mem_toDigits _ d hd
    refine decide_eq_true fun hbrace => ?_
    rw [hbrace] at hmem
    simp [Radix.allDigits] at hmem
  have htake : (Nat.toDigits 16 c.toNat ++ '\x7d' :: rest).takeWhile (· ≠ '\x7d')
      = Nat.toDigits 16 c.toNat := by
    rw [List.takeWhile_append_of_pos hdigits]
    simp
  simp only [List.cons_append, List.append_assoc, List.nil_append, readEscape, if_true,
    List.drop_succ_cons, List.drop_zero, htake, Radix.denoted_toDigits, Char.ofNat_toNat]
  rw [← List.drop_drop, List.drop_left]
  rfl

/-- **However it stands there, a character is read back.** -/
theorem readQuotedChar_append (c : Char) (rest : List Char) :
    readQuotedChar (quotedChar c ++ rest) = some (c, rest) := by
  unfold quotedChar
  split
  case h_7 _ hbackslash _ _ _ _ =>
    split
    case isTrue => exact readEscape_code c rest
    case isFalse => exact if_neg hbackslash
  all_goals rfl

theorem flatMap_quotedChar_injective :
    Function.Injective (List.flatMap quotedChar) := by
  intro cs
  induction cs with
  | nil =>
    intro ds h
    cases ds with
    | nil => rfl
    | cons d ds =>
      have hread := readQuotedChar_append d (ds.flatMap quotedChar)
      rw [← List.flatMap_cons, ← h] at hread
      cases hread
  | cons c cs ih =>
    intro ds h
    have hread := readQuotedChar_append c (cs.flatMap quotedChar)
    rw [← List.flatMap_cons, h] at hread
    cases ds with
    | nil => cases hread
    | cons d ds =>
      rw [List.flatMap_cons, readQuotedChar_append, Option.some_inj, Prod.mk.injEq] at hread
      rw [hread.1, ih hread.2.symm]

/-- **Different texts are quoted differently.** -/
theorem quoted_injective : Function.Injective quoted := by
  intro s t h
  have hcontent := String.ofList_injective h
  rw [List.cons_inj_right, List.append_cancel_right_eq] at hcontent
  exact String.toList_injective (flatMap_quotedChar_injective hcontent)

/-! ## One line -/

theorem newline_not_mem_quotedChar (c : Char) : '\n' ∉ quotedChar c := by
  unfold quotedChar
  split
  case h_7 _ _ hnewline _ _ _ =>
    split
    case isTrue =>
      intro hmem
      have hdigits : '\n' ∉ Nat.toDigits 16 c.toNat := fun hmem => by
        have hmem := Radix.mem_allDigits_of_mem_toDigits _ _ hmem
        simp [Radix.allDigits] at hmem
      simp [hdigits] at hmem
    case isFalse => simpa using Ne.symm hnewline
  all_goals simp

/-- A quoted text is on one line. -/
theorem newline_not_mem_quoted (s : String) : '\n' ∉ (quoted s).toList := by
  rw [quoted, String.toList_ofList]
  simp [newline_not_mem_quotedChar]

end Text

end Calculator
