import Calculator.Proofs.Number.Exact
import Calculator.Proofs.Token.Digits
import Calculator.Proofs.Token.Loops
import Calculator.Token.Scan

/-!
# Numbers with a base

Behind `0x` or `0b` all letters, digits and underscores belong to a number (`Token.LongestRun`), and
each of them has to be a digit of the base. The digits of a base are given by a list
(`Radix.digitChars`), and what they are worth by their places in the row of all digits
(`Radix.allDigits`); the scanner computes with code points instead (`Radix.digit?_eq`).

A number is accumulated from its digits, rounded after each. As long as the integer that the digits
denote is at most `2 ^ 53`, so is every integer on the way, and nothing is rounded
(`Token.accumulate_isNatural`).
-/

namespace Calculator

namespace Radix

/-- The letters that stand behind the zero of a number with this base. -/
def marks : Radix → List Char
  | .hexadecimal => ['x', 'X']
  | .binary => ['b', 'B']

/-- The digits of the base, as they may be written. -/
def digitChars : Radix → List Char
  | .hexadecimal =>
    ['0', '1', '2', '3', '4', '5', '6', '7', '8', '9', 'a', 'b', 'c', 'd', 'e', 'f',
      'A', 'B', 'C', 'D', 'E', 'F']
  | .binary => ['0', '1']

/-- One of the digits of the base. -/
def IsDigit (radix : Radix) (c : Char) : Prop := c ∈ radix.digitChars

instance (radix : Radix) : DecidablePred radix.IsDigit :=
  fun _ => List.instDecidableMemOfLawfulBEq _ _

/-- The digits from zero to fifteen. -/
def allDigits : List Char :=
  ['0', '1', '2', '3', '4', '5', '6', '7', '8', '9', 'a', 'b', 'c', 'd', 'e', 'f']

/-- What a digit is worth, whatever the base. -/
def worth (c : Char) : Nat := allDigits.idxOf c.toLower

/-- The integer that digits denote, the last of them the units. -/
def denoted : Radix → List Char → Nat
  | .hexadecimal, digits => Nat.ofDigits 16 (digits.reverse.map worth)
  | .binary, digits => Nat.ofDigits 2 (digits.reverse.map worth)

theorem denoted_eq (radix : Radix) (digits : List Char) :
    radix.denoted digits = Nat.ofDigits radix.base (digits.reverse.map worth) := by
  cases radix <;> rfl

/-- How a message about a number with this base begins. -/
def complaint (language : Language) : Radix → String
  | .hexadecimal => language.pick "Invalid hexadecimal number: 0x" "Número hexadecimal inválido: 0x"
  | .binary => language.pick "Invalid binary number: 0b" "Número binário inválido: 0b"

/-- The message names the base and quotes the text, and then says what is wrong. -/
theorem text_of_fault {radix : Radix} {text : String} {cause : Cause}
    (h : cause = .noDigits radix text ∨ cause = .foreignDigits radix text) (language : Language) :
    ∃ reason, cause.text language = radix.complaint language ++ text ++ reason := by
  rcases h with rfl | rfl <;> cases radix <;> cases language <;> exact ⟨_, rfl⟩

theorem digit?_eq_of_lt (radix : Radix) {c : Char} (hc : c.toNat < 128) :
    radix.digit? c = if radix.IsDigit c then some (worth c) else none := by
  have hall : ∀ n < 128, radix.digit? (Char.ofNat n)
      = if radix.IsDigit (Char.ofNat n) then some (worth (Char.ofNat n)) else none := by
    cases radix <;> decide +kernel
  simpa [Char.ofNat_toNat] using hall c.toNat hc

/-- Beyond the ASCII characters there are no digits. -/
theorem not_isDigit_of_le (radix : Radix) {c : Char} (hc : 128 ≤ c.toNat) : ¬ radix.IsDigit c := by
  intro h
  have hall : ∀ d ∈ radix.digitChars, d.toNat < 128 := by cases radix <;> simp [digitChars]
  have hdigit := hall c h
  omega

theorem digit?_eq_none_of_le (radix : Radix) {c : Char} (hc : 128 ≤ c.toNat) :
    radix.digit? c = none := by
  have hbeyond {d : Char} (hd : d.toNat < 128) : ¬ c ≤ d := by
    intro hle
    have : c.toNat ≤ d.toNat := hle
    omega
  have hdigit : c.isDigit = false := by
    rw [Char.isDigit, Bool.and_eq_false_imp]
    exact fun _ => decide_eq_false (hbeyond (d := '9') (by decide))
  have hbase : ¬ 16 < radix.base := by cases radix <;> decide
  simp only [digit?, hdigit, Bool.false_eq_true, if_false, hbeyond (d := 'f') (by decide),
    hbeyond (d := 'F') (by decide), and_false, hbase]

/-- The scanner knows the digits of a base and what they are worth. -/
theorem digit?_eq (radix : Radix) (c : Char) :
    radix.digit? c = if radix.IsDigit c then some (worth c) else none := by
  rcases Nat.lt_or_ge c.toNat 128 with hc | hc
  · exact radix.digit?_eq_of_lt hc
  · rw [radix.digit?_eq_none_of_le hc, if_neg (radix.not_isDigit_of_le hc)]

theorem digit?_bind_eq_none {radix : Radix} {first : Option Char} :
    first.bind radix.digit? = none ↔ ∀ c ∈ first, ¬ radix.IsDigit c := by
  cases first with
  | none => simp
  | some c => simp [digit?_eq]

theorem mapM_digit?_eq_some {radix : Radix} {run : List Char} (h : ∀ c ∈ run, radix.IsDigit c) :
    run.mapM radix.digit? = some (run.map worth) := by
  have hdigit : ∀ c ∈ run, radix.digit? c = some (worth c) := by
    intro c hc
    rw [digit?_eq, if_pos (h c hc)]
  rw [Token.mapM_digits fun c hc => by rw [hdigit c hc]; rfl, List.filterMap_congr hdigit,
    List.filterMap_eq_map']

end Radix

namespace Token

/-! ## Runs of word characters -/

/-- A letter, a digit or an underscore. -/
def IsWordPart (c : Char) : Prop :=
  ('a' ≤ c ∧ c ≤ 'z') ∨ ('A' ≤ c ∧ c ≤ 'Z') ∨ ('0' ≤ c ∧ c ≤ '9') ∨ c = '_'

theorem isWordChar_iff (c : Char) : isWordChar c = true ↔ IsWordPart c := by
  simp only [isWordChar, Char.isAlphanum, Char.isAlpha, Char.isUpper, Char.isLower, Char.isDigit,
    Bool.or_eq_true, Bool.and_eq_true, decide_eq_true_eq, beq_iff_eq, IsWordPart, Char.le_def]
  tauto

/-- The longest first part of a text that consists of letters, digits and underscores. -/
structure LongestRun (run cs : List Char) : Prop where
  first : run <+: cs
  word : ∀ c ∈ run, IsWordPart c
  longest : ∀ other, other <+: cs → (∀ c ∈ other, IsWordPart c) → other.length ≤ run.length

/-- Every text has such a part. -/
theorem longestRun_takeWhile (cs : List Char) : LongestRun (cs.takeWhile isWordChar) cs where
  first := List.takeWhile_prefix _
  word c hc := (isWordChar_iff c).1 (List.all_eq_true.1 List.all_takeWhile c hc)
  longest other hother hword := by
    obtain ⟨rest, rfl⟩ := hother
    rw [List.takeWhile_append_of_pos fun c hc => (isWordChar_iff c).2 (hword c hc),
      List.length_append]
    exact Nat.le_add_right _ _

theorem longestRun_of_takeWhile {run cs : List Char} (h : cs.takeWhile isWordChar = run) :
    LongestRun run cs :=
  h ▸ longestRun_takeWhile cs

theorem LongestRun.eq_takeWhile {run cs : List Char} (h : LongestRun run cs) :
    run = cs.takeWhile isWordChar := by
  have hshorter : run <+: cs.takeWhile isWordChar := by
    obtain ⟨rest, rfl⟩ := h.first
    rw [List.takeWhile_append_of_pos fun c hc => (isWordChar_iff c).2 (h.word c hc)]
    exact List.prefix_append _ _
  have hother := longestRun_takeWhile cs
  have hlonger := h.longest _ hother.first hother.word
  exact hshorter.eq_of_length_le hlonger

/-! ## What a run is read as -/

theorem exists_first {P : Char → Prop} {run : List Char} (hne : run ≠ []) (h : ∀ c ∈ run, P c) :
    ∃ c ∈ run.head?, P c := by
  obtain ⟨c, run, rfl⟩ := List.exists_cons_of_ne_nil hne
  exact ⟨c, rfl, h c List.mem_cons_self⟩

/-- The three cases of a run, and the kind of token in each of them. -/
theorem scanRadix_kind_cases (radix : Radix) (mark cs : List Char) {run : List Char}
    (hrun : run = cs.takeWhile isWordChar) :
    (∀ c ∈ run.head?, ¬ radix.IsDigit c)
        ∧ (scanRadix radix mark cs).kind = .fault (.noDigits radix (String.ofList run))
      ∨ (run ≠ [] ∧ ∀ c ∈ run, radix.IsDigit c)
        ∧ (scanRadix radix mark cs).kind
          = .number (accumulate radix.base (run.map Radix.worth))
      ∨ ((∃ c ∈ run.head?, radix.IsDigit c) ∧ ∃ c ∈ run, ¬ radix.IsDigit c)
        ∧ (scanRadix radix mark cs).kind = .fault (.foreignDigits radix (String.ofList run)) := by
  simp only [scanRadix_eq, ← hrun, Radix.kindOf]
  by_cases hfirst : ∀ c ∈ run.head?, ¬ radix.IsDigit c
  · rw [Radix.digit?_bind_eq_none.2 hfirst]
    exact .inl ⟨hfirst, rfl⟩
  · obtain ⟨d, hd⟩ := Option.ne_none_iff_exists'.1 (mt Radix.digit?_bind_eq_none.1 hfirst)
    push Not at hfirst
    rw [hd]
    by_cases hall : ∀ c ∈ run, radix.IsDigit c
    · rw [Radix.mapM_digit?_eq_some hall]
      refine .inr (.inl ⟨⟨?_, hall⟩, rfl⟩)
      rintro rfl
      obtain ⟨c, hc, -⟩ := hfirst
      cases hc
    · push Not at hall
      obtain ⟨c, hc, hforeign⟩ := hall
      rw [mapM_eq_none_of_mem hc (by rw [Radix.digit?_eq, if_neg hforeign])]
      exact .inr (.inr ⟨⟨hfirst, c, hc, hforeign⟩, rfl⟩)

/-! ## The number that is read -/

theorem le_foldl_digits {base : Nat} (hbase : 0 < base) (k : Nat) (digits : List Nat) :
    k ≤ digits.foldl (fun k d => k * base + d) k := by
  induction digits generalizing k with
  | nil => exact Nat.le_refl k
  | cons d ds ih =>
    exact (Nat.le_mul_of_pos_right k hbase).trans ((Nat.le_add_right _ d).trans (ih _))

/-- One more digit, and one more step without rounding. The integers on the way are at most the last
of them, which the bound is about. -/
theorem foldl_isNatural {base : Nat} (hbase : 0 < base) (hsmall : base < 17) {digits : List Nat}
    (hdigits : ∀ d ∈ digits, d < 17) {n : Number} {k : Nat} (hn : n.IsNatural k)
    (h : digits.foldl (fun k d => k * base + d) k ≤ 2 ^ 53) :
    (digits.foldl (fun value digit => value * .ofNat base + .ofNat digit) n).IsNatural
      (digits.foldl (fun k d => k * base + d) k) := by
  induction digits generalizing n k with
  | nil => exact hn
  | cons d ds ih =>
    obtain ⟨hd, hds⟩ := List.forall_mem_cons.1 hdigits
    have hnext : k * base + d ≤ 2 ^ 53 := (le_foldl_digits hbase _ ds).trans h
    have hk : k ≤ k * base := Nat.le_mul_of_pos_right k hbase
    have hscaled := hn.mul (Number.isNatural_ofNat (k := base) (by omega)) (by omega) (by omega)
      (by omega)
    exact ih hds (hscaled.add (Number.isNatural_ofNat (by omega)) hnext) h

/-- **Digits that denote an integer up to `2 ^ 53` are read as this integer.** -/
theorem accumulate_isNatural {base : Nat} (hbase : 0 < base) (hsmall : base < 17)
    {digits : List Nat} (hdigits : ∀ d ∈ digits, d < 17)
    (h : Nat.ofDigits base digits.reverse ≤ 2 ^ 53) :
    (accumulate base digits).IsNatural (Nat.ofDigits base digits.reverse) := by
  have hfold : Nat.ofDigits base digits.reverse = digits.foldl (fun k d => k * base + d) 0 := by
    rw [Nat.ofDigits_eq_foldr, List.foldr_reverse]
    congr 1
    funext k d
    push_cast
    ring
  rw [hfold] at h ⊢
  exact foldl_isNatural hbase hsmall hdigits (Number.isNatural_ofNat (Nat.zero_le _)) h

theorem worth_lt {radix : Radix} {c : Char} (h : radix.IsDigit c) : Radix.worth c < 17 := by
  have hdigit : radix.digit? c = some (Radix.worth c) := by rw [Radix.digit?_eq, if_pos h]
  exact digit?_lt hdigit

theorem accumulate_denoted {radix : Radix} {run : List Char} (hall : ∀ c ∈ run, radix.IsDigit c)
    (h : radix.denoted run ≤ 2 ^ 53) :
    (accumulate radix.base (run.map Radix.worth)).IsNatural (radix.denoted run) := by
  have hworth : ∀ k ∈ run.map Radix.worth, k < 17 := by
    intro k hk
    obtain ⟨c, hc, rfl⟩ := List.mem_map.1 hk
    exact worth_lt (hall c hc)
  rw [Radix.denoted_eq, List.map_reverse] at h ⊢
  exact accumulate_isNatural (base_pos radix) (base_lt radix) hworth h

/-! ## What can be told from the run -/

section

variable {radix : Radix} {mark run cs : List Char} (hrun : run = cs.takeWhile isWordChar)

include hrun

theorem scanRadix_number_iff : (∃ n, (scanRadix radix mark cs).kind = .number n)
    ↔ run ≠ [] ∧ ∀ c ∈ run, radix.IsDigit c := by
  rcases scanRadix_kind_cases radix mark cs hrun with
    ⟨hnone, hkind⟩ | ⟨hdigits, hkind⟩ | ⟨⟨-, c, hc, hforeign⟩, hkind⟩
  · rw [hkind]
    refine iff_of_false (by simp) ?_
    rintro ⟨hne, hall⟩
    obtain ⟨d, hd, hdigit⟩ := exists_first hne hall
    exact hnone d hd hdigit
  · rw [hkind]
    exact iff_of_true ⟨_, rfl⟩ hdigits
  · rw [hkind]
    exact iff_of_false (by simp) fun hdigits => hforeign (hdigits.2 c hc)

theorem scanRadix_noDigits_iff :
    (scanRadix radix mark cs).kind = .fault (.noDigits radix (String.ofList run))
      ↔ ∀ c ∈ run.head?, ¬ radix.IsDigit c := by
  rcases scanRadix_kind_cases radix mark cs hrun with
    ⟨hnone, hkind⟩ | ⟨⟨hne, hall⟩, hkind⟩ | ⟨⟨⟨d, hd, hdigit⟩, -⟩, hkind⟩
  · rw [hkind]
    exact iff_of_true rfl hnone
  · obtain ⟨d, hd, hdigit⟩ := exists_first hne hall
    rw [hkind]
    exact iff_of_false (by simp) fun hnone => hnone d hd hdigit
  · rw [hkind]
    exact iff_of_false (by simp) fun hnone => hnone d hd hdigit

theorem scanRadix_foreignDigits_iff :
    (scanRadix radix mark cs).kind = .fault (.foreignDigits radix (String.ofList run))
      ↔ (∃ c ∈ run.head?, radix.IsDigit c) ∧ ∃ c ∈ run, ¬ radix.IsDigit c := by
  rcases scanRadix_kind_cases radix mark cs hrun with
    ⟨hnone, hkind⟩ | ⟨⟨-, hall⟩, hkind⟩ | ⟨hmixed, hkind⟩
  · rw [hkind]
    refine iff_of_false (by simp) ?_
    rintro ⟨⟨d, hd, hdigit⟩, -⟩
    exact hnone d hd hdigit
  · rw [hkind]
    refine iff_of_false (by simp) ?_
    rintro ⟨-, c, hc, hforeign⟩
    exact hforeign (hall c hc)
  · rw [hkind]
    exact iff_of_true rfl hmixed

theorem scanRadix_message {cause : Cause} (h : (scanRadix radix mark cs).kind = .fault cause)
    (language : Language) :
    ∃ reason, cause.text language = radix.complaint language ++ String.ofList run ++ reason := by
  rcases scanRadix_kind_cases radix mark cs hrun with ⟨-, hkind⟩ | ⟨-, hkind⟩ | ⟨-, hkind⟩
  · rw [hkind] at h
    exact Radix.text_of_fault (.inl (TokenKind.fault.inj h).symm) language
  · rw [hkind] at h
    cases h
  · rw [hkind] at h
    exact Radix.text_of_fault (.inr (TokenKind.fault.inj h).symm) language

theorem scanRadix_exact {n : Number} (h : (scanRadix radix mark cs).kind = .number n)
    (hbound : radix.denoted run ≤ 2 ^ 53) : n.IsNatural (radix.denoted run) := by
  rcases scanRadix_kind_cases radix mark cs hrun with ⟨-, hkind⟩ | ⟨⟨-, hall⟩, hkind⟩ | ⟨-, hkind⟩
  · rw [hkind] at h
    cases h
  · rw [hkind] at h
    rw [← TokenKind.number.inj h]
    exact accumulate_denoted hall hbound
  · rw [hkind] at h
    cases h

end

end Token

namespace Cursor

theorem scan_radix {radix : Radix} {mark : Char} (hmark : mark ∈ radix.marks) (cs : List Char) :
    Token.scan ('0' :: mark :: cs) = Token.scanRadix radix ['0', mark] cs := by
  cases radix with
  | hexadecimal => rcases List.mem_pair.1 hmark with rfl | rfl <;> rfl
  | binary => rcases List.mem_pair.1 hmark with rfl | rfl <;> rfl

/-- **Numbers with a base.** Behind the mark of the base the scanner takes the longest run of
letters, digits and underscores and nothing more. It is a number if the run consists of digits of
the base and is not empty; no digits are there if it does not start with one; and it has a foreign
digit in all other cases. Messages name the base of the mark. An integer up to `2 ^ 53` is read
exactly. -/
theorem next_radix {radix : Radix} {mark : Char} (hmark : mark ∈ radix.marks) {run cs : List Char}
    (hrun : Token.LongestRun run cs) (offset : Nat) :
    ∃ kind stop, next ⟨offset, '0' :: mark :: cs⟩
        = (⟨kind, String.ofList ('0' :: mark :: run), ⟨offset, stop⟩⟩, ⟨stop, cs.drop run.length⟩)
      ∧ stop = offset + byteLength ('0' :: mark :: run)
      ∧ ((∃ n, kind = .number n) ↔ run ≠ [] ∧ ∀ c ∈ run, radix.IsDigit c)
      ∧ (kind = .fault (.noDigits radix (String.ofList run))
        ↔ ∀ c ∈ run.head?, ¬ radix.IsDigit c)
      ∧ (kind = .fault (.foreignDigits radix (String.ofList run))
        ↔ (∃ c ∈ run.head?, radix.IsDigit c) ∧ ∃ c ∈ run, ¬ radix.IsDigit c)
      ∧ (∀ cause, kind = .fault cause → ∀ language, ∃ reason,
        cause.text language = radix.complaint language ++ String.ofList run ++ reason)
      ∧ ∀ n, kind = .number n → radix.denoted run ≤ 2 ^ 53 →
        n.isFinite = true ∧ n.signed = false ∧ n.value = radix.denoted run := by
  have htake := hrun.eq_takeWhile
  have hdrop : cs.drop run.length = cs.dropWhile Token.isWordChar := by
    nth_rewrite 1 [← List.takeWhile_append_dropWhile (p := Token.isWordChar) (l := cs)]
    rw [htake, List.drop_left]
  have hnext : next ⟨offset, '0' :: mark :: cs⟩
      = (⟨(Token.scanRadix radix ['0', mark] cs).kind, String.ofList ('0' :: mark :: run),
          ⟨offset, offset + byteLength ('0' :: mark :: run)⟩⟩,
        ⟨offset + byteLength ('0' :: mark :: run), cs.drop run.length⟩) := by
    have hskip : skipTrivia offset ('0' :: mark :: cs) = ⟨offset, '0' :: mark :: cs⟩ := rfl
    rw [next, hskip, scan_radix hmark, Token.scanRadix_eq, hdrop, htake]
    rfl
  exact ⟨_, _, hnext, rfl, Token.scanRadix_number_iff htake, Token.scanRadix_noDigits_iff htake,
    Token.scanRadix_foreignDigits_iff htake, fun cause => Token.scanRadix_message htake,
    fun n hn hbound => (Token.scanRadix_exact htake hn hbound).value_eq⟩

/-- The largest integer of the bound with something behind it, a number that is another one in base
sixteen, and a decimal digit that is no binary one. -/
theorem next_radix_bases :
    ('x' ∈ Radix.hexadecimal.marks
      ∧ Token.LongestRun "20000000000000".toList "20000000000000+1".toList
      ∧ ∃ n, next ⟨0, "0x20000000000000+1".toList⟩
          = (⟨.number n, "0x20000000000000", ⟨0, 16⟩⟩, ⟨16, ['+', '1']⟩)
        ∧ n.value = 9007199254740992)
    ∧ ('B' ∈ Radix.binary.marks ∧ Token.LongestRun "1101".toList "1101".toList
      ∧ ∃ n, next ⟨0, "0B1101".toList⟩ = (⟨.number n, "0B1101", ⟨0, 6⟩⟩, ⟨6, []⟩) ∧ n.value = 13)
    ∧ 'b' ∈ Radix.binary.marks ∧ Token.LongestRun "12".toList "12)".toList
      ∧ next ⟨0, "0b12)".toList⟩
        = (⟨.fault (.foreignDigits .binary "12"), "0b12", ⟨0, 4⟩⟩, ⟨4, [')']⟩) := by
  have hlargest : Token.LongestRun "20000000000000".toList "20000000000000+1".toList :=
    Token.longestRun_of_takeWhile (by decide +kernel)
  have hbinary : Token.LongestRun "1101".toList "1101".toList :=
    Token.longestRun_of_takeWhile (by decide +kernel)
  have hforeign : Token.LongestRun "12".toList "12)".toList :=
    Token.longestRun_of_takeWhile (by decide +kernel)
  refine ⟨⟨by decide, hlargest, ?_⟩, ⟨by decide, hbinary, ?_⟩, by decide, hforeign, ?_⟩
  · have hdenoted : Radix.hexadecimal.denoted "20000000000000".toList = 9007199254740992 := by
      decide +kernel
    obtain ⟨kind, stop, hnext, rfl, hnumber, -, -, -, hvalue⟩ :=
      next_radix (show 'x' ∈ Radix.hexadecimal.marks by decide) hlargest 0
    obtain ⟨n, rfl⟩ := hnumber.2 (by simp [Radix.IsDigit, Radix.digitChars])
    obtain ⟨-, -, hexact⟩ := hvalue n rfl (by rw [hdenoted]; decide)
    exact ⟨n, hnext, by rw [hexact, hdenoted]; norm_num⟩
  · have hdenoted : Radix.binary.denoted "1101".toList = 13 := by decide +kernel
    obtain ⟨kind, stop, hnext, rfl, hnumber, -, -, -, hvalue⟩ :=
      next_radix (show 'B' ∈ Radix.binary.marks by decide) hbinary 0
    obtain ⟨n, rfl⟩ := hnumber.2 (by simp [Radix.IsDigit, Radix.digitChars])
    obtain ⟨-, -, hexact⟩ := hvalue n rfl (by rw [hdenoted]; decide)
    exact ⟨n, hnext, by rw [hexact, hdenoted]; norm_num⟩
  · obtain ⟨kind, stop, hnext, rfl, -, -, hkind, -, -⟩ :=
      next_radix (show 'b' ∈ Radix.binary.marks by decide) hforeign 0
    rw [hkind.2 (by simp [Radix.IsDigit, Radix.digitChars])] at hnext
    exact hnext

end Cursor

end Calculator
