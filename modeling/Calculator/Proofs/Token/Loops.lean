import Calculator.Token.Literal

/-!
# The loops of the scanner

A number with a base is read by two loops, one behind the other: over the digits of the base, and
over the word characters that stick to them. The kind of the token depends on where the loops stop.
`scanRadix_eq` gives it from the whole run of word characters instead (`Radix.kindOf`), and that is
what proofs about such numbers start from.

A text is read by one loop, which counts its characters and does not look at what it has collected.
`length_unescape` is the reason why the count is right: behind a backslash it grows by one or by
two, as the text does.
-/

namespace Calculator

/-- What a run of word characters behind the mark of the base is. -/
def Radix.kindOf (radix : Radix) (run : List Char) : TokenKind :=
  match run.head?.bind radix.digit?, run.mapM radix.digit? with
  | none, _ => .fault (.noDigits radix (String.ofList run))
  | some _, some values => .number (Token.accumulate radix.base values)
  | some _, none => .fault (.foreignDigits radix (String.ofList run))

namespace Token

/-! ## Numbers with a base -/

section

variable {radix : Radix}

/-- The digits of a base are word characters, so the second loop only adds to the run. -/
theorem isWordChar_of_digit? {c : Char} {digit : Nat} (h : radix.digit? c = some digit) :
    isWordChar c = true := by
  have hbase : ¬ 16 < radix.base := by cases radix <;> decide
  have hword : isWordChar c = (c.isUpper || c.isLower || c.isDigit || c == '_') := rfl
  by_cases hdigit : c.isDigit = true
  · simp [hword, hdigit]
  by_cases hlower : 'a' ≤ c ∧ c ≤ 'f'
  · have hz : c ≤ 'z' := Char.le_trans hlower.2 (by decide)
    have hisLower : c.isLower = true :=
      Bool.and_eq_true_iff.2 ⟨decide_eq_true hlower.1, decide_eq_true hz⟩
    simp [hword, hisLower]
  by_cases hupper : 'A' ≤ c ∧ c ≤ 'F'
  · have hZ : c ≤ 'Z' := Char.le_trans hupper.2 (by decide)
    have hisUpper : c.isUpper = true := decide_eq_true ⟨hupper.1, hZ⟩
    simp [hword, hisUpper]
  · simp [Radix.digit?, hdigit, hlower, hupper, hbase] at h

/-- The digits of the base that a text starts with. -/
def leadingDigits (radix : Radix) (cs : List Char) : List Char :=
  cs.takeWhile fun c => (radix.digit? c).isSome

theorem isSome_of_mem_leadingDigits (radix : Radix) (cs : List Char) :
    ∀ c ∈ leadingDigits radix cs, (radix.digit? c).isSome = true :=
  List.all_eq_true.1 List.all_takeWhile

/-- The first loop accumulates these digits and stops behind them. -/
theorem readDigits_eq (digits : Digits) (cs : List Char) :
    readDigits radix digits cs
      = ⟨((leadingDigits radix cs).filterMap radix.digit?).foldl
          (fun value digit => value * .ofNat radix.base + .ofNat digit) digits.value,
        digits.stop + (leadingDigits radix cs).length⟩ := by
  induction cs generalizing digits with
  | nil => rfl
  | cons c cs ih =>
    rw [readDigits, leadingDigits, List.takeWhile_cons]
    cases hdigit : radix.digit? c with
    | none => rfl
    | some digit =>
      dsimp only
      rw [ih, Nat.add_assoc, Nat.add_comm 1]
      simp [leadingDigits, hdigit]

/-- The second loop stops behind the word characters. -/
theorem passWord_eq (position : Nat) (cs : List Char) :
    passWord position cs = position + (cs.takeWhile isWordChar).length := by
  induction cs generalizing position with
  | nil => rfl
  | cons c cs ih =>
    rw [passWord, List.takeWhile_cons]
    split
    · rw [ih, List.length_cons, Nat.add_assoc, Nat.add_comm 1]
    · rfl

/-- The run is what the two loops pass, one after the other. -/
theorem takeWhile_isWordChar_eq (radix : Radix) (cs : List Char) :
    cs.takeWhile isWordChar
      = leadingDigits radix cs
        ++ (cs.drop (leadingDigits radix cs).length).takeWhile isWordChar := by
  have hword : ∀ c ∈ leadingDigits radix cs, isWordChar c = true := by
    intro c hc
    obtain ⟨digit, hdigit⟩ := Option.isSome_iff_exists.1 (isSome_of_mem_leadingDigits radix cs c hc)
    exact isWordChar_of_digit? hdigit
  have hfirst : leadingDigits radix cs <+: cs := List.takeWhile_prefix _
  rw [← List.takeWhile_append_of_pos hword, List.prefix_iff_eq_append.1 hfirst]

/-- What sticks to the leading digits does not start with one. -/
theorem digit?_behind_leadingDigits (cs : List Char) :
    ((cs.drop (leadingDigits radix cs).length).takeWhile isWordChar).head?.bind radix.digit?
      = none := by
  induction cs with
  | nil => rfl
  | cons c cs ih =>
    rw [leadingDigits, List.takeWhile_cons]
    cases hdigit : radix.digit? c with
    | none => cases hword : isWordChar c <;> simp [hdigit, hword]
    | some digit => simpa [leadingDigits] using ih

theorem mapM_digits {ds : List Char} (h : ∀ c ∈ ds, (radix.digit? c).isSome) :
    ds.mapM radix.digit? = some (ds.filterMap radix.digit?) := by
  induction ds with
  | nil => rfl
  | cons c ds ih =>
    obtain ⟨digit, hdigit⟩ := Option.isSome_iff_exists.1 (h c List.mem_cons_self)
    rw [List.mapM_cons, ih fun d hd => h d (List.mem_cons_of_mem c hd), hdigit]
    simp [hdigit]

theorem mapM_eq_none_of_mem {run : List Char} {c : Char} (hc : c ∈ run)
    (h : radix.digit? c = none) : run.mapM radix.digit? = none := by
  induction hc with
  | head run =>
    rw [List.mapM_cons, h]
    rfl
  | tail d _ ih =>
    rw [List.mapM_cons, ih]
    cases radix.digit? d <;> rfl

/-- The kind of a run, from its leading digits and what sticks to them. -/
theorem kindOf_append {ds stuck : List Char} (hds : ∀ c ∈ ds, (radix.digit? c).isSome)
    (hstuck : stuck.head?.bind radix.digit? = none) :
    radix.kindOf (ds ++ stuck)
      = match ds.length == 0, ds.length == (ds ++ stuck).length with
        | false, true => .number (accumulate radix.base (ds.filterMap radix.digit?))
        | true, _ => .fault (.noDigits radix (String.ofList (ds ++ stuck)))
        | false, false => .fault (.foreignDigits radix (String.ofList (ds ++ stuck))) := by
  unfold Radix.kindOf
  cases ds with
  | nil => simp [hstuck]
  | cons d ds =>
    obtain ⟨digit, hdigit⟩ := Option.isSome_iff_exists.1 (hds d List.mem_cons_self)
    cases stuck with
    | nil => simp [hdigit, mapM_digits hds]
    | cons c rest =>
      have hhead : (d :: ds ++ c :: rest).head?.bind radix.digit? = some digit := hdigit
      have hforeign : (d :: ds ++ c :: rest).mapM radix.digit? = none :=
        mapM_eq_none_of_mem (by simp) hstuck
      have hlonger : ((d :: ds).length == (d :: ds ++ c :: rest).length) = false := by simp
      rw [hhead, hforeign, hlonger]
      rfl

end

/-- **A number with a base is its run of word characters.** -/
theorem scanRadix_eq (radix : Radix) (mark cs : List Char) :
    scanRadix radix mark cs
      = ⟨radix.kindOf (cs.takeWhile isWordChar), mark ++ cs.takeWhile isWordChar,
        cs.dropWhile isWordChar⟩ := by
  have hrun := takeWhile_isWordChar_eq radix cs
  have hstop : passWord (leadingDigits radix cs).length (cs.drop (leadingDigits radix cs).length)
      = (cs.takeWhile isWordChar).length := by
    rw [passWord_eq, ← List.length_append, ← hrun]
  have htake : cs.take (cs.takeWhile isWordChar).length = cs.takeWhile isWordChar :=
    (List.prefix_iff_eq_take.1 (List.takeWhile_prefix _)).symm
  have hdrop : cs.drop (cs.takeWhile isWordChar).length = cs.dropWhile isWordChar := by
    have hsplit := List.prefix_iff_eq_append.1 (List.takeWhile_prefix isWordChar (l := cs))
    exact List.append_cancel_left (hsplit.trans List.takeWhile_append_dropWhile.symm)
  have hkind := kindOf_append (isSome_of_mem_leadingDigits radix cs)
    (digit?_behind_leadingDigits cs)
  rw [← hrun] at hkind
  simp only [scanRadix, readDigits_eq, Nat.zero_add, hstop, htake, hdrop, hkind]
  rfl

theorem lexeme_scanRadix (radix : Radix) (mark cs : List Char) :
    (scanRadix radix mark cs).lexeme = mark ++ cs.takeWhile isWordChar := by
  rw [scanRadix_eq]

/-! ## Texts -/

/-- What is collected and what is counted grow alike. -/
theorem length_unescape {content : List Char} {length : Nat} (h : content.length = length)
    (c : Char) : (unescape content length c).1.length = (unescape content length c).2 + 1 := by
  unfold unescape
  split <;> simp [h]

end Token

end Calculator
