import Calculator.Text.Blank
import Mathlib.Data.List.DropRight

/-!
# Trimmed texts, their words and lines

Blanks at the ends of a text do not matter to its words (`words_trim`), and once they are off they
stay off (`trim_trim`). The first word of a text that starts with a character other than a blank
starts with that character (`words_of_head`). No line of a text has a newline in it
(`newline_not_mem_of_lines`).
-/

namespace Calculator.Text

/-- Trimming at the end is dropping from the end. -/
theorem trimEndChars_eq_rdropWhile (cs : List Char) :
    trimEndChars cs = cs.rdropWhile isBlank := rfl

@[simp]
theorem toList_trim (s : String) : (trim s).toList = trimChars s.toList := by
  simp [trim]

/-! ## Trimming -/

/-- What has no blank in front has none in front after the end is trimmed. -/
theorem dropWhile_rdropWhile {p : Char → Bool} {cs : List Char} (h : cs.dropWhile p = cs) :
    (cs.rdropWhile p).dropWhile p = cs.rdropWhile p := by
  obtain ⟨off, hoff⟩ := List.rdropWhile_prefix p (l := cs)
  cases hcs : cs.rdropWhile p with
  | nil => rfl
  | cons c rest =>
    rw [hcs] at hoff
    rw [← hoff, List.cons_append, List.dropWhile_cons] at h
    by_cases hc : p c = true
    · -- the list would be a proper suffix of itself
      rw [if_pos hc] at h
      have hlength := congrArg List.length h
      have hle := (List.dropWhile_suffix p (l := rest ++ off)).length_le
      simp only [List.length_cons] at hlength
      omega
    · rw [List.dropWhile_cons, if_neg hc]

/-- Trimming twice is trimming once. -/
theorem trimChars_trimChars (cs : List Char) : trimChars (trimChars cs) = trimChars cs := by
  simp only [trimChars, trimEndChars_eq_rdropWhile]
  rw [dropWhile_rdropWhile (List.dropWhile_idempotent _ _), List.rdropWhile_idempotent]

/-- Blanks that are off stay off. -/
theorem trim_trim (s : String) : trim (trim s) = trim s := by
  rw [trim, toList_trim, trimChars_trimChars, trim]

theorem mem_of_mem_trimChars {c : Char} {cs : List Char} (h : c ∈ trimChars cs) : c ∈ cs := by
  have hstart := List.rdropWhile_prefix isBlank (cs.dropWhile isBlank)
  exact (List.dropWhile_suffix isBlank).subset (hstart.subset h)

/-! ## Words -/

theorem wordsOf_blank {c : Char} (hc : isBlank c = true) (cs : List Char) :
    wordsOf (c :: cs) = wordsOf cs := by
  cases cs with
  | nil => simp [wordsOf, hc]
  | cons d cs => simp [wordsOf, hc]

/-- Blanks in front are in no word. -/
theorem wordsOf_dropWhile (cs : List Char) : wordsOf (cs.dropWhile isBlank) = wordsOf cs := by
  induction cs with
  | nil => rfl
  | cons c cs ih =>
    rw [List.dropWhile_cons]
    split
    case isTrue hc => rw [ih, wordsOf_blank hc]
    case isFalse => rfl

/-- A blank at the end is in no word. -/
theorem wordsOf_append_blank {b : Char} (hb : isBlank b = true) (cs : List Char) :
    wordsOf (cs ++ [b]) = wordsOf cs := by
  fun_induction wordsOf cs with
  | case1 => simp [wordsOf, hb]
  | case2 c hc => simp [wordsOf, hc, hb]
  | case3 c hc => simp [wordsOf, hc, hb]
  | case4 c d cs hc ih => simpa [wordsOf, hc] using ih
  | case5 c d cs hc hd ih => simpa [wordsOf, hc, hd] using ih
  | case6 c d cs hc hd hnone ih =>
    simp only [List.cons_append] at ih ⊢
    rw [wordsOf, if_neg hc, if_neg hd, ih, hnone]
  | case7 c d cs hc hd w ws hsome ih =>
    simp only [List.cons_append] at ih ⊢
    rw [wordsOf, if_neg hc, if_neg hd, ih, hsome]

theorem wordsOf_trimEndChars (cs : List Char) : wordsOf (trimEndChars cs) = wordsOf cs := by
  rw [trimEndChars_eq_rdropWhile]
  induction cs using List.reverseRecOn with
  | nil => rfl
  | append_singleton cs c ih =>
    by_cases hc : isBlank c = true
    · rw [List.rdropWhile_concat_pos _ _ _ hc, ih, wordsOf_append_blank hc]
    · rw [List.rdropWhile_concat_neg _ _ _ hc]

/-- Blanks at the ends of a text are in none of its words. -/
theorem words_trim (s : String) : words (trim s) = words s := by
  unfold words
  rw [toList_trim, trimChars, wordsOf_trimEndChars, wordsOf_dropWhile]

/-- A character that is not blank starts the first word. -/
theorem wordsOf_of_not_blank {c : Char} (hc : isBlank c = false) (cs : List Char) :
    ∃ word rest, wordsOf (c :: cs) = (c :: word) :: rest := by
  cases cs with
  | nil => exact ⟨[], [], by simp [wordsOf, hc]⟩
  | cons d cs =>
    simp only [wordsOf, hc]
    by_cases hd : isBlank d = true
    · exact ⟨[], wordsOf (d :: cs), by simp [hd]⟩
    · cases hwords : wordsOf (d :: cs) with
      | nil => exact ⟨[], [], by simp [hd]⟩
      | cons word rest => exact ⟨word, rest, by simp [hd]⟩

/-- The first word starts with the first character of a text, if that is not a blank. -/
theorem words_of_head {s : String} {c : Char} {cs : List Char} (h : s.toList = c :: cs)
    (hc : isBlank c = false) :
    ∃ word rest, words s = word :: rest ∧ word.toList.head? = some c := by
  obtain ⟨word, rest, hwords⟩ := wordsOf_of_not_blank hc cs
  refine ⟨String.ofList (c :: word), rest.map String.ofList, ?_, by simp⟩
  rw [words, h, hwords, List.map_cons]

/-! ## Lines -/

theorem newline_not_mem_of_linesOf (cs : List Char) : ∀ l ∈ linesOf cs, '\n' ∉ l := by
  fun_induction linesOf cs with
  | case1 => simp
  | case2 cs ih => simpa using ih
  | case3 cs ih => simpa using ih
  | case4 c cs hc _ hnone ih => simpa using fun h => hc h.symm
  | case5 c cs hc _ l ls hsome ih =>
    rw [hsome] at ih
    obtain ⟨hl, hls⟩ := List.forall_mem_cons.1 ih
    refine List.forall_mem_cons.2 ⟨fun hmem => ?_, hls⟩
    rcases List.mem_cons.1 hmem with heq | hrest
    · exact hc heq.symm
    · exact hl hrest

/-- A line ends before its newline. -/
theorem newline_not_mem_of_lines {s line : String} (h : line ∈ lines s) : '\n' ∉ line.toList := by
  obtain ⟨l, hl, rfl⟩ := List.mem_map.1 h
  rw [String.toList_ofList]
  exact newline_not_mem_of_linesOf s.toList l hl

end Calculator.Text
