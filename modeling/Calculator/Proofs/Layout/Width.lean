import Calculator.Layout
import Calculator.Style

/-!
# The width of texts

A terminal shows a text but for the sequences in it, and a text may end inside of one. What is set
behind such a text is lost in the open sequence up to the next `m`; what is set behind any other
text is shown as it would be alone, unless an escape at the end and a bracket after it make a new
start. `visibleCount_append` says this for all texts, and the rest of this file follows from it.

* `visibleLength_apply`: a style takes no room, whatever the text is. Its reset also ends a sequence
  that the text leaves open (`terminated_apply`).
* `visibleLength_align`: padding takes the room it was made for, except that spaces behind an open
  sequence are not shown.
-/

namespace Calculator

namespace Layout

/-! ## Sequences -/

mutual

/-- What stands behind each start of a sequence that a terminal comes to. -/
def openings : List Char → List (List Char)
  | [] => []
  | '\x1b' :: '[' :: cs => cs :: openingsBehind cs
  | _ :: cs => openings cs

/-- The same, after the end of the sequence that the terminal is in. -/
def openingsBehind : List Char → List (List Char)
  | [] => []
  | 'm' :: cs => openings cs
  | _ :: cs => openingsBehind cs

end

/-- Every sequence that starts in the text ends in it. -/
def Terminated (cs : List Char) : Prop := ∀ rest ∈ openings cs, 'm' ∈ rest

/-- The sequence that the terminal is in ends, and so do all that start behind it. -/
def TerminatedBehind (cs : List Char) : Prop := 'm' ∈ cs ∧ ∀ rest ∈ openingsBehind cs, 'm' ∈ rest

instance (cs : List Char) : Decidable (Terminated cs) :=
  inferInstanceAs (Decidable (∀ rest ∈ openings cs, 'm' ∈ rest))

instance (cs : List Char) : Decidable (TerminatedBehind cs) :=
  inferInstanceAs (Decidable ('m' ∈ cs ∧ ∀ rest ∈ openingsBehind cs, 'm' ∈ rest))

section

variable {c : Char} {cs t : List Char}

theorem terminated_nil : Terminated [] := by simp [Terminated, openings]

theorem terminated_opening : Terminated ('\x1b' :: '[' :: cs) ↔ TerminatedBehind cs := by
  simp [Terminated, TerminatedBehind, openings]

theorem terminated_shown (h : ∀ rest, c = '\x1b' → cs = '[' :: rest → False) :
    Terminated (c :: cs) ↔ Terminated cs := by
  rw [Terminated, Terminated, openings.eq_3 c cs h]

theorem not_terminatedBehind_nil : ¬TerminatedBehind [] := by simp [TerminatedBehind]

theorem terminatedBehind_end : TerminatedBehind ('m' :: cs) ↔ Terminated cs := by
  simp [TerminatedBehind, Terminated, openingsBehind]

theorem terminatedBehind_inside (h : c = 'm' → False) :
    TerminatedBehind (c :: cs) ↔ TerminatedBehind cs := by
  have hne : 'm' ≠ c := fun heq => h heq.symm
  simp [TerminatedBehind, openingsBehind.eq_3 c cs h, hne]

/-- A character that starts no sequence does not start one with what is set behind the text either,
unless that begins with a bracket. -/
theorem shown_append (ht : t.head? ≠ some '[') (h : ∀ rest, c = '\x1b' → cs = '[' :: rest → False) :
    ∀ rest, c = '\x1b' → cs ++ t = '[' :: rest → False := by
  intro rest hc happend
  cases cs with
  | nil => simp [show t = '[' :: rest from happend] at ht
  | cons d cs =>
    obtain ⟨rfl, -⟩ := List.cons.inj happend
    exact h cs hc rfl

end

/-- A text without sequences is shown whole. -/
theorem visibleCount_of_openings : ∀ cs, openings cs = [] → visibleCount cs = cs.length := by
  refine visibleCount.induct _ (fun _ => True) ?_ ?_ ?_ trivial (fun _ _ => trivial)
    fun _ _ _ _ => trivial
  · intro _
    rfl
  · intro cs _ h
    simp [openings] at h
  · intro c cs hshown ih h
    rw [openings.eq_3 c cs hshown] at h
    rw [visibleCount.eq_3 c cs hshown, ih h, List.length_cons]

/-! ## Texts in a row -/

/-- **What a terminal shows of two texts in a row.** The second one is read from the start, or from
inside the sequence that the first one leaves open. -/
theorem visibleCount_append {t : List Char} (ht : t.head? ≠ some '[') :
    ∀ s, visibleCount (s ++ t) = visibleCount s + if Terminated s then visibleCount t
      else sequenceCount t := by
  refine visibleCount.induct _ (fun s => sequenceCount (s ++ t)
    = sequenceCount s + if TerminatedBehind s then visibleCount t else sequenceCount t)
    ?_ ?_ ?_ ?_ ?_ ?_
  · simp [visibleCount, terminated_nil]
  · intro cs ih
    simpa [visibleCount, terminated_opening] using ih
  · intro c cs h ih
    rw [List.cons_append, visibleCount.eq_3 c _ (shown_append ht h), ih, visibleCount.eq_3 c cs h]
    simp only [terminated_shown h, Nat.add_right_comm]
  -- From here on inside a sequence.
  · simp [sequenceCount, not_terminatedBehind_nil]
  · intro cs ih
    simpa [sequenceCount, terminatedBehind_end] using ih
  · intro c cs h ih
    simpa [sequenceCount.eq_3 c _ h, terminatedBehind_inside h] using ih

theorem terminated_append {t : List Char} (ht : t.head? ≠ some '[') :
    ∀ s, Terminated (s ++ t) ↔ if Terminated s then Terminated t else TerminatedBehind t := by
  refine visibleCount.induct _ (fun s => TerminatedBehind (s ++ t)
    ↔ if TerminatedBehind s then Terminated t else TerminatedBehind t) ?_ ?_ ?_ ?_ ?_ ?_
  · simp [terminated_nil]
  · intro cs ih
    simpa [terminated_opening] using ih
  · intro c cs h ih
    rw [List.cons_append, terminated_shown (shown_append ht h), ih]
    simp only [terminated_shown h]
  · simp [not_terminatedBehind_nil]
  · intro cs ih
    simpa [terminatedBehind_end] using ih
  · intro c cs h ih
    simpa [terminatedBehind_inside h] using ih

/-- Inside a sequence nothing is shown up to its end. -/
theorem sequenceCount_of_not_mem {params : List Char} (h : 'm' ∉ params) (cs : List Char) :
    sequenceCount (params ++ cs) = sequenceCount cs := by
  induction params with
  | nil => rfl
  | cons c params ih =>
    simp only [List.mem_cons, not_or] at h
    rw [List.cons_append, sequenceCount.eq_3 c _ fun heq => h.1 heq.symm, ih h.2]

theorem terminatedBehind_of_not_mem {params : List Char} (h : 'm' ∉ params) (cs : List Char) :
    TerminatedBehind (params ++ cs) ↔ TerminatedBehind cs := by
  induction params with
  | nil => rfl
  | cons c params ih =>
    simp only [List.mem_cons, not_or] at h
    rw [List.cons_append, terminatedBehind_inside fun heq => h.1 heq.symm, ih h.2]

/-! ## Styles -/

theorem not_mem_code (code : Nat) : 'm' ∉ (toString code).toList := by
  intro hmem
  rw [Nat.toString_eq_repr, Nat.toList_repr] at hmem
  have hdigit := Nat.isDigit_of_mem_toDigits (by decide) (by decide) hmem
  revert hdigit
  decide

theorem toList_apply (style : Style) (text : String) : (style.apply text).toList
    = '\x1b' :: '[' :: ((toString style.code).toList
      ++ 'm' :: (text.toList ++ Style.reset.toList)) := by
  simp [Style.apply, Style.paint]

/-- **A style takes no room.** -/
theorem visibleLength_apply (style : Style) (text : String) :
    visibleLength (style.apply text) = visibleLength text := by
  have hreset : visibleCount Style.reset.toList = 0 ∧ sequenceCount Style.reset.toList = 0 := by
    decide
  have hhead : Style.reset.toList.head? ≠ some '[' := by decide
  unfold visibleLength
  rw [toList_apply, visibleCount, sequenceCount_of_not_mem (not_mem_code _), sequenceCount,
    visibleCount_append hhead, hreset.1, hreset.2]
  simp

/-- A text in a style ends outside of sequences, also if the text itself does not. -/
theorem terminated_apply (style : Style) (text : String) :
    Terminated (style.apply text).toList := by
  have hreset : Terminated Style.reset.toList ∧ TerminatedBehind Style.reset.toList := by decide
  have hhead : Style.reset.toList.head? ≠ some '[' := by decide
  rw [toList_apply, terminated_opening, terminatedBehind_of_not_mem (not_mem_code _),
    terminatedBehind_end, terminated_append hhead]
  split
  · exact hreset.1
  · exact hreset.2

/-! ## Padding -/

theorem visibleCount_spaces (n : Nat) (cs : List Char) :
    visibleCount (List.replicate n ' ' ++ cs) = n + visibleCount cs := by
  induction n with
  | zero => simp
  | succ n ih =>
    rw [List.replicate_succ, List.cons_append, visibleCount.eq_3 _ _ (by simp), ih]
    omega

/-- Spaces around a text are shown, but for those behind an open sequence. -/
theorem visibleLength_padded (before after : Nat) (text : String) :
    visibleLength (spaces before ++ text ++ spaces after)
      = before + visibleLength text + if Terminated text.toList then after else 0 := by
  have hhead : (List.replicate after ' ').head? ≠ some '[' := by
    cases after <;> simp [List.replicate_succ]
  have hshown : visibleCount (List.replicate after ' ') = after := by
    simpa [visibleCount] using visibleCount_spaces after []
  have hlost : sequenceCount (List.replicate after ' ') = 0 := by
    have hnot : 'm' ∉ List.replicate after ' ' := by simp
    simpa [sequenceCount] using sequenceCount_of_not_mem hnot []
  simp only [visibleLength, spaces, String.toList_append, String.toList_ofList, List.append_assoc]
  rw [visibleCount_spaces, visibleCount_append hhead, hshown, hlost, Nat.add_assoc]

end Layout

/-- How much of the padding goes before the text: nothing, half of it rounded down, or all. -/
def Alignment.ahead : Alignment → Nat → Nat
  | .left, _ => 0
  | .center, padding => padding / 2
  | .right, padding => padding

theorem Alignment.ahead_le (alignment : Alignment) (padding : Nat) :
    alignment.ahead padding ≤ padding := by
  cases alignment <;> simp only [ahead] <;> omega

namespace Layout

/-- The spaces that a text needs to fill a width. -/
def padding (width : Nat) (text : String) : Nat := width - visibleLength text

theorem align_eq (alignment : Alignment) (width : Nat) (text : String) :
    align alignment width text = spaces (alignment.ahead (padding width text)) ++ text
      ++ spaces (padding width text - alignment.ahead (padding width text)) := by
  cases alignment <;> simp [align, Alignment.ahead, padding, spaces]

theorem visibleLength_align (alignment : Alignment) (width : Nat) {text : String}
    (h : Terminated text.toList) :
    visibleLength (align alignment width text) = max width (visibleLength text) := by
  have hle := alignment.ahead_le (padding width text)
  rw [align_eq, visibleLength_padded, if_pos h]
  unfold padding at *
  omega

/-- **Visible widths are exact.** A style does not change the width of any text. An alignment sets
just the spaces that are missing around a text, and the result is as wide as it was to be if all
sequences of the text end in it; those of a styled text always do. -/
theorem visible_width_exact :
    (∀ (style : Style) (text : String), visibleLength (style.apply text) = visibleLength text)
      ∧ (∀ (alignment : Alignment) (width : Nat) (text : String), ∃ before after,
        align alignment width text = spaces before ++ text ++ spaces after
        ∧ before + after = width - visibleLength text
        ∧ (alignment = .left → before = 0) ∧ (alignment = .right → after = 0)
        ∧ (alignment = .center → before = (width - visibleLength text) / 2)
        ∧ (Terminated text.toList →
          visibleLength (align alignment width text) = max width (visibleLength text)))
      ∧ ∀ (style : Style) (alignment : Alignment) (width : Nat) (text : String),
        visibleLength (align alignment width (style.apply text))
          = max width (visibleLength text) := by
  refine ⟨visibleLength_apply, ?_, ?_⟩
  · intro alignment width text
    refine ⟨_, _, align_eq alignment width text, ?_, ?_, ?_, ?_,
      visibleLength_align alignment width⟩
    · exact Nat.add_sub_cancel' (alignment.ahead_le _)
    · rintro rfl
      rfl
    · rintro rfl
      exact Nat.sub_self _
    · rintro rfl
      rfl
  · intro style alignment width text
    rw [visibleLength_align alignment width (terminated_apply style text), visibleLength_apply]

/-- A text with a sequence that ends and an escape that starts none. -/
theorem visible_width_exact_center :
    let text := "\x1b[1mab\x1b"
    Terminated text.toList ∧ ∃ before after,
      align .center 8 text = spaces before ++ text ++ spaces after
        ∧ before + after = 5 ∧ before = 2 ∧ visibleLength (align .center 8 text) = 8 := by
  intro text
  have hterminated : Terminated text.toList := by decide
  have hvisible : visibleLength text = 3 := by decide
  obtain ⟨before, after, halign, hsum, -, -, hcenter, hwidth⟩ :=
    visible_width_exact.2.1 .center 8 text
  rw [hvisible] at hsum hcenter hwidth
  exact ⟨hterminated, before, after, halign, hsum, hcenter rfl, hwidth hterminated⟩

end Layout

end Calculator
