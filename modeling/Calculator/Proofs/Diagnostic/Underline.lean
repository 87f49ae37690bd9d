import Calculator.Diagnostic
import Calculator.Proofs.Session.Located

/-!
# What a diagnostic underlines

The span of a fault is counted in bytes, and the label of a diagnostic in characters. The one is
taken for the other (`Diagnostic.labelled`), so the label starts as many characters too far right as
there are bytes beyond the first in the characters before it, and is too long by those within. A
label that goes beyond the text is not drawn at all (`Diagnostic.draw`); what is said here is about
the label, drawn or not.

Every fault of a program splits its source into what stands before the span, within it and after it
(`Session.run_fault_split`), and `Session.run_fault_underlined` says for which texts the label
selects just what is within: where nothing is, or where all characters up to the end of the span
have one byte each. Those within may have more if the span goes to the end of the source, where
there is nothing more to select.
-/

namespace Calculator

/-! ## Bytes and characters -/

theorem length_le_byteLength (cs : List Char) : cs.length ≤ byteLength cs := by
  induction cs with
  | nil => exact Nat.le_refl _
  | cons c cs ih =>
    have hpos := c.utf8Size_pos
    simp only [byteLength, List.length_cons]
    omega

/-- Only characters of one byte are as many as their bytes. -/
theorem byteLength_eq_length_iff (cs : List Char) :
    byteLength cs = cs.length ↔ ∀ c ∈ cs, c.utf8Size = 1 := by
  induction cs with
  | nil => simp [byteLength]
  | cons c cs ih =>
    have hpos := c.utf8Size_pos
    have hle := length_le_byteLength cs
    rw [List.forall_mem_cons, ← ih, byteLength, List.length_cons]
    omega

/-- Positions of characters are in the order of their bytes. -/
theorem byteLength_take_le_iff {chars : List Char} {j k : Nat} (hj : j ≤ chars.length) :
    byteLength (chars.take j) ≤ byteLength (chars.take k) ↔ j ≤ k := by
  constructor
  · intro h
    by_contra hlt
    have hsplit : chars.take j = chars.take k ++ (chars.drop k).take (j - k) := by
      rw [← List.take_add]
      congr 1
      omega
    have hmore : (chars.drop k).take (j - k) ≠ [] := by
      rw [← List.length_pos_iff, List.length_take, List.length_drop]
      omega
    have hpos := byteLength_pos hmore
    rw [hsplit, byteLength_append] at h
    omega
  · intro h
    obtain ⟨more, hmore⟩ := List.take_prefix_take_left (l := chars) h
    rw [← hmore, byteLength_append]
    exact Nat.le_add_right _ _

theorem IsBoundary.exists_take {source : String} {p : Nat} (h : IsBoundary source p) :
    ∃ k ≤ source.toList.length, byteLength (source.toList.take k) = p := by
  obtain ⟨before, after, rfl, rfl⟩ := h
  refine ⟨before.toList.length, ?_, ?_⟩
  · simp
  · rw [String.toList_append, List.take_left, utf8ByteSize_eq_byteLength]

/-- Two places between characters split a text into three. -/
theorem exists_between {source : String} {p q : Nat} (hp : IsBoundary source p)
    (hq : IsBoundary source q) (hpq : p ≤ q) :
    ∃ before inside after : List Char, source.toList = before ++ inside ++ after
      ∧ byteLength before = p ∧ byteLength (before ++ inside) = q := by
  obtain ⟨i, hi, rfl⟩ := hp.exists_take
  obtain ⟨j, hj, rfl⟩ := hq.exists_take
  have hij : i ≤ j := (byteLength_take_le_iff hi).1 hpq
  have hinside : source.toList.take i ++ (source.toList.drop i).take (j - i)
      = source.toList.take j := by
    rw [← List.take_add, Nat.add_sub_cancel' hij]
  refine ⟨source.toList.take i, (source.toList.drop i).take (j - i), source.toList.drop j,
    ?_, rfl, ?_⟩
  · rw [hinside, List.take_append_drop]
  · rw [hinside]

namespace Diagnostic

/-! ## Labels -/

/-- The label goes over the character at position `k`. -/
def Selects (label : Span) (k : Nat) : Prop := label.start ≤ k ∧ k < label.stop

/-- All bytes of the character at position `k` lie in the span. -/
def Covers (chars : List Char) (span : Span) (k : Nat) : Prop :=
  span.start ≤ byteLength (chars.take k) ∧ byteLength (chars.take (k + 1)) ≤ span.stop

/-- Of the characters of the source, the label of a span selects just those that the span covers. -/
def Underlines (source : String) (span : Span) : Prop :=
  let label := labelled (byteLength source.toList) span
  ∀ k < source.toList.length, Selects label k ↔ Covers source.toList label k

variable {before inside after : List Char}

/-- A span that starts and stops between characters covers those between. -/
theorem covers_iff {k : Nat} (hk : k < (before ++ inside ++ after).length) :
    Covers (before ++ inside ++ after) ⟨byteLength before, byteLength (before ++ inside)⟩ k
      ↔ before.length ≤ k ∧ k < (before ++ inside).length := by
  have hstart : byteLength before
      = byteLength ((before ++ inside ++ after).take before.length) := by
    rw [List.append_assoc, List.take_left]
  have hstop : byteLength (before ++ inside)
      = byteLength ((before ++ inside ++ after).take (before ++ inside).length) := by
    rw [List.take_left]
  simp only [Covers]
  rw [hstart, hstop, byteLength_take_le_iff (by simp), byteLength_take_le_iff hk,
    Nat.succ_le_iff]

/-- The label and the span select the same exactly if characters are bytes as far as it matters. -/
theorem selects_iff_covers :
    (∀ k < (before ++ inside ++ after).length,
      Selects ⟨byteLength before, byteLength (before ++ inside)⟩ k
        ↔ before.length ≤ k ∧ k < (before ++ inside).length)
    ↔ inside = [] ∨ (∀ c ∈ before, c.utf8Size = 1)
      ∧ ((∀ c ∈ inside, c.utf8Size = 1) ∨ after = []) := by
  have hbefore := length_le_byteLength before
  have hinside := length_le_byteLength inside
  simp only [← byteLength_eq_length_iff, ← List.length_eq_zero_iff, Selects, byteLength_append,
    List.length_append]
  constructor
  · intro h
    by_cases hempty : inside.length = 0
    · exact .inl hempty
    · -- The first character within tells about those before, the first behind about those within.
      have hfirst := h before.length (by omega)
      refine .inr ⟨by omega, ?_⟩
      by_cases hend : after.length = 0
      · exact .inr hend
      · have hnext := h (before.length + inside.length) (by omega)
        exact .inl (by omega)
  · intro h k hk
    rcases h with hempty | ⟨hone, hone' | hend⟩
    · have hnone : inside = [] := List.length_eq_zero_iff.1 hempty
      simp only [hnone, byteLength, List.length_nil]
      omega
    · omega
    · omega

end Diagnostic

/-! ## Faults -/

open Diagnostic (Selects Covers Underlines labelled)

/-- The label of a span that can be shown is the span itself, without what lies beyond the end. -/
theorem Span.Usable.labelled_eq {source : String} {span : Span} (h : span.Usable source) :
    labelled (byteLength source.toList) span
      = ⟨span.start, min span.stop source.utf8ByteSize⟩ := by
  have hstart := h.start_le
  have hnonempty := h.nonempty
  rw [← utf8ByteSize_eq_byteLength]
  simp only [labelled]
  rw [Nat.min_eq_left hstart, Nat.max_eq_right (by omega)]

/-- A span that can be shown splits its source. -/
theorem Span.Usable.split {source : String} {span : Span} (h : span.Usable source) :
    ∃ before inside after : List Char, source.toList = before ++ inside ++ after
      ∧ labelled (byteLength source.toList) span
        = ⟨byteLength before, byteLength (before ++ inside)⟩ := by
  have hle : span.start ≤ min span.stop source.utf8ByteSize :=
    Nat.le_min.2 ⟨h.nonempty.le, h.start_le⟩
  obtain ⟨before, inside, after, hsource, hstart, hstop⟩ := exists_between h.start h.stop hle
  exact ⟨before, inside, after, hsource, by rw [h.labelled_eq, hstart, hstop]⟩

theorem Session.run_fault_split {source : String} {s s' : Session} {fault : Fault}
    (h : Session.run source s = .error fault s') :
    ∃ before inside after : List Char, source.toList = before ++ inside ++ after
      ∧ labelled (byteLength source.toList) fault.span
        = ⟨byteLength before, byteLength (before ++ inside)⟩ := by
  cases hparse : Expr.parse source with
  | error fault' =>
    rw [Session.run_of_fault hparse] at h
    cases h
    exact (Expr.parse_fault_usable hparse).split
  | ok e =>
    rw [Session.run_of_parse hparse] at h
    exact (Expr.evaluate_fault_usable hparse h).split

/-- **A label selects what is wrong as far as characters are bytes.** Whatever the fault of a source
is, its span is a part of the text. The label starts and stops at the characters that have the
numbers of its bytes. It selects just this part exactly if the part is empty, or if there are only
characters of one byte before it, and within it too unless it goes to the end. -/
theorem Session.run_fault_underlined {source : String} {s s' : Session} {fault : Fault}
    (h : Session.run source s = .error fault s') :
    let label := labelled (byteLength source.toList) fault.span
    ∃ before inside after : List Char, source.toList = before ++ inside ++ after
      ∧ label = ⟨byteLength before, byteLength (before ++ inside)⟩
      ∧ (∀ k < source.toList.length, Covers source.toList label k
        ↔ before.length ≤ k ∧ k < (before ++ inside).length)
      ∧ (Underlines source fault.span ↔ inside = [] ∨ (∀ c ∈ before, c.utf8Size = 1)
        ∧ ((∀ c ∈ inside, c.utf8Size = 1) ∨ after = [])) := by
  intro label
  obtain ⟨before, inside, after, hsource, hlabel⟩ := Session.run_fault_split h
  have hcovers : ∀ k < source.toList.length, Covers source.toList label k
      ↔ before.length ≤ k ∧ k < (before ++ inside).length := by
    intro k hk
    simp only [label, hlabel]
    rw [hsource] at hk ⊢
    exact Diagnostic.covers_iff hk
  refine ⟨before, inside, after, hsource, hlabel, hcovers, ?_⟩
  rw [← Diagnostic.selects_iff_covers, ← hsource, ← hlabel]
  exact forall₂_congr fun k hk => iff_congr Iff.rfl (hcovers k hk)

/-- A comment behind the fault may have any characters. -/
theorem Session.run_fault_underlined_comment :
    Session.run "x # é" {} = .error ⟨.undefinedVariable "x", ⟨0, 1⟩, none⟩ {}
      ∧ Underlines "x # é" ⟨0, 1⟩ := by
  have hrun : Session.run "x # é" {} = .error ⟨.undefinedVariable "x", ⟨0, 1⟩, none⟩ {} :=
    eq_error_of_fault? (by decide +kernel)
  obtain ⟨before, inside, after, -, hlabel, -, hunderlines⟩ := Session.run_fault_underlined hrun
  have hplace : labelled (byteLength "x # é".toList) ⟨0, 1⟩ = ⟨0, 1⟩ := by decide
  obtain ⟨hstart, hstop⟩ := Span.mk.inj (hplace.symm.trans hlabel)
  have hbefore := length_le_byteLength before
  have hinside := length_le_byteLength inside
  rw [byteLength_append] at hstop
  refine ⟨hrun, hunderlines.2 (.inr ⟨?_, .inl ?_⟩)⟩
  · exact (byteLength_eq_length_iff before).1 (by omega)
  · have hne : inside ≠ [] := by
      rintro rfl
      simp only [byteLength] at hstop
      omega
    have hpos := List.length_pos_iff.2 hne
    exact (byteLength_eq_length_iff inside).1 (by omega)

/-- A character of two bytes before the fault: the variable is at position four and the sign behind
it is underlined. -/
theorem Session.run_fault_not_underlined :
    let source := "\"é\"+x+1"
    Session.run source {} = .error ⟨.undefinedVariable "x", ⟨5, 6⟩, none⟩ {}
      ∧ ¬Underlines source ⟨5, 6⟩
      ∧ source.toList[4]? = some 'x' ∧ Covers source.toList ⟨5, 6⟩ 4 ∧ ¬Selects ⟨5, 6⟩ 4
      ∧ source.toList[5]? = some '+' ∧ ¬Covers source.toList ⟨5, 6⟩ 5 ∧ Selects ⟨5, 6⟩ 5 := by
  intro source
  have hrun : Session.run source {} = .error ⟨.undefinedVariable "x", ⟨5, 6⟩, none⟩ {} :=
    eq_error_of_fault? (by decide +kernel)
  have hplace : labelled (byteLength source.toList) ⟨5, 6⟩ = ⟨5, 6⟩ := by decide
  have hvariable : Covers source.toList ⟨5, 6⟩ 4 ∧ ¬Selects ⟨5, 6⟩ 4 := by
    unfold Covers Selects
    decide
  have hsign : ¬Covers source.toList ⟨5, 6⟩ 5 ∧ Selects ⟨5, 6⟩ 5 := by
    unfold Covers Selects
    decide
  refine ⟨hrun, fun hunderlines => ?_, by decide, hvariable.1, hvariable.2, by decide, hsign.1,
    hsign.2⟩
  have hfour := hunderlines 4 (by decide)
  rw [hplace] at hfour
  exact hvariable.2 (hfour.2 hvariable.1)

end Calculator
