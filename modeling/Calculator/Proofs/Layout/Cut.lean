import Calculator.Proofs.Layout.Width
import Calculator.Proofs.Session.Evaluation
import Calculator.Proofs.Token.Quoting
import Calculator.Proofs.Value.Grouping

/-!
# Styled and padded texts that are cut

The functions of style and layout give text values, and these hold no more than `Text.maxLength`
characters. A style adds seven characters and its code, and an alignment spaces; what is then too
long is cut at the end like any other text. Widths are counted in characters that are shown and the
cut in all of them, so a text with sequences in it can be cut although the width asked for is no
larger than the bound.

* `Builtin.call_style`, `Builtin.call_align`: what the calls give.
* `styling_within_bound`: a result is whole exactly if all its characters are within the bound, and
  then has all that was put together: text, reset and width. A text without sequences always fits
  into its field. Beyond the bound the text is still whole if nothing but what stands behind it is
  cut.
* `styling_beyond_bound`: beyond the bound text, reset and width can all be lost.
-/

namespace Calculator

/-! ## Calls -/

namespace Builtin

/-- The name of a style is neither that of another function nor an alias, and no two styles have one
name. -/
theorem find?_style {style : Style} (h : style ∈ Style.all) :
    find? style.name = some (ofStyle style) := by
  have htable : ∀ style ∈ Style.all, (findFunction? style.name).isNone
      ∧ (findAlias? style.name).isNone ∧ Style.find? style.name = some style := by
    decide +kernel
  obtain ⟨hfunction, halias, hstyle⟩ := htable style h
  simp [find?, Option.isNone_iff_eq_none.1 hfunction, Option.isNone_iff_eq_none.1 halias, hstyle]

theorem call_style {style : Style} (h : style ∈ Style.all) (value : Value) (desk : Desk) :
    call style.name [value] desk
      = .ok (.value (.text (Text.bounded (style.apply (value.toText none)))), desk) := by
  rw [call_of_find? (find?_style h)]
  rfl

theorem call_align (alignment : Alignment) (width : Number) (value : Value) (desk : Desk) :
    call alignment.name [.number width, value] desk
      = .ok (.value (.text (Text.bounded
        (Layout.align alignment (Layout.widthOf width) (value.toText none)))), desk) := by
  cases alignment <;> rfl

end Builtin

/-! ## What is left of a text -/

namespace Text

theorem bounded_eq_self_iff {s : String} : bounded s = s ↔ s.length ≤ maxLength := by
  constructor
  · intro h
    rw [← h]
    exact (bounded_isCut s).length_le
  · exact bounded_of_length_le

/-- A part of a text that is within the bound with all that stands before it is not cut. -/
theorem infix_bounded {s part : String} {front back : List Char}
    (hs : s.toList = front ++ part.toList ++ back)
    (h : front.length + part.length ≤ maxLength) : part.toList <:+: (bounded s).toList := by
  have hfit : (front ++ part.toList).length ≤ maxLength := by
    rwa [List.length_append, String.length_toList]
  rw [toList_bounded, hs, List.take_append, List.take_of_length_le hfit]
  exact List.infix_append _ _ _

end Text

namespace Layout

open Text (bounded maxLength)

theorem length_apply (style : Style) (text : String) :
    (style.apply text).length = text.length + (toString style.code).length + 7 := by
  have hreset : Style.reset.toList.length = 4 := by decide
  rw [← String.length_toList, toList_apply]
  simp only [List.length_cons, List.length_append, String.length_toList, hreset]
  omega

theorem length_align (alignment : Alignment) (width : Nat) (text : String) :
    (align alignment width text).length = text.length + padding width text := by
  have hle := alignment.ahead_le (padding width text)
  rw [align_eq]
  simp only [String.length_append, spaces, String.length_ofList, List.length_replicate]
  omega

theorem widthOf_le (n : Number) : widthOf n ≤ maxLength := by
  unfold widthOf Number.clampedInteger
  split
  · exact Nat.zero_le _
  · split
    · split
      · exact Nat.zero_le _
      · exact Nat.le_refl _
    · omega

/-- A text without sequences fits into every field that can be asked for. -/
theorem length_padded_le {text : String} (hplain : openings text.toList = [])
    (hlength : text.length ≤ maxLength) (n : Number) :
    text.length + padding (widthOf n) text ≤ maxLength := by
  have hvisible : visibleLength text = text.length := by
    rw [visibleLength, visibleCount_of_openings _ hplain, String.length_toList]
  have hwidth := widthOf_le n
  unfold padding
  omega

/-! ## Results -/

/-- What is left of a text in a style: the beginning that is within the bound. -/
structure IsStyled (style : Style) (text s : String) : Prop where
  cut : s.toList = (style.apply text).toList.take maxLength
  whole : s = style.apply text ↔ text.length + (toString style.code).length + 7 ≤ maxLength
  keepsReset : text.length + (toString style.code).length + 7 ≤ maxLength →
    Style.reset.toList <:+ s.toList
  keepsText : text.length + (toString style.code).length + 3 ≤ maxLength →
    text.toList <:+: s.toList

theorem bounded_isStyled (style : Style) (text : String) :
    IsStyled style text (bounded (style.apply text)) := by
  have hlength := length_apply style text
  have hwhole : bounded (style.apply text) = style.apply text
      ↔ text.length + (toString style.code).length + 7 ≤ maxLength := by
    rw [Text.bounded_eq_self_iff, hlength]
  constructor
  case cut => exact Text.toList_bounded _
  case whole => exact hwhole
  case keepsReset =>
    intro hfits
    rw [hwhole.2 hfits, toList_apply]
    refine ⟨'\x1b' :: '[' :: ((toString style.code).toList ++ 'm' :: text.toList), ?_⟩
    simp
  case keepsText =>
    intro hfits
    refine Text.infix_bounded
      (show _ = ('\x1b' :: '[' :: ((toString style.code).toList ++ ['m'])) ++ text.toList
        ++ Style.reset.toList by rw [toList_apply]; simp) ?_
    simp only [List.length_cons, List.length_append, List.length_nil, String.length_toList]
    omega

/-- What is left of a text that was set into a field: the beginning that is within the bound. -/
structure IsAligned (alignment : Alignment) (width : Nat) (text s : String) : Prop where
  cut : s.toList = (align alignment width text).toList.take maxLength
  whole : s = align alignment width text ↔ text.length + padding width text ≤ maxLength
  keepsText : alignment.ahead (padding width text) + text.length ≤ maxLength →
    text.toList <:+: s.toList
  keepsWidth : text.length + padding width text ≤ maxLength → Terminated text.toList →
    visibleLength s = max width (visibleLength text)

theorem bounded_isAligned (alignment : Alignment) (width : Nat) (text : String) :
    IsAligned alignment width text (bounded (align alignment width text)) := by
  have hwhole : bounded (align alignment width text) = align alignment width text
      ↔ text.length + padding width text ≤ maxLength := by
    rw [Text.bounded_eq_self_iff, length_align]
  constructor
  case cut => exact Text.toList_bounded _
  case whole => exact hwhole
  case keepsText =>
    intro hfits
    refine Text.infix_bounded (show _ = (spaces _).toList ++ text.toList ++ (spaces _).toList by
      rw [align_eq, String.toList_append, String.toList_append]) ?_
    simpa [spaces] using hfits
  case keepsWidth =>
    intro hfits hterminated
    rw [hwhole.2 hfits, visibleLength_align alignment width hterminated]

/-- **Within the bound, styles and alignments lose nothing.** Every call gives a text, which is what
is left of the styled or padded one within the bound. It is whole exactly if all characters, codes
and spaces included, are no more than that, and then ends with the reset or has the width asked for.
The text in it is whole as long as it is within the bound with what stands before it, and always so
in a field if it has no sequences. -/
theorem styling_within_bound :
    (∀ style ∈ Style.all, ∀ (value : Value) (desk : Desk), ∃ s,
      Builtin.call style.name [value] desk = .ok (.value (.text s), desk)
        ∧ IsStyled style (value.toText none) s)
      ∧ ∀ (alignment : Alignment) (n : Number) (value : Value) (desk : Desk), ∃ s,
        Builtin.call alignment.name [.number n, value] desk = .ok (.value (.text s), desk)
          ∧ IsAligned alignment (widthOf n) (value.toText none) s
          ∧ ((value.toText none).length ≤ maxLength → openings (value.toText none).toList = [] →
            (value.toText none).toList <:+: s.toList
              ∧ visibleLength s = max (widthOf n) (visibleLength (value.toText none))) := by
  constructor
  · intro style hstyle value desk
    exact ⟨_, Builtin.call_style hstyle value desk, bounded_isStyled style _⟩
  · intro alignment n value desk
    have haligned := bounded_isAligned alignment (widthOf n) (value.toText none)
    refine ⟨_, Builtin.call_align alignment n value desk, haligned, ?_⟩
    intro hlength hplain
    have hfits := length_padded_le hplain hlength n
    have hahead := alignment.ahead_le (padding (widthOf n) (value.toText none))
    refine ⟨haligned.keepsText (by omega), haligned.keepsWidth hfits ?_⟩
    rw [Terminated, hplain]
    exact List.forall_mem_nil _

/-- A number in bold, and a text with a sequence in a field of seven. -/
theorem styling_within_bound_bold :
    (∃ s, Builtin.call "bold" [.number 7] {} = .ok (.value (.text s), {})
        ∧ Style.reset.toList <:+ s.toList ∧ "7".toList <:+: s.toList)
      ∧ ∃ s, Builtin.call "center" [.number 7, .text "\x1b[1mab\x1b[0m"] {}
          = .ok (.value (.text s), {})
        ∧ "\x1b[1mab\x1b[0m".toList <:+: s.toList ∧ visibleLength s = 7 := by
  have hseven : (Value.number 7).toText none = "7" := by decide +kernel
  have hwidth : widthOf 7 = 7 := by decide +kernel
  obtain ⟨hstyles, haligns⟩ := styling_within_bound
  obtain ⟨s, hcall, hs⟩ := hstyles ⟨"bold", 1⟩ (by decide) (.number 7) {}
  obtain ⟨t, hcall', ht, -⟩ := haligns .center 7 (.text "\x1b[1mab\x1b[0m") {}
  rw [hseven] at hs
  rw [hwidth] at ht
  refine ⟨⟨s, hcall, hs.keepsReset (by decide), hs.keepsText (by decide)⟩, t, hcall',
    ht.keepsText (by decide), ?_⟩
  rw [ht.keepsWidth (by decide) (by decide)]
  decide

/-- **Beyond the bound they do.** The text alone is within it here, but in red its end and the reset
are cut. A short text in red, at the right of the widest field there is, loses all but the start of
its first sequence, and with it the width. -/
theorem styling_beyond_bound :
    let text := String.ofList (List.replicate 255 'a')
    let styled := "\x1b[31mhi\x1b[0m"
    (text.length ≤ maxLength ∧ ∃ s, Builtin.call "red" [.text text] {} = .ok (.value (.text s), {})
        ∧ ¬Style.reset.toList <:+ s.toList ∧ ¬text.toList <:+: s.toList)
      ∧ styled.length ≤ maxLength ∧ Terminated styled.toList
      ∧ ∃ s, Builtin.call "right" [.number ⟨0x406fe00000000000⟩, .text styled] {}
          = .ok (.value (.text s), {})
        ∧ ¬styled.toList <:+: s.toList
        ∧ visibleLength s ≠ max (widthOf ⟨0x406fe00000000000⟩) (visibleLength styled) := by
  intro text styled
  have hlength : text.length = 255 := by rw [String.length_ofList, List.length_replicate]
  have htext : text.toList = List.replicate 255 'a' := String.toList_ofList
  have hwidth : widthOf ⟨0x406fe00000000000⟩ = 255 := by decide +kernel
  have hred : (bounded ((⟨"red", 31⟩ : Style).apply text)).toList
      = "\x1b[31m".toList ++ List.replicate 250 'a' := by
    have hcode : (toString 31).toList = ['3', '1'] := by decide
    have hrest : (List.replicate 255 'a' ++ Style.reset.toList).take 250
        = List.replicate 250 'a' := by
      rw [List.take_append_of_le_length (by rw [List.length_replicate]; decide),
        List.take_replicate, Nat.min_eq_left (by decide)]
    rw [Text.toList_bounded, toList_apply, htext, hcode, show maxLength = 5 + 250 from rfl,
      List.take_add]
    exact congrArg ("\x1b[31m".toList ++ ·) hrest
  have hright : (bounded (align .right 255 styled)).toList
      = List.replicate 253 ' ' ++ ['\x1b', '['] := by
    have hvisible : visibleLength styled = 2 := by decide
    have hleft : styled.toList.take (maxLength - (255 - 2)) = ['\x1b', '['] := by decide
    rw [Text.toList_bounded, align, hvisible, String.toList_append, spaces, String.toList_ofList,
      List.take_append, List.length_replicate, List.take_replicate, Nat.min_eq_right (by decide),
      hleft]
  have hmem : (⟨"red", 31⟩ : Style) ∈ Style.all := by decide
  refine ⟨⟨hlength.le, _, Builtin.call_style hmem (.text text) {}, ?_, ?_⟩, by decide, by decide,
    _, Builtin.call_align .right ⟨0x406fe00000000000⟩ (.text styled) {}, ?_, ?_⟩
  · rw [Value.toText, hred]
    intro hsuffix
    have hzero := hsuffix.subset (show '0' ∈ Style.reset.toList by decide)
    rw [List.mem_append, List.mem_replicate] at hzero
    exact absurd hzero (by decide)
  · rw [Value.toText, hred, htext]
    intro hinfix
    have hcount := hinfix.sublist.count_le 'a'
    rw [List.count_append, List.count_replicate_self, List.count_replicate_self] at hcount
    exact absurd hcount (by decide)
  · rw [Value.toText, hwidth, hright]
    intro hinfix
    have hletter := hinfix.subset (show 'h' ∈ styled.toList by decide)
    rw [List.mem_append, List.mem_replicate] at hletter
    exact absurd hletter (by decide)
  · rw [Value.toText, hwidth, visibleLength, hright, visibleCount_spaces]
    decide

end Layout

end Calculator
