import Calculator.Proofs.Token.Standing
import Calculator.Value

/-!
# Joined texts

Joining values cuts the text after each step, and a step may stand anywhere in an expression. The
cuts in between do not show: `Text.bounded_append` says that a cut before joining is made again by
the cut after it. So all ways to put brackets around a list of values (`Value.Grouping`) come to the
same text, which is the longest beginning of all texts in a row that is short enough
(`Value.concat_grouping`).
-/

namespace Calculator

/-! ## Cutting texts -/

namespace Text

/-- The text is the longest beginning of `whole` that is not too long. -/
structure IsCut (whole text : String) : Prop where
  starts : ∃ rest, whole = text ++ rest
  boundary : IsBoundary whole text.utf8ByteSize
  length_le : text.length ≤ maxLength
  longest {start rest : String} (h : whole = start ++ rest) (hlength : start.length ≤ maxLength) :
    ∃ more, text = start ++ more

theorem toList_bounded (s : String) : (bounded s).toList = s.toList.take maxLength := by
  simp [bounded]

theorem append_rest (s : String) : s = bounded s ++ String.ofList (s.toList.drop maxLength) := by
  rw [← String.toList_inj, String.toList_append, toList_bounded, String.toList_ofList,
    List.take_append_drop]

theorem bounded_isCut (s : String) : IsCut s (bounded s) where
  starts := ⟨_, append_rest s⟩
  boundary := ⟨_, _, append_rest s, rfl⟩
  length_le := by
    rw [← String.length_toList, toList_bounded]
    exact List.length_take_le _ _
  longest {start rest} h hlength := by
    have hstart : start.toList <+: s.toList.take maxLength := by
      rw [List.prefix_take_iff, h, String.toList_append, String.length_toList]
      exact ⟨List.prefix_append _ _, hlength⟩
    obtain ⟨more, hmore⟩ := hstart
    refine ⟨String.ofList more, ?_⟩
    rw [← String.toList_inj, toList_bounded, String.toList_append, String.toList_ofList, hmore]

/-- A text that is cut before it is joined with another one is cut again behind the same
characters. -/
theorem bounded_append (s t : String) : bounded (bounded s ++ bounded t) = bounded (s ++ t) := by
  rw [← String.toList_inj]
  simp only [toList_bounded, String.toList_append, List.take_append, List.take_take,
    List.length_take, Nat.min_self]
  congr 1
  -- What is left for the second text is nothing wherever the first one was cut.
  rcases Nat.le_total maxLength s.toList.length with h | h
  · rw [Nat.min_eq_left h, Nat.sub_self, Nat.sub_eq_zero_of_le h, Nat.zero_min]
  · rw [Nat.min_eq_right h, Nat.min_eq_left (Nat.sub_le _ _)]

theorem bounded_bounded (s : String) : bounded (bounded s) = bounded s := by
  rw [← String.toList_inj, toList_bounded, toList_bounded, List.take_take, Nat.min_self]

end Text

/-! ## Groupings -/

namespace Value

open Text (bounded maxLength)

/-- The texts of values in a row. -/
def joined (places : Nat) (values : List Value) : String :=
  String.join (values.map (toText (some places)))

theorem joined_append (places : Nat) (values more : List Value) :
    joined places (values ++ more) = joined places values ++ joined places more := by
  rw [← String.toList_inj]
  simp only [joined, String.toList_join, String.toList_append, List.map_append,
    List.flatMap_append]

/-- A way to join values two at a time. -/
inductive Grouping where
  | value (v : Value)
  | join (left right : Grouping)

namespace Grouping

/-- The values from the left. -/
def values : Grouping → List Value
  | .value v => [v]
  | .join left right => left.values ++ right.values

/-- What joining comes to. -/
def result (places : Nat) : Grouping → Value
  | .value v => v
  | .join left right => Value.concat places (left.result places) (right.result places)

/-- However the values are grouped, a cut leaves the same text. -/
theorem bounded_result (places : Nat) (g : Grouping) :
    bounded ((g.result places).toText (some places)) = bounded (joined places g.values) := by
  induction g with
  | value v => simp [result, values, joined, String.join]
  | join left right ihleft ihright =>
    have hresult : ((join left right).result places).toText (some places)
        = bounded ((left.result places).toText (some places)
          ++ (right.result places).toText (some places)) := rfl
    rw [hresult, Text.bounded_bounded, values, joined_append, ← Text.bounded_append, ihleft,
      ihright, Text.bounded_append]

theorem result_join (places : Nat) (left right : Grouping) :
    (join left right).result places = .text (bounded (joined places (join left right).values)) := by
  rw [← bounded_result]
  show Value.text _ = Value.text (bounded (bounded _))
  rw [Text.bounded_bounded]

theorem result_eq (places : Nat) {g : Grouping} (h : 2 ≤ g.values.length) :
    g.result places = .text (bounded (joined places g.values)) := by
  cases g with
  | value v => simp [values] at h
  | join left right => exact result_join places left right

end Grouping

/-- Joining keeps the left text, as far as it is short enough by itself. -/
theorem concat_eq (places : Nat) (a b : Value) : ∃ s, concat places a b = .text s
    ∧ Text.IsCut (a.toText (some places) ++ b.toText (some places)) s
    ∧ ((a.toText (some places)).length ≤ maxLength →
      ∃ more, s = a.toText (some places) ++ more) := by
  have hcut := Text.bounded_isCut (a.toText (some places) ++ b.toText (some places))
  exact ⟨_, rfl, hcut, hcut.longest rfl⟩

/-- **Joining values is associative and keeps the left side.** Every grouping of two values or more
comes to the longest beginning of their texts in a row that is not too long. -/
theorem concat_grouping (places : Nat) :
    (∀ a b c, concat places (concat places a b) c = concat places a (concat places b c))
      ∧ (∀ g : Grouping, 2 ≤ g.values.length → ∃ s, g.result places = .text s
        ∧ s.toList = (joined places g.values).toList.take maxLength
        ∧ Text.IsCut (joined places g.values) s)
      ∧ ∀ a b, ∃ s, concat places a b = .text s
        ∧ Text.IsCut (a.toText (some places) ++ b.toText (some places)) s
        ∧ ((a.toText (some places)).length ≤ maxLength →
          ∃ more, s = a.toText (some places) ++ more) := by
  refine ⟨fun a b c => ?_, fun g h => ?_, concat_eq places⟩
  · have hleft := Grouping.result_join places (.join (.value a) (.value b)) (.value c)
    have hright := Grouping.result_join places (.value a) (.join (.value b) (.value c))
    exact hleft.trans hright.symm
  · exact ⟨_, Grouping.result_eq places h, Text.toList_bounded _, Text.bounded_isCut _⟩

/-- A cut inside the second of three values, behind characters of two bytes. -/
theorem concat_grouping_cut :
    let long := Value.text (String.ofList (List.replicate 254 'é'))
    let g := Grouping.join (.value long)
      (.join (.value .null) (.value (.number ⟨0x4004000000000000⟩)))
    2 ≤ g.values.length ∧ ∃ s, g.result 2 = .text s ∧ s.toList = List.replicate 254 'é' ++ ['n']
      ∧ Text.IsCut (joined 2 g.values) s := by
  intro long g
  have hvalues : 2 ≤ g.values.length := by decide
  obtain ⟨s, hresult, htext, hcut⟩ := (concat_grouping 2).2.1 g hvalues
  have hnumber : numberText (some 2) ⟨0x4004000000000000⟩ = "2.50" := by decide +kernel
  have hjoined (t : String) :
      (joined 2 [.text t, .null, .number ⟨0x4004000000000000⟩]).toList
        = t.toList ++ "null2.50".toList := by
    simp [joined, toText, hnumber]
  refine ⟨hvalues, s, hresult, ?_, hcut⟩
  rw [htext]
  show List.take 255 (joined 2 [long, .null, .number ⟨0x4004000000000000⟩]).toList = _
  rw [hjoined, String.toList_ofList, List.take_append, List.length_replicate,
    List.take_replicate]
  rfl

end Value

end Calculator
