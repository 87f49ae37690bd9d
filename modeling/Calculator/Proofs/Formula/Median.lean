import Calculator.Proofs.Formula.Mode
import Calculator.Proofs.Session.Aliases

/-!
# Order statistics

The median and the mode read a sorted copy of their list. No two encodings have the same place in
the total order, not the two zeros and not two NaNs, so a list has one sorted copy only, in whatever
order it is given (`sorted_eq_of_perm`). What is read off that copy is then the same as well, to the
bit: halfway between two members, the member in the middle, or the first longest run.

* `median_isMedian`: the median of an odd number of numbers is one of them, with no more than half
  of the others on either side.
* `Builtin.call_series_of_perm`: a call hands its arguments on in the order they have, and fails for
  a value that is no number wherever that stands.
* `order_statistics_of_perm`: all of this for the median and the mode.
-/

namespace Calculator

namespace Formula

/-- A list has one sorted copy, whatever order it is given in. -/
theorem sorted_eq_of_perm {xs ys : List Number} (h : xs.Perm ys) : sorted xs = sorted ys := by
  have hperm : (sorted xs).Perm (sorted ys) :=
    (sorted_perm xs).trans (h.trans (sorted_perm ys).symm)
  refine hperm.eq_of_pairwise ?_ (sorted_rank xs) (sorted_rank ys)
  intro a b _ _ hab hba
  exact Number.rank_injective (Int.le_antisymm hab hba)

theorem median_eq_of_perm {xs ys : List Number} (h : xs.Perm ys) : median xs = median ys := by
  unfold median
  rw [sorted_eq_of_perm h]

theorem mode_eq_of_perm {xs ys : List Number} (h : xs.Perm ys) : mode xs = mode ys := by
  unfold mode
  rw [sorted_eq_of_perm h]

/-! ## The middle of a list -/

/-- The number is in the list, with at most `k` others below it in the total order and at most `k`
above it. -/
structure IsMedian (k : Nat) (xs : List Number) (v : Number) : Prop where
  mem : v ∈ xs
  below : xs.countP (fun x => x.rank < v.rank) ≤ k
  above : xs.countP (fun x => v.rank < x.rank) ≤ k

/-- Of an odd number of numbers the median stands in the middle of the sorted copy. -/
theorem sorted_eq_around_median {k : Nat} {xs : List Number} (h : xs.length = 2 * k + 1) :
    ∃ before after, sorted xs = before ++ median xs :: after
      ∧ before.length = k ∧ after.length = k := by
  have hlength : (sorted xs).length = 2 * k + 1 := by rw [(sorted_perm xs).length_eq, h]
  have hmiddle : k < (sorted xs).length := by omega
  have hmedian : median xs = (sorted xs)[k] := by
    unfold median
    have hhalf : (2 * k + 1) / 2 = k := by omega
    have hodd : (2 * k + 1) % 2 = 1 := by omega
    simp only [hlength, hhalf, hodd, if_true, List.getD_eq_getElem _ _ hmiddle]
  refine ⟨(sorted xs).take k, (sorted xs).drop (k + 1), ?_, ?_, ?_⟩
  · rw [hmedian, List.getElem_cons_drop, List.take_append_drop]
  · simp only [List.length_take, hlength]
    omega
  · simp only [List.length_drop, hlength]
    omega

theorem median_isMedian {k : Nat} {xs : List Number} (h : xs.length = 2 * k + 1) :
    IsMedian k xs (median xs) := by
  obtain ⟨before, after, hsorted, hbefore, hafter⟩ := sorted_eq_around_median h
  have hperm := sorted_perm xs
  have hrank := sorted_rank xs
  rw [hsorted] at hperm hrank
  obtain ⟨-, hmedian, hahead⟩ := List.pairwise_append.1 hrank
  obtain ⟨hbehind, -⟩ := List.pairwise_cons.1 hmedian
  constructor
  case mem => exact hperm.mem_iff.1 (List.mem_append_right _ List.mem_cons_self)
  case below =>
    -- Nothing from the median on is below it, and before it there are `k` numbers.
    have hnone : after.countP (fun x => x.rank < (median xs).rank) = 0 := by
      simpa [List.countP_eq_zero] using hbehind
    have hsome : before.countP (fun x => x.rank < (median xs).rank) ≤ k :=
      hbefore ▸ List.countP_le_length
    rw [← hperm.countP_eq, List.countP_append, List.countP_cons, hnone]
    simpa using hsome
  case above =>
    have hnone : before.countP (fun x => (median xs).rank < x.rank) = 0 := by
      simp only [List.countP_eq_zero, decide_eq_true_eq, not_lt]
      exact fun a ha => hahead a ha _ List.mem_cons_self
    have hsome : after.countP (fun x => (median xs).rank < x.rank) ≤ k :=
      hafter ▸ List.countP_le_length
    rw [← hperm.countP_eq, List.countP_append, List.countP_cons, hnone]
    simpa using hsome

end Formula

/-! ## Calls -/

namespace Value

/-- Values can be taken for numbers if all of them are. -/
theorem numbers?_eq (args : List Value) :
    args.mapM number? = if args.all (·.number?.isSome) then some (args.filterMap number?)
      else none := by
  induction args with
  | nil => rfl
  | cons v args ih =>
    rw [List.mapM_cons, ih]
    cases v with
    | number n =>
      have hcons : (number n :: args).all (·.number?.isSome) = args.all (·.number?.isSome) := rfl
      rw [hcons]
      by_cases hall : args.all (·.number?.isSome) = true
      · rw [if_pos hall, if_pos hall]
        rfl
      · rw [if_neg hall, if_neg hall]
        rfl
    | text | null => rfl

theorem numbers?_numbers (xs : List Number) : (xs.map number).mapM number? = some xs := by
  have hall : (xs.map number).all (·.number?.isSome) = true := by simp [number?]
  have hsome : number? ∘ number = some := rfl
  rw [numbers?_eq, if_pos hall, List.filterMap_map, hsome, List.filterMap_some]

end Value

namespace Builtin

variable {name : String} {builtin : Builtin} {least : Nat} {f : List Number → Number}

/-- A name has the task of the function that it stands for. -/
theorem find?_of_standsFor {function : String} {task : Task} (h : standsFor name = function)
    (htask : (find? function).map Builtin.task = some task) :
    ∃ builtin, find? name = some builtin ∧ builtin.task = task := by
  rw [← h, task_standsFor] at htask
  exact Option.map_eq_some_iff.1 htask

/-- A function of a list that does not look at its order is called alike with its arguments in any
order, also where they are not all numbers. -/
theorem call_series_of_perm (hfind : find? name = some builtin)
    (htask : builtin.task = .compute (.series least f))
    (hf : ∀ xs ys : List Number, xs.Perm ys → f xs = f ys) {args args' : List Value}
    (h : args.Perm args') (desk : Desk) : call name args desk = call name args' desk := by
  have hnumbers := hf _ _ (h.filterMap Value.number?)
  rw [call_of_find? hfind, call_of_find? hfind, h.length_eq, htask]
  simp only [Task.perform, Value.numbers?_eq, h.all_eq, Formula.value]
  by_cases hall : args'.all (·.number?.isSome) = true
  · simp only [if_pos hall, hnumbers]
  · simp only [if_neg hall]

theorem call_series_numbers (hfind : find? name = some builtin)
    (htask : builtin.task = .compute (.series least f)) {xs : List Number}
    (hleast : least ≤ xs.length) (desk : Desk) :
    call name (xs.map .number) desk = .ok (.value (.number (f xs)), desk) := by
  have haccepts : builtin.arity.accepts (xs.map Value.number).length = true := by
    simp [arity, htask, Task.arity, Formula.arity, Arity.accepts, hleast]
  rw [call_of_find? hfind, if_pos haccepts, htask]
  simp only [Task.perform, Value.numbers?_numbers, Formula.value]

end Builtin

namespace Formula

open Builtin (standsFor)

/-- **Order statistics do not depend on the order of their list**, by themselves and through calls
under any of their names, and the median of an odd list is the member in the middle. -/
theorem order_statistics_of_perm :
    (∀ xs ys : List Number, xs.Perm ys → median xs = median ys ∧ mode xs = mode ys)
      ∧ (∀ name, standsFor name = "median" ∨ standsFor name = "mode" →
        ∀ args args' : List Value, args.Perm args' →
        ∀ desk, Builtin.call name args desk = Builtin.call name args' desk)
      ∧ (∀ xs : List Number, xs ≠ [] → ∀ name desk,
        (standsFor name = "median" →
          Builtin.call name (xs.map .number) desk = .ok (.value (.number (median xs)), desk))
        ∧ (standsFor name = "mode" →
          Builtin.call name (xs.map .number) desk = .ok (.value (.number (mode xs)), desk)))
      ∧ ∀ k xs, xs.length = 2 * k + 1 → IsMedian k xs (median xs) := by
  have hmedian {name : String} (h : standsFor name = "median") := Builtin.find?_of_standsFor h
    (show (Builtin.find? "median").map Builtin.task = some (.compute (.series 1 median)) from rfl)
  have hmode {name : String} (h : standsFor name = "mode") := Builtin.find?_of_standsFor h
    (show (Builtin.find? "mode").map Builtin.task = some (.compute (.series 1 mode)) from rfl)
  refine ⟨fun xs ys h => ⟨median_eq_of_perm h, mode_eq_of_perm h⟩, ?_, ?_,
    fun k xs h => median_isMedian h⟩
  · intro name hname args args' h desk
    rcases hname with hname | hname
    · obtain ⟨builtin, hfind, htask⟩ := hmedian hname
      exact Builtin.call_series_of_perm hfind htask (fun _ _ => median_eq_of_perm) h desk
    · obtain ⟨builtin, hfind, htask⟩ := hmode hname
      exact Builtin.call_series_of_perm hfind htask (fun _ _ => mode_eq_of_perm) h desk
  · intro xs hxs name desk
    have hleast : 1 ≤ xs.length := List.length_pos_iff.2 hxs
    constructor
    · intro hname
      obtain ⟨builtin, hfind, htask⟩ := hmedian hname
      exact Builtin.call_series_numbers hfind htask hleast desk
    · intro hname
      obtain ⟨builtin, hfind, htask⟩ := hmode hname
      exact Builtin.call_series_numbers hfind htask hleast desk

/-- Both zeros and a NaN, in two orders: the median is the zero without sign. -/
theorem order_statistics_of_perm_zeros :
    let xs : List Number := [.nan, ⟨0⟩, .negativeZero]
    let ys : List Number := [.negativeZero, .nan, ⟨0⟩]
    xs.Perm ys ∧ xs.length = 2 * 1 + 1 ∧ standsFor "mediana" = "median"
      ∧ median xs = median ys ∧ mode xs = mode ys
      ∧ Builtin.call "mediana" (xs.map .number) {} = Builtin.call "mediana" (ys.map .number) {}
      ∧ Builtin.call "mediana" (xs.map .number) {} = .ok (.value (.number ⟨0⟩), {})
      ∧ IsMedian 1 xs ⟨0⟩ := by
  intro xs ys
  have hperm : xs.Perm ys := by decide
  have hname : standsFor "mediana" = "median" := by decide
  have hsorted : sorted xs = [.negativeZero, ⟨0⟩, .nan] := by cbv
  have hmedian : median xs = ⟨0⟩ := by
    unfold median
    rw [hsorted]
    rfl
  obtain ⟨hstatistics, hcalls, hvalues, hmiddle⟩ := order_statistics_of_perm
  refine ⟨hperm, rfl, hname, (hstatistics xs ys hperm).1, (hstatistics xs ys hperm).2,
    hcalls _ (.inl hname) _ _ (hperm.map _) {}, ?_, ?_⟩
  · rw [← hmedian]
    exact (hvalues xs (by decide) "mediana" {}).1 hname
  · rw [← hmedian]
    exact hmiddle 1 xs rfl

end Formula

end Calculator
