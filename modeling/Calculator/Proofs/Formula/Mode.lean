import Calculator.Formula.Statistics
import Calculator.Proofs.Number.Order

/-!
# The most frequent number

The mode is found among the runs of numbers that are the same in the sorted list. In a list without
NaN these runs are the numbers that are the same as one of their members, all of them
(`Runs.count`), in increasing order of value. The first longest run is therefore that of the most
frequent number, and of several the least (`mode_least_most_frequent`).

The list is sorted by the total order, which tells the two zeros apart, and cut where numbers differ
as values. So both zeros are in one run, with the negative ones first.
-/

namespace Calculator.Formula

/-- How many of the numbers are the same as `x`. -/
def occurrences (x : Number) (xs : List Number) : Nat := xs.countP x.same

theorem sorted_perm (xs : List Number) : (sorted xs).Perm xs := List.mergeSort_perm _ _

theorem sorted_rank (xs : List Number) : (sorted xs).Pairwise fun a b => a.rank ≤ b.rank := by
  have hrank : (sorted xs).Pairwise fun a b => decide (a.rank ≤ b.rank) = true := by
    unfold sorted
    refine List.pairwise_mergeSort ?_ ?_ xs
    · intro a b c hab hbc
      exact decide_eq_true (Int.le_trans (of_decide_eq_true hab) (of_decide_eq_true hbc))
    · intro a b
      simpa using Int.le_total a.rank b.rank
  exact hrank.imp of_decide_eq_true

/-- The sorted list does not decrease in value. -/
theorem sorted_pairwise (xs : List Number) :
    (sorted xs).Pairwise fun a b => a.place ≤ b.place :=
  (sorted_rank xs).imp Number.place_le_of_rank_le

/-! ## Runs -/

/-- Lists that hold one value each, without NaN, in increasing order. -/
structure Runs (runs : List (List Number)) : Prop where
  defined : ∀ run ∈ runs, ∀ a ∈ run, a.isNaN = false
  uniform : ∀ run ∈ runs, ∀ a ∈ run, ∀ b ∈ run, a.place = b.place
  increasing : runs.Pairwise fun r s => ∀ a ∈ r, ∀ b ∈ s, a.place < b.place

namespace Runs

variable {runs : List (List Number)}

theorem same_iff (h : Runs runs) {r s : List Number} (hr : r ∈ runs) (hs : s ∈ runs) {a b : Number}
    (ha : a ∈ r) (hb : b ∈ s) : a.same b = true ↔ a.place = b.place :=
  Number.same_iff (h.defined r hr a ha) (h.defined s hs b hb)

theorem lt_iff (h : Runs runs) {r s : List Number} (hr : r ∈ runs) (hs : s ∈ runs) {a b : Number}
    (ha : a ∈ r) (hb : b ∈ s) : a < b ↔ a.place < b.place :=
  Number.lt_iff_place (h.defined r hr a ha) (h.defined s hs b hb)

/-- **A run holds all numbers that are the same as one of its members.** -/
theorem count (h : Runs runs) {run : List Number} (hrun : run ∈ runs) {x : Number} (hx : x ∈ run) :
    occurrences x runs.flatten = run.length := by
  obtain ⟨before, after, rfl⟩ := List.append_of_mem hrun
  obtain ⟨-, hafter, hbefore⟩ := List.pairwise_append.1 h.increasing
  have hnone {others : List (List Number)} (hin : ∀ s ∈ others, s ∈ before ++ run :: after)
      (hne : ∀ s ∈ others, ∀ a ∈ s, x.place ≠ a.place) : others.flatten.countP x.same = 0 := by
    refine List.countP_eq_zero.2 fun a ha => ?_
    obtain ⟨s, hs, has⟩ := List.mem_flatten.1 ha
    exact fun hsame => hne s hs a has ((h.same_iff hrun (hin s hs) hx has).1 hsame)
  have hless : before.flatten.countP x.same = 0 :=
    hnone (fun s hs => List.mem_append_left _ hs) fun s hs a ha =>
      (hbefore s hs run List.mem_cons_self a ha x hx).ne'
  have hmore : after.flatten.countP x.same = 0 :=
    hnone (fun s hs => List.mem_append_right _ (List.mem_cons_of_mem _ hs)) fun s hs a ha =>
      ((List.pairwise_cons.1 hafter).1 s hs x hx a ha).ne
  have hall : run.countP x.same = run.length :=
    List.countP_eq_length.2 fun a ha =>
      (h.same_iff hrun hrun hx ha).2 (h.uniform run hrun x hx a ha)
  rw [occurrences, List.flatten_append, List.flatten_cons, List.countP_append, List.countP_append,
    hless, hmore, hall, Nat.zero_add, Nat.add_zero]

/-- No number occurs twice exactly if no run is longer than one. -/
theorem distinct_iff (h : Runs runs) :
    (runs.flatten.Pairwise fun a b => a.same b = false) ↔ ∀ run ∈ runs, run.length ≤ 1 := by
  rw [List.pairwise_flatten]
  constructor
  · rintro ⟨hwithin, -⟩ run hrun
    match run, hrun, hwithin run hrun with
    | [], _, _ | [_], _, _ => simp
    | a :: b :: rest, hrun, hdistinct =>
      have hsame : a.same b = true := (h.same_iff hrun hrun (by simp) (by simp)).2
        (h.uniform _ hrun a (by simp) b (by simp))
      rw [(List.pairwise_cons.1 hdistinct).1 b (by simp)] at hsame
      cases hsame
  · intro hshort
    refine ⟨fun run hrun => ?_, h.increasing.imp_of_mem fun {r s} hr hs hless a ha b hb => ?_⟩
    · match run, hshort run hrun with
      | [], _ => exact .nil
      | [_], _ => exact List.pairwise_singleton _ _
    · refine Bool.eq_false_iff.2 fun hsame => ?_
      exact (hless a ha b hb).ne ((h.same_iff hr hs ha hb).1 hsame)

end Runs

/-- In a list that does not decrease, every run is less than what follows. -/
theorem increasing_of_chain {runs : List (List Number)}
    (huniform : ∀ run ∈ runs, ∀ a ∈ run, ∀ b ∈ run, a.place = b.place)
    (hle : runs.Pairwise fun r s => ∀ a ∈ r, ∀ b ∈ s, a.place ≤ b.place)
    (hcut : runs.IsChain fun r s => ∃ a ∈ r, ∃ b ∈ s, a.place ≠ b.place) :
    runs.Pairwise fun r s => ∀ a ∈ r, ∀ b ∈ s, a.place < b.place := by
  induction runs with
  | nil => exact .nil
  | cons r runs ih =>
    obtain ⟨hfirst, hle⟩ := List.pairwise_cons.1 hle
    refine List.pairwise_cons.2 ⟨fun s hs a ha b hb => ?_,
      ih (fun run hrun => huniform run (List.mem_cons_of_mem _ hrun)) hle hcut.tail⟩
    -- The run behind `r` starts with a greater value, and `s` is that run or stands behind it.
    cases runs with
    | nil => cases hs
    | cons t runs =>
      obtain ⟨a', ha', c, hc, hne⟩ := hcut.rel
      have hac : a.place < c.place := by
        rw [huniform r List.mem_cons_self a ha a' ha']
        exact lt_of_le_of_ne (hfirst t List.mem_cons_self a' ha' c hc) hne
      rcases List.mem_cons.1 hs with rfl | hs
      · rwa [huniform s (List.mem_cons_of_mem _ List.mem_cons_self) b hb c hc]
      · exact hac.trans_le ((List.pairwise_cons.1 hle).1 s hs c hc b hb)

/-- Cutting a sorted list where its numbers differ gives its runs. -/
theorem splitBy_runs {l : List Number} (hdefined : ∀ a ∈ l, a.isNaN = false)
    (hsorted : l.Pairwise fun a b => a.place ≤ b.place) : Runs (l.splitBy Number.same) := by
  have hmem {run : List Number} (hrun : run ∈ l.splitBy Number.same) {a : Number} (ha : a ∈ run) :
      a.isNaN = false := by
    refine hdefined a ?_
    rw [← List.flatten_splitBy Number.same l]
    exact List.mem_flatten_of_mem hrun ha
  have huniform : ∀ run ∈ l.splitBy Number.same, ∀ a ∈ run, ∀ b ∈ run, a.place = b.place := by
    intro run hrun a ha b hb
    have hchain : (run.map Number.place).IsChain (· = ·) := by
      rw [List.isChain_map]
      refine (List.IsChain.iff_of_mem_tail_imp fun x y hx hy => ?_).1
        (List.isChain_of_mem_splitBy hrun)
      exact Number.same_iff (hmem hrun hx) (hmem hrun (List.mem_of_mem_tail hy))
    have hpairs := List.isChain_iff_pairwise.1 hchain
    exact List.Pairwise.forall_of_forall (fun _ _ => rfl) hpairs (List.mem_map_of_mem ha)
      (List.mem_map_of_mem hb)
  refine ⟨fun run hrun a ha => hmem hrun ha, huniform, increasing_of_chain huniform ?_ ?_⟩
  · rw [← List.flatten_splitBy Number.same l, List.pairwise_flatten] at hsorted
    exact hsorted.2
  · refine List.IsChain.imp ?_ (List.IsChain.iff_mem.1 (List.isChain_getLast_head_splitBy _ l))
    rintro r s ⟨hr, hs, hlast, hhead, hdiffer⟩
    refine ⟨_, List.getLast_mem hlast, _, List.head_mem hhead, fun heq => ?_⟩
    rw [(Number.same_iff (hmem hr (List.getLast_mem hlast)) (hmem hs (List.head_mem hhead))).2 heq]
      at hdiffer
    cases hdiffer

/-! ## The first longest run -/

/-- The first longest of several lists, or `init` where none is longer. -/
def longest (init : List Number) (runs : List (List Number)) : List Number :=
  runs.foldl (fun best run => if best.length < run.length then run else best) init

theorem longest_append (init run : List Number) (runs : List (List Number)) :
    longest init (runs ++ [run]) = if (longest init runs).length < run.length then run
      else longest init runs := by
  rw [longest, List.foldl_append]
  rfl

theorem longest_cases (init : List Number) (runs : List (List Number)) :
    longest init runs = init ∧ (∀ run ∈ runs, run.length ≤ init.length)
      ∨ ∃ before after, runs = before ++ longest init runs :: after
        ∧ init.length < (longest init runs).length
        ∧ (∀ run ∈ before, run.length < (longest init runs).length)
        ∧ ∀ run ∈ after, run.length ≤ (longest init runs).length := by
  induction runs using List.reverseRecOn with
  | nil => exact .inl ⟨rfl, List.forall_mem_nil _⟩
  | append_singleton runs run ih =>
    rw [longest_append]
    split
    case isTrue hlonger =>
      refine .inr ⟨runs, [], rfl, ?_, fun other hother => ?_, List.forall_mem_nil _⟩
      · rcases ih with ⟨heq, -⟩ | ⟨-, -, -, hinit, -⟩
        · rwa [heq] at hlonger
        · exact hinit.trans hlonger
      · refine lt_of_le_of_lt ?_ hlonger
        rcases ih with ⟨heq, hall⟩ | ⟨before, after, hruns, -, hbefore, hafter⟩
        · rw [heq]
          exact hall other hother
        · rw [hruns, List.mem_append, List.mem_cons] at hother
          rcases hother with hother | rfl | hother
          · exact (hbefore other hother).le
          · exact Nat.le_refl _
          · exact hafter other hother
    case isFalse hshort =>
      have hshort := Nat.le_of_not_lt hshort
      rcases ih with ⟨heq, hall⟩ | ⟨before, after, hruns, hinit, hbefore, hafter⟩
      · refine .inl ⟨heq, List.forall_mem_append.2 ⟨hall, List.forall_mem_singleton.2 ?_⟩⟩
        rwa [heq] at hshort
      · refine .inr ⟨before, after ++ [run], ?_, hinit, hbefore,
          List.forall_mem_append.2 ⟨hafter, List.forall_mem_singleton.2 hshort⟩⟩
        conv_lhs => rw [hruns]
        simp

/-! ## The mode -/

theorem mode_eq (xs : List Number) :
    mode xs = (longest [.nan] ((sorted xs).splitBy Number.same)).getLastD .nan := rfl

theorem distinct_sorted (xs : List Number) :
    ((sorted xs).Pairwise fun a b => a.same b = false)
      ↔ xs.Pairwise fun a b => a.same b = false := by
  refine (sorted_perm xs).pairwise_iff fun {a b} h => ?_
  rwa [Number.same_comm]

/-- The number is the least of the most frequent ones. -/
structure IsMode (xs : List Number) (v : Number) : Prop where
  mem : v ∈ xs
  most : ∀ x ∈ xs, occurrences x xs ≤ occurrences v xs
  least : ∀ x ∈ xs, occurrences x xs = occurrences v xs → x.same v = false → v < x

theorem isMode_of_longest {xs run : List Number} {before after : List (List Number)}
    (h : Runs (before ++ run :: after)) (hperm : (before ++ run :: after).flatten.Perm xs)
    (hlonger : ∀ s ∈ before, s.length < run.length) (hlong : ∀ s ∈ after, s.length ≤ run.length)
    {v : Number} (hv : v ∈ run) : IsMode xs v := by
  have hrun : run ∈ before ++ run :: after := List.mem_append_right _ List.mem_cons_self
  have hcount {s : List Number} (hs : s ∈ before ++ run :: after) {x : Number} (hx : x ∈ s) :
      occurrences x xs = s.length := by
    rw [← h.count hs hx]
    exact (hperm.countP_eq _).symm
  have hfind {x : Number} (hx : x ∈ xs) : ∃ s ∈ before ++ run :: after, x ∈ s :=
    List.mem_flatten.1 (hperm.mem_iff.2 hx)
  constructor
  case mem => exact hperm.mem_iff.1 (List.mem_flatten_of_mem hrun hv)
  case most =>
    intro x hx
    obtain ⟨s, hs, hxs⟩ := hfind hx
    rw [hcount hs hxs, hcount hrun hv]
    rcases List.mem_append.1 hs with hs | hs
    · exact (hlonger s hs).le
    · rcases List.mem_cons.1 hs with rfl | hs
      · exact Nat.le_refl _
      · exact hlong s hs
  case least =>
    intro x hx heq hother
    obtain ⟨s, hs, hxs⟩ := hfind hx
    rw [hcount hs hxs, hcount hrun hv] at heq
    refine (h.lt_iff hrun hs hv hxs).2 ?_
    obtain ⟨-, hafter, -⟩ := List.pairwise_append.1 h.increasing
    rcases List.mem_append.1 hs with hs' | hs'
    · exact absurd heq (hlonger s hs').ne
    · rcases List.mem_cons.1 hs' with rfl | hs'
      · rw [(h.same_iff hs hrun hxs hv).2 (h.uniform s hs x hxs v hv)] at hother
        cases hother
      · exact (List.pairwise_cons.1 hafter).1 s hs' v hv x hxs

/-- **The mode is the least of the most frequent numbers**, and NaN if no number occurs twice. -/
theorem mode_least_most_frequent {xs : List Number} (hdefined : ∀ x ∈ xs, x.isNaN = false) :
    ((mode xs).isNaN = true ↔ xs.Pairwise fun a b => a.same b = false)
      ∧ ((¬xs.Pairwise fun a b => a.same b = false) → IsMode xs (mode xs)) := by
  have hruns : Runs ((sorted xs).splitBy Number.same) := by
    refine splitBy_runs (fun a ha => ?_) (sorted_pairwise xs)
    exact hdefined a ((sorted_perm xs).mem_iff.1 ha)
  have hperm : ((sorted xs).splitBy Number.same).flatten.Perm xs := by
    rw [List.flatten_splitBy]
    exact sorted_perm xs
  have hdistinct := hruns.distinct_iff
  rw [List.flatten_splitBy, distinct_sorted] at hdistinct
  rcases longest_cases [.nan] ((sorted xs).splitBy Number.same) with
    ⟨hnone, hshort⟩ | ⟨before, after, hsplit, hlong, hlonger, hlongest⟩
  · have hmode : mode xs = .nan := by rw [mode_eq, hnone]; rfl
    have hunique := hdistinct.2 hshort
    refine ⟨iff_of_true ?_ hunique, fun h => absurd hunique h⟩
    rw [hmode]
    decide
  · have hmem : mode xs ∈ longest [.nan] ((sorted xs).splitBy Number.same) := by
      have hne := List.ne_nil_of_length_pos (Nat.zero_lt_of_lt hlong)
      rw [mode_eq, List.getLastD_eq_getLast?, List.getLast?_eq_some_getLast hne]
      exact List.getLast_mem hne
    rw [hsplit] at hruns hperm
    have hmode := isMode_of_longest hruns hperm hlonger hlongest hmem
    refine ⟨iff_of_false ?_ fun h => ?_, fun _ => hmode⟩
    · rw [hdefined _ hmode.mem]
      decide
    · have hrun := hdistinct.1 h _ (hsplit ▸ List.mem_append_right _ List.mem_cons_self)
      exact absurd hlong (Nat.not_lt.2 hrun)

/-- The two zeros are one number here, and less than the other one that occurs twice. -/
theorem mode_least_most_frequent_zeros :
    let xs : List Number := [⟨0x4008000000000000⟩, ⟨0⟩, ⟨0x3ff0000000000000⟩, .negativeZero,
      ⟨0x4008000000000000⟩]
    (∀ x ∈ xs, x.isNaN = false) ∧ (¬xs.Pairwise fun a b => a.same b = false)
      ∧ IsMode xs (mode xs) ∧ mode xs = ⟨0⟩ := by
  intro xs
  have hdefined : ∀ x ∈ xs, x.isNaN = false := by decide
  have htwice : ¬xs.Pairwise fun a b => a.same b = false := by decide +kernel
  have hsorted : sorted xs = [.negativeZero, ⟨0⟩, ⟨0x3ff0000000000000⟩, ⟨0x4008000000000000⟩,
      ⟨0x4008000000000000⟩] := by
    cbv
  refine ⟨hdefined, htwice, (mode_least_most_frequent hdefined).2 htwice, ?_⟩
  rw [mode_eq, hsorted]
  decide +kernel

end Calculator.Formula
