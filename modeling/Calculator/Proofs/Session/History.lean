import Calculator.Proofs.Session.Frame

/-!
# Bindings and their history

Bindings are an insertion-ordered finite map, told from the edits that made them: a name has the
value it was set to last since the last clear, and the listing goes through these names from the one
that was first set last back to the one that was first set first. `Bindings.Reflects` says so of
bindings and a list of sets.

`after_reflects` is for every history of edits. What one edit does is said by `lookup?_set` and
`names_set`: the second is why a name that is set again keeps its place.
-/

namespace Calculator.Bindings

/-! ## Histories -/

/-- What is done to bindings. -/
inductive Edit where
  | set (name : String) (value : Value)
  | clear
deriving DecidableEq

namespace Edit

def apply (bindings : Bindings) : Edit → Bindings
  | .set name value => bindings.set name value
  | .clear => .empty

/-- The name that is set, and its value. -/
def set? : Edit → Option (String × Value)
  | .set name value => some (name, value)
  | .clear => none

end Edit

/-- The bindings after a history of edits, the oldest first. -/
def after (history : List Edit) : Bindings := history.foldl Edit.apply .empty

/-- The sets since the last clear, the oldest first. -/
def sinceClear (history : List Edit) : List (String × Value) :=
  (history.rtakeWhile fun edit => edit.set?.isSome).filterMap Edit.set?

theorem sinceClear_set (history : List Edit) (name : String) (value : Value) :
    sinceClear (history ++ [.set name value]) = sinceClear history ++ [(name, value)] := by
  unfold sinceClear
  rw [List.rtakeWhile_concat_pos _ _ _ rfl, List.filterMap_append]
  rfl

theorem sinceClear_clear (history : List Edit) : sinceClear (history ++ [.clear]) = [] := by
  unfold sinceClear
  rw [List.rtakeWhile_concat_neg _ _ _ (by decide)]
  rfl

/-! ## What the bindings show -/

/-- The names of a list of sets. -/
def namesOf (sets : List (String × Value)) : List String := sets.map Prod.fst

theorem namesOf_append (sets more : List (String × Value)) :
    namesOf (sets ++ more) = namesOf sets ++ namesOf more := List.map_append

/-- The bindings are an insertion-ordered map of what was set, the oldest first. -/
structure Reflects (bindings : Bindings) (sets : List (String × Value)) : Prop where
  /-- A name has the value it was set to last. -/
  lookup (name : String) : bindings.lookup? name = sets.reverse.lookup name
  get (name : String) : bindings.get name = (sets.reverse.lookup name).getD .null
  contains (name : String) : bindings.contains name = true ↔ ∃ v, bindings.lookup? name = some v
  found (name : String) : bindings.contains name = true ↔ name ∈ namesOf sets
  /-- Every name that was set is listed, and no other one. -/
  listed (name : String) : name ∈ namesOf bindings.newestFirst ↔ name ∈ namesOf sets
  once : (namesOf bindings.newestFirst).Nodup
  /-- Of two names that are listed, the first one was first set after the second. -/
  newest : (namesOf bindings.newestFirst).Pairwise fun a b =>
    (namesOf sets).idxOf b < (namesOf sets).idxOf a
  current {name : String} {value : Value} (h : (name, value) ∈ bindings.newestFirst) :
    sets.reverse.lookup name = some value
  size : bindings.size = (namesOf sets).toFinset.card
  isEmpty : bindings.isEmpty = true ↔ sets = []

/-! ## One edit -/

theorem names_setIn (name : String) (value : Value) (entries : List Variable) :
    (setIn name value entries).map Variable.name
      = if name ∈ entries.map Variable.name then entries.map Variable.name
        else entries.map Variable.name ++ [name] := by
  induction entries with
  | nil => simp [setIn]
  | cons entry rest ih =>
    rw [setIn]
    by_cases hname : entry.name = name
    · simp [hname]
    · have hne : name ≠ entry.name := Ne.symm hname
      simp only [if_neg hname, List.map_cons, ih, List.mem_cons, hne, false_or]
      split
      · rfl
      · rfl

/-- A name that is set again keeps its place, and a new one comes last. -/
theorem names_set (bindings : Bindings) (name : String) (value : Value) :
    (bindings.set name value).names
      = if name ∈ bindings.names then bindings.names else bindings.names ++ [name] :=
  names_setIn name value bindings.entries

/-- An entry is found by its name, unless another one has the same name. -/
theorem lookupIn_of_mem {entries : List Variable} (hdistinct : (entries.map Variable.name).Nodup)
    {x : Variable} (hx : x ∈ entries) (hinitialized : x.initialized = true) :
    lookupIn x.name entries = some x.value := by
  induction entries with
  | nil => cases hx
  | cons entry rest ih =>
    rw [List.map_cons, List.nodup_cons] at hdistinct
    rw [lookupIn]
    rcases List.mem_cons.1 hx with rfl | hrest
    · rw [if_pos ⟨rfl, hinitialized⟩]
    · have hne : entry.name ≠ x.name := fun h =>
        hdistinct.1 (h ▸ List.mem_map_of_mem hrest)
      rw [if_neg fun hfound => hne hfound.1]
      exact ih hdistinct.2 hrest

/-! ## A whole history -/

/-- What every edit keeps: lookups find the last set, and the entries stand in the order in which
their names were first set. -/
structure Tracks (bindings : Bindings) (sets : List (String × Value)) : Prop where
  lookup (name : String) : bindings.lookup? name = sets.reverse.lookup name
  names (name : String) : name ∈ bindings.names ↔ name ∈ namesOf sets
  ordered : bindings.names.Pairwise fun a b => (namesOf sets).idxOf a < (namesOf sets).idxOf b
  initialized : ∀ x ∈ bindings.entries, x.initialized = true

namespace Tracks

variable {bindings : Bindings} {sets : List (String × Value)}

theorem empty : Tracks .empty [] where
  lookup _ := rfl
  names _ := Iff.rfl
  ordered := .nil
  initialized := List.forall_mem_nil _

/-- More sets do not change where a name was first set. -/
theorem ordered_append (h : bindings.Tracks sets) (more : List (String × Value)) :
    bindings.names.Pairwise fun a b =>
      (namesOf (sets ++ more)).idxOf a < (namesOf (sets ++ more)).idxOf b := by
  refine h.ordered.imp_of_mem fun {a b} ha hb hab => ?_
  rw [namesOf_append, List.idxOf_append_of_mem ((h.names a).1 ha),
    List.idxOf_append_of_mem ((h.names b).1 hb)]
  exact hab

theorem set (h : bindings.Tracks sets) (name : String) (value : Value) :
    (bindings.set name value).Tracks (sets ++ [(name, value)]) where
  lookup key := by
    rw [lookup?_set, List.reverse_append, List.reverse_singleton, List.singleton_append,
      List.lookup_cons, h.lookup key]
    by_cases hkey : key = name
    · simp [hkey]
    · simp [hkey, beq_false_of_ne hkey]
  names key := by
    have hkey := h.names key
    rw [names_set, namesOf_append, List.mem_append, ← hkey]
    split
    case isTrue hold =>
      constructor
      · exact .inl
      · rintro (hmem | hmem)
        · exact hmem
        · rw [List.mem_singleton.1 hmem]
          exact hold
    case isFalse =>
      rw [List.mem_append]
      rfl
  ordered := by
    rw [names_set]
    split
    case isTrue => exact h.ordered_append _
    case isFalse hnew =>
      refine List.pairwise_append.2 ⟨h.ordered_append _, List.pairwise_singleton _ _, ?_⟩
      intro a ha b hb
      -- The name is new, so it is first set behind all that were set before.
      have hfirst : name ∉ namesOf sets := fun hmem => hnew ((h.names name).2 hmem)
      rw [List.mem_singleton.1 hb, namesOf_append, List.idxOf_append_of_mem ((h.names a).1 ha),
        List.idxOf_append_of_notMem hfirst]
      exact Nat.lt_add_right _ (List.idxOf_lt_length_of_mem ((h.names a).1 ha))
  initialized x hx := by
    rcases mem_setIn hx with hold | rfl
    · exact h.initialized x hold
    · rfl

theorem nodup (h : bindings.Tracks sets) : bindings.names.Nodup :=
  h.ordered.imp fun hlt heq => by
    rw [heq] at hlt
    exact Nat.lt_irrefl _ hlt

theorem namesOf_newestFirst (bindings : Bindings) :
    namesOf bindings.newestFirst = bindings.names.reverse := by
  simp [namesOf, newestFirst, Bindings.names, Function.comp_def]

theorem current (h : bindings.Tracks sets) {name : String} {value : Value}
    (hlisted : (name, value) ∈ bindings.newestFirst) : bindings.lookup? name = some value := by
  obtain ⟨x, hx, heq⟩ := List.mem_map.1 hlisted
  cases heq
  have hentry : x ∈ bindings.entries := List.mem_reverse.1 hx
  exact lookupIn_of_mem h.nodup hentry (h.initialized x hentry)

theorem lookup_isSome_iff (name : String) :
    (sets.reverse.lookup name).isSome = true ↔ name ∈ namesOf sets := by
  rw [List.lookup_isSome_iff]
  simp [namesOf]

theorem size_eq (h : bindings.Tracks sets) : bindings.size = (namesOf sets).toFinset.card := by
  have hnames : (namesOf sets).toFinset = bindings.names.toFinset := by
    ext name
    rw [List.mem_toFinset, List.mem_toFinset, h.names]
  rw [hnames, List.toFinset_card_of_nodup h.nodup]
  exact (List.length_map _).symm

theorem reflects (h : bindings.Tracks sets) : bindings.Reflects sets where
  lookup := h.lookup
  get name := by rw [get, h.lookup]
  contains name := Option.isSome_iff_exists
  found name := by rw [contains, h.lookup, lookup_isSome_iff]
  listed name := by rw [namesOf_newestFirst, List.mem_reverse, h.names]
  once := by
    rw [namesOf_newestFirst, List.nodup_reverse]
    exact h.nodup
  newest := by
    rw [namesOf_newestFirst, List.pairwise_reverse]
    exact h.ordered
  current hlisted := by rw [← h.lookup, h.current hlisted]
  size := h.size_eq
  isEmpty := by
    have hcard := h.size_eq
    rw [size] at hcard
    rw [isEmpty, List.isEmpty_iff_length_eq_zero, hcard, Finset.card_eq_zero,
      List.toFinset_eq_empty_iff, namesOf, List.map_eq_nil_iff]

end Tracks

theorem after_tracks (history : List Edit) : (after history).Tracks (sinceClear history) := by
  induction history using List.reverseRecOn with
  | nil => exact .empty
  | append_singleton history edit ih =>
    rw [after, List.foldl_append]
    cases edit with
    | set name value =>
      rw [sinceClear_set]
      exact ih.set name value
    | clear =>
      rw [sinceClear_clear]
      exact .empty

/-- **Bindings are an insertion-ordered finite map.** After every history of edits they show the
sets since the last clear. -/
theorem after_reflects (history : List Edit) : (after history).Reflects (sinceClear history) :=
  (after_tracks history).reflects

example : (after [.set "a" .null, .clear, .set "b" .null, .set "c" .null,
    .set "b" (.text "new")]).newestFirst = [("c", .null), ("b", .text "new")] := by
  decide

end Calculator.Bindings
