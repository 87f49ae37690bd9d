import Calculator.Proofs.Session.Steps

/-!
# What evaluation leaves alone

What a tree can change is written in it: variables by its assignments, the decimal places by calls
of `setdec`, the lines and the screen by calls of `print` and `clear`. `Change` lists these changes,
one constructor for each, and `Expr.evaluate_changes` says that evaluating a tree comes to a run of
them, also when it fails. Everything that stays as it was follows from what a single change does
(`Expr.evaluate_frames`).
-/

namespace Calculator

open Relation (ReflTransGen)

/-! ## Changes -/

namespace Expr

/-- Some assignment in the tree has the target. -/
def Assigns (e : Expr) (target : String) : Prop := ∃ value span, .assign target value span ∈ e.nodes

/-- The tree has a call under the name. -/
def Calls (e : Expr) (function : String) : Prop := ∃ args span, .call function args span ∈ e.nodes

end Expr

/-- One change of a session that a tree accounts for. -/
inductive Change (e : Expr) : Session → Session → Prop
  | assign {s : Session} {target : String} {value : Value} (h : e.Assigns target) :
      Change e s { s with bindings := s.bindings.set target value }
  | places {s : Session} {places : Nat} (h : e.Calls "setdec") : Change e s { s with places }
  | print {s : Session} {text : String} (h : e.Calls "print") :
      Change e s (s.mapConsole (·.writeLine text))
  | clear {s : Session} (h : e.Calls "clear") : Change e s (s.mapConsole (·.clearScreen))

/-! ## Calls -/

namespace Task

/-- The name of the function that changes the desk, if the task is one that does. -/
def changer? : Task → Option String
  | .setPlaces => some "setdec"
  | .print => some "print"
  | .clear => some "clear"
  | _ => none

/-- What a task does to the desk. -/
theorem desk_of_perform {task : Task} {name : String} {args : List Value} {desk desk' : Desk}
    {returned : Returned} (h : task.perform name args desk = .ok (returned, desk')) :
    desk' = desk ∨ (task = .setPlaces ∧ ∃ places, desk' = { desk with places })
      ∨ (task = .print ∧ ∃ text, desk' = { desk with console := desk.console.writeLine text })
      ∨ (task = .clear ∧ desk' = { desk with console := desk.console.clearScreen }) := by
  unfold Task.perform at h
  split at h
  case h_1 =>
    split at h
    · cases h
      exact .inl rfl
    · cases h
  case h_2 =>
    split at h
    case h_1 places _ =>
      cases h
      exact .inr (.inl ⟨rfl, places, rfl⟩)
    case h_2 => cases h
  case h_4 =>
    cases h
    exact .inr (.inr (.inl ⟨rfl, _, rfl⟩))
  case h_5 =>
    cases h
    exact .inr (.inr (.inr ⟨rfl, rfl⟩))
  -- the layouts and styles give a text and leave the desk
  case h_6 | h_8 | h_11 =>
    cases h
    exact .inl rfl
  all_goals cases h

end Task

/-- No alias and no style changes the desk: each of the functions that do has one name. -/
theorem Builtin.name_of_changer {name function : String} {builtin : Builtin}
    (hfind : find? name = some builtin) (h : builtin.task.changer? = some function) :
    name = function := by
  have hfunctions : ∀ f ∈ functions, ∀ changer ∈ f.task.changer?, f.name = changer := by
    decide +kernel
  have haliases : ∀ f ∈ functions, ∀ entry ∈ aliases, f.name = entry.2 →
      f.task.changer? = none := by
    decide +kernel
  rcases find?_cases hfind with ⟨hmem, hname⟩ | ⟨f, hf, halias, rfl⟩ | ⟨style, -, rfl⟩
  · rw [← hname]
    exact hfunctions builtin hmem function h
  · rw [haliases f hf _ halias rfl] at h
    cases h
  · cases h

section

variable {e : Expr} {s₀ : Session}

theorem callAt_changes {span : Span} {name : String} (args : List Value) (hcalls : e.Calls name) :
    Keeps (ReflTransGen (Change e) s₀) (fun _ => True) (callAt span name args) := by
  refine keeps_get.bind fun s hs => ?_
  refine Keeps.bind (Q := fun result => Builtin.call name args s.toDesk = .ok result)
    (keeps_orFailAt fun _ h => h) fun result hcall => ?_
  obtain ⟨returned, desk⟩ := result
  have hchanged : ReflTransGen (Change e) s₀ { s with toDesk := desk } := by
    obtain ⟨builtin, hfind, hperform⟩ := Builtin.call_eq_ok hcall
    have hname {function : String} (h : builtin.task.changer? = some function) :
        e.Calls function := Builtin.name_of_changer hfind h ▸ hcalls
    rcases Task.desk_of_perform hperform with rfl | ⟨htask, places, rfl⟩ | ⟨htask, text, rfl⟩
      | ⟨htask, rfl⟩
    · exact hs
    · exact hs.tail (.places (hname (by rw [htask]; rfl)))
    · exact hs.tail (.print (hname (by rw [htask]; rfl)))
    · exact hs.tail (.clear (hname (by rw [htask]; rfl)))
  refine (keeps_set hchanged).bind fun _ _ => ?_
  split
  · exact keeps_pure trivial
  · split
    · exact keeps_failAt _ _
    · exact keeps_pure trivial
  · exact keeps_pure trivial

/-! ## Trees -/

mutual

/-- A tree in `e` makes changes that `e` accounts for. -/
theorem Expr.evaluate_changesOf (x : Expr) (hx : x.nodes ⊆ e.nodes) :
    Keeps (ReflTransGen (Change e) s₀) (fun _ => True) x.evaluate := by
  match x with
  | .number .. | .text .. => exact keeps_pure trivial
  | .name id span =>
    rw [Expr.evaluate]
    refine keeps_get.bind fun s _ => ?_
    cases s.bindings.lookup? id with
    | none => exact keeps_failAt _ _
    | some value => exact keeps_pure trivial
  | .assign target value span =>
    rw [Expr.evaluate]
    have hassigns : e.Assigns target := ⟨value, span, hx List.mem_cons_self⟩
    refine (value.evaluate_changesOf (List.subset_of_cons_subset hx)).bind fun _ _ => ?_
    refine (keeps_modify fun s hs => hs.tail (.assign hassigns)).bind fun _ _ => ?_
    exact keeps_pure trivial
  | .binary op left right span =>
    rw [Expr.evaluate]
    obtain ⟨hleft, hright⟩ := List.append_subset.1 (List.subset_of_cons_subset hx)
    refine (left.evaluate_changesOf hleft).bind fun _ _ => ?_
    refine (right.evaluate_changesOf hright).bind fun _ _ => ?_
    refine keeps_get.bind fun s _ => ?_
    exact (keeps_orFailAt fun _ _ => trivial).bind fun _ _ => keeps_pure trivial
  | .unary op operand span =>
    rw [Expr.evaluate]
    refine (operand.evaluate_changesOf (List.subset_of_cons_subset hx)).bind fun _ _ => ?_
    exact (keeps_orFailAt fun _ _ => trivial).bind fun _ _ => keeps_pure trivial
  | .call function args span =>
    rw [Expr.evaluate]
    have hcalls : e.Calls function := ⟨args, span, hx List.mem_cons_self⟩
    cases Builtin.find? function with
    | none => exact keeps_failAt _ _
    | some builtin =>
      dsimp only
      split
      · exact keeps_failAt _ _
      · refine (Expr.evaluateArgs_changesOf args (List.subset_of_cons_subset hx)).bind fun _ _ => ?_
        exact callAt_changes _ hcalls
  | .sequence statements span =>
    exact Expr.evaluateAll_changesOf statements (List.subset_of_cons_subset hx) .silent

theorem Expr.evaluateArgs_changesOf (xs : List Expr) (hxs : nodesAll xs ⊆ e.nodes) :
    Keeps (ReflTransGen (Change e) s₀) (fun _ => True) (evaluateArgs xs) := by
  match xs with
  | [] => exact keeps_pure trivial
  | x :: xs =>
    rw [Expr.evaluateArgs]
    obtain ⟨hfirst, hrest⟩ := List.append_subset.1 hxs
    refine (x.evaluate_changesOf hfirst).bind fun _ _ => ?_
    refine (Expr.evaluateArgs_changesOf xs hrest).bind fun _ _ => ?_
    exact keeps_pure trivial

theorem Expr.evaluateAll_changesOf (xs : List Expr) (hxs : nodesAll xs ⊆ e.nodes)
    (result : Evaluation) :
    Keeps (ReflTransGen (Change e) s₀) (fun _ => True) (evaluateAll result xs) := by
  match xs with
  | [] => exact keeps_pure trivial
  | x :: xs =>
    rw [Expr.evaluateAll]
    obtain ⟨hfirst, hrest⟩ := List.append_subset.1 hxs
    exact (x.evaluate_changesOf hfirst).bind fun _ _ => Expr.evaluateAll_changesOf xs hrest _

end

end

/-- **Evaluating a tree is a run of changes that stand in it**, whether it succeeds or fails. -/
theorem Expr.evaluate_changes (e : Expr) (s : Session) :
    ReflTransGen (Change e) s (sessionOf (e.evaluate s)) := by
  have hkeeps := Expr.evaluate_changesOf e (List.Subset.refl e.nodes) s ReflTransGen.refl
  cases hrun : e.evaluate s with
  | ok evaluation s' => rw [hrun] at hkeeps; exact hkeeps.2
  | error fault s' => rw [hrun] at hkeeps; exact hkeeps

/-! ## Variables -/

namespace Bindings

/-- The names that have an entry, in the order of their definition. -/
def names (bindings : Bindings) : List String := bindings.entries.map Variable.name

/-- The entry has kept its name, and everything else too unless `A` holds of the name. -/
def KeptEntry (A : String → Prop) (x y : Variable) : Prop :=
  y.name = x.name ∧ (¬A x.name → y = x)

/-- The old entries are still there, kept up to the names with `A`, and all new ones have `A`. -/
def Extends (A : String → Prop) (old new : List Variable) : Prop :=
  ∃ kept added, new = kept ++ added ∧ List.Forall₂ (KeptEntry A) old kept ∧ ∀ x ∈ added, A x.name

variable {A : String → Prop} {old new : List Variable}

theorem extends_refl (entries : List Variable) : Extends A entries entries :=
  ⟨entries, [], (List.append_nil _).symm, List.forall₂_same.2 fun _ _ => ⟨rfl, fun _ => rfl⟩,
    List.forall_mem_nil _⟩

theorem setIn_kept {name : String} (hname : A name) (value : Value) {kept added : List Variable}
    (hkept : List.Forall₂ (KeptEntry A) old kept) (hadded : ∀ x ∈ added, A x.name) :
    Extends A old (setIn name value (kept ++ added)) := by
  induction hkept with
  | nil =>
    refine ⟨[], setIn name value added, rfl, .nil, fun x hx => ?_⟩
    rcases mem_setIn hx with hold | rfl
    · exact hadded x hold
    · exact hname
  | @cons x y old kept hxy hrest ih =>
    rw [List.cons_append, setIn]
    by_cases hy : y.name = name
    · rw [if_pos hy]
      refine ⟨_ :: kept, added, rfl, .cons ⟨hxy.1, fun hx => ?_⟩ hrest, hadded⟩
      rw [← hxy.1, hy] at hx
      exact absurd hname hx
    · rw [if_neg hy]
      obtain ⟨kept', added', heq, hkept', hadded'⟩ := ih
      exact ⟨y :: kept', added', by rw [heq, List.cons_append], .cons hxy hkept', hadded'⟩

theorem Extends.setIn (h : Extends A old new) {name : String} (hname : A name) (value : Value) :
    Extends A old (setIn name value new) := by
  obtain ⟨kept, added, rfl, hkept, hadded⟩ := h
  exact setIn_kept hname value hkept hadded

theorem Extends.names (h : Extends A old new) : ∃ added,
    new.map Variable.name = old.map Variable.name ++ added ∧ ∀ name ∈ added, A name := by
  obtain ⟨kept, added, rfl, hkept, hadded⟩ := h
  refine ⟨added.map Variable.name, ?_, by simpa using hadded⟩
  have hnames : kept.map Variable.name = old.map Variable.name := by
    induction hkept with
    | nil => rfl
    | cons hxy _ ih => rw [List.map_cons, List.map_cons, hxy.1, ih]
  rw [List.map_append, hnames]

theorem lookupIn_eq_none {name : String} {entries : List Variable}
    (h : ∀ x ∈ entries, x.name ≠ name) : lookupIn name entries = none := by
  induction entries with
  | nil => rfl
  | cons entry rest ih =>
    obtain ⟨hentry, hrest⟩ := List.forall_mem_cons.1 h
    rw [lookupIn, if_neg (fun hfound => hentry hfound.1), ih hrest]

theorem Extends.lookupIn (h : Extends A old new) {name : String} (hname : ¬A name) :
    lookupIn name new = lookupIn name old := by
  obtain ⟨kept, added, rfl, hkept, hadded⟩ := h
  induction hkept with
  | nil => exact lookupIn_eq_none fun x hx hx' => hname (hx' ▸ hadded x hx)
  | @cons x y old kept hxy _ ih =>
    rw [List.cons_append, Bindings.lookupIn, Bindings.lookupIn, ih]
    by_cases hx : x.name = name
    · rw [hxy.2 (hx ▸ hname)]
    · have hy : y.name ≠ name := hxy.1 ▸ hx
      rw [if_neg (fun hfound => hy hfound.1), if_neg (fun hfound => hx hfound.1)]

theorem Extends.entry (h : Extends A old new) {i : Nat} {x : Variable} (hx : old[i]? = some x)
    (hname : ¬A x.name) : new[i]? = some x := by
  obtain ⟨kept, added, rfl, hkept, -⟩ := h
  induction hkept generalizing i with
  | nil => simp at hx
  | @cons y z old kept hyz _ ih =>
    cases i with
    | zero =>
      cases hx
      rw [List.cons_append, List.getElem?_cons_zero, hyz.2 hname]
    | succ i => exact ih hx

end Bindings

/-! ## Console -/

namespace Console

/-- What was put out before is followed by lines, if `P` holds, and clears, if `C` does. -/
def Extends (P C : Prop) (old new : Console) : Prop :=
  ∃ added, new.outputs.toList = old.outputs.toList ++ added
    ∧ ∀ output ∈ added, (∃ text, output = .line text ∧ P) ∨ (output = .clear ∧ C)

variable {P C : Prop} {old new : Console}

theorem extends_refl (console : Console) : Extends P C console console :=
  ⟨[], (List.append_nil _).symm, List.forall_mem_nil _⟩

theorem Extends.push (h : Extends P C old new) {output : Output}
    (houtput : (∃ text, output = .line text ∧ P) ∨ (output = .clear ∧ C)) :
    Extends P C old ⟨new.outputs.push output⟩ := by
  obtain ⟨added, hadded, hall⟩ := h
  refine ⟨added ++ [output], by simp [hadded], fun x hx => ?_⟩
  rcases List.mem_append.1 hx with hx | hx
  · exact hall x hx
  · rw [List.mem_singleton.1 hx]
    exact houtput

theorem Extends.lines (h : Extends P C old new) : ∃ added,
    new.lines = old.lines ++ added ∧ (¬P → added = []) := by
  obtain ⟨added, hadded, hall⟩ := h
  refine ⟨added.filterMap line?, by simp [Console.lines, hadded], fun hP => ?_⟩
  rw [List.filterMap_eq_nil_iff]
  intro output houtput
  rcases hall output houtput with ⟨_, -, hprint⟩ | ⟨rfl, -⟩
  · exact absurd hprint hP
  · rfl

theorem Extends.clears (h : Extends P C old new) : ∃ added,
    new.clears = old.clears + added ∧ (¬C → added = 0) := by
  obtain ⟨added, hadded, hall⟩ := h
  refine ⟨added.count .clear, by simp [Console.clears, hadded], fun hC => ?_⟩
  rw [List.count_eq_zero]
  intro hclear
  rcases hall _ hclear with ⟨_, hline, -⟩ | ⟨-, hcleared⟩
  · cases hline
  · exact hC hcleared

end Console

/-! ## Frames -/

/-- The second session is the first but for what the tree may change. -/
structure Expr.Frames (e : Expr) (s s' : Session) : Prop where
  language : s'.language = s.language
  /-- Names are only added, behind the old ones, and those that are added are assigned to. -/
  names : ∃ added, s'.bindings.names = s.bindings.names ++ added ∧ ∀ name ∈ added, e.Assigns name
  /-- A name that is not assigned to has the value that it had, or still none, -/
  values : ∀ name, ¬e.Assigns name → s'.bindings.lookup? name = s.bindings.lookup? name
  /-- and its entry is the same, at the same place. -/
  entries : ∀ (i : Nat) (x : Variable), s.bindings.entries[i]? = some x → ¬e.Assigns x.name →
    s'.bindings.entries[i]? = some x
  places : ¬e.Calls "setdec" → s'.places = s.places
  lines : s.console.lines <+: s'.console.lines
  lines_eq : ¬e.Calls "print" → s'.console.lines = s.console.lines
  clears : s.console.clears ≤ s'.console.clears
  clears_eq : ¬e.Calls "clear" → s'.console.clears = s.console.clears

section

variable {e : Expr} {s s' : Session}

theorem language_of_changes (h : ReflTransGen (Change e) s s') : s'.language = s.language := by
  induction h with
  | refl => rfl
  | tail _ hchange ih => cases hchange <;> exact ih

theorem bindings_of_changes (h : ReflTransGen (Change e) s s') :
    Bindings.Extends e.Assigns s.bindings.entries s'.bindings.entries := by
  induction h with
  | refl => exact Bindings.extends_refl _
  | tail _ hchange ih =>
    cases hchange with
    | assign htarget => exact ih.setIn htarget _
    | places | print | clear => exact ih

theorem places_of_changes (h : ReflTransGen (Change e) s s') (hcalls : ¬e.Calls "setdec") :
    s'.places = s.places := by
  induction h with
  | refl => rfl
  | tail _ hchange ih =>
    cases hchange with
    | places h => exact absurd h hcalls
    | assign | print | clear => exact ih

theorem console_of_changes (h : ReflTransGen (Change e) s s') :
    Console.Extends (e.Calls "print") (e.Calls "clear") s.console s'.console := by
  induction h with
  | refl => exact Console.extends_refl _
  | tail _ hchange ih =>
    cases hchange with
    | print h => exact ih.push (.inl ⟨_, rfl, h⟩)
    | clear h => exact ih.push (.inr ⟨rfl, h⟩)
    | assign | places => exact ih

end

/-- **Evaluation changes only what stands in the tree.** Whether evaluating a tree succeeds or
fails, the session that it leaves has the old language; the old names in their order with, behind
them, only names that the tree assigns to; the old value of every other name; the old places if the
tree has no call of `setdec`; and the old lines and clears with, behind them, only what calls of
`print` and `clear` in the tree put out. -/
theorem Expr.evaluate_frames (e : Expr) (s : Session) : e.Frames s (sessionOf (e.evaluate s)) := by
  have hchanges := e.evaluate_changes s
  have hbindings := bindings_of_changes hchanges
  obtain ⟨lines, hlines, hnoLines⟩ := (console_of_changes hchanges).lines
  obtain ⟨clears, hclears, hnoClears⟩ := (console_of_changes hchanges).clears
  exact {
    language := language_of_changes hchanges
    names := hbindings.names
    values := fun _ hname => hbindings.lookupIn hname
    entries := fun _ _ hx hname => hbindings.entry hx hname
    places := places_of_changes hchanges
    lines := ⟨lines, hlines.symm⟩
    lines_eq := fun hcalls => by rw [hlines, hnoLines hcalls, List.append_nil]
    clears := by omega
    clears_eq := fun hcalls => by rw [hclears, hnoClears hcalls, Nat.add_zero] }

end Calculator
