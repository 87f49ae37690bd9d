import Calculator.Proofs.Session.Aliases
import Calculator.Proofs.Session.Faults

/-!
# Calls by name and by position

The table of functions gives each of them a task, and a call does the task all at once. Here is
another account of the same calls, in small steps. It finds out what to do from the family and the
name of the function, takes arguments from their positions one at a time, and changes the desk on
the spot (`Builtin.dispatch`). Such a routine can go wrong in ways that a call cannot: it can come
to a position where there is no argument, to a name that it does not know though the table has it,
and it can fail when the desk has already been changed.

It never does (`Builtin.dispatch_outcome`). That the families and names of the table lead to its
tasks is checked entry by entry (`Builtin.functions_lead`); what a task does with as many arguments
as it takes is then gone through once for each kind of task.
-/

namespace Calculator

/-! ## Routines -/

/-- Work on the desk, step by step. It may fail, and leaves the desk as it is at that moment. Where
it asks for an argument that is not there, it comes to nothing at all. -/
abbrev Routine := ExceptT Cause (StateT Desk Option)

namespace Routine

variable {α : Type}

/-- What a routine comes to, and the desk it leaves. -/
def outcome (routine : Routine α) (desk : Desk) : Option (Except Cause α × Desk) :=
  routine.run.run desk

/-- Comes to nothing. -/
def stuck : Routine α := ExceptT.mk fun _ => none

/-- The argument at a position. -/
def argument (args : List α) (position : Nat) : Routine α :=
  match args[position]? with
  | some a => pure a
  | none => stuck

/-- The arguments from a position on; the position behind the last one counts. -/
def argumentsFrom (args : List α) (position : Nat) : Routine (List α) :=
  if position ≤ args.length then pure (args.drop position) else stuck

end Routine

open Routine (argument argumentsFrom outcome)

/-- A formula with its arguments taken by position. -/
def Formula.routine (formula : Formula) (xs : List Number) : Routine Number :=
  match formula with
  | .unary f => return f (← argument xs 0)
  | .ternary f => return f (← argument xs 0) (← argument xs 1) (← argument xs 2)
  | .quaternary f =>
    return f (← argument xs 0) (← argument xs 1) (← argument xs 2) (← argument xs 3)
  | .series _ f => return f xs
  | .headed _ f => return f (← argument xs 0) (← argumentsFrom xs 1)

namespace Builtin

open Formula

/-- The formulas by name. -/
def formula? : String → Option Formula
  | "sqrt" => some (.unary squareRoot)
  | "sin" => some (.unary Number.sin)
  | "cos" => some (.unary Number.cos)
  | "tan" => some (.unary Number.tan)
  | "log" => some (.unary commonLogarithm)
  | "ln" => some (.unary naturalLogarithm)
  | "exp" => some (.unary Number.exp)
  | "abs" => some (.unary Number.abs)
  | "mean" => some (.series 1 mean)
  | "median" => some (.series 1 median)
  | "std" => some (.series 1 standardDeviation)
  | "variance" => some (.series 1 variance)
  | "mode" => some (.series 1 mode)
  | "sum" => some (.series 1 sum)
  | "min" => some (.series 1 least)
  | "max" => some (.series 1 greatest)
  | "pv" => some (.ternary presentValue)
  | "fv" => some (.ternary futureValue)
  | "pmt" => some (.ternary payment)
  | "nper" => some (.ternary periods)
  | "rate" => some (.quaternary rate)
  | "npv" => some (.headed 2 netPresentValue)
  | "irr" => some (.series 2 internalRate)
  | "si" => some (.ternary simpleInterest)
  | "fv_si" => some (.ternary simpleAmount)
  | "ci" => some (.ternary compoundInterest)
  | "fv_ci" => some (.ternary compoundAmount)
  | _ => none

/-- The functions of the console: what is not `clear` prints. -/
def consoleRoutine (canonical : String) (args : List Value) : Routine Returned := do
  let desk ← get
  if canonical = "clear" then
    set { desk with console := desk.console.clearScreen }
  else
    set { desk with console := desk.console.writeLine (printedLine desk.places args) }
  return .silent

/-- The functions of layout: what is not an alignment repeats. -/
def layoutRoutine (canonical : String) (args : List Value) : Routine Returned := do
  match Alignment.ofName? canonical with
  | some alignment =>
    let .number width ← argument args 0 | throw (.widthNotNumber canonical)
    let value ← argument args 1
    return .value (.ofText (Layout.align alignment (Layout.widthOf width) (value.toText none)))
  | none =>
    let .text text ← argument args 0 | throw .repeatedNotText
    let .number count ← argument args 1 | throw .repeatCountNotNumber
    return .value (.ofText (Layout.repeatFirst text (Layout.widthOf count)))

/-- The functions of style, called `name`. -/
def styleRoutine (canonical name : String) (args : List Value) : Routine Returned := do
  let some style := Style.find? canonical | throw (.unknownFunction name)
  let value ← argument args 0
  return .value (.ofText (style.apply (value.toText none)))

/-- The functions of numbers, called `name`. -/
def numericRoutine (canonical name : String) (args : List Value) : Routine Returned := do
  let some numbers := args.mapM Value.number? | throw (.argumentsNotNumbers name)
  if canonical = "setdec" then
    let some places := placesOf? (← argument numbers 0) | throw .placesOutOfRange
    modify fun desk => { desk with places }
    return .silent
  let some formula := formula? canonical | throw (.unknownFunction name)
  return .value (.number (← formula.routine numbers))

/-- What is done for a function of a family that is called `name`. -/
def route (category : Category) (canonical name : String) (args : List Value) : Routine Returned :=
  match category with
  | .console => consoleRoutine canonical args
  | .layout => layoutRoutine canonical args
  | .style => styleRoutine canonical name args
  | _ => numericRoutine canonical name args

/-- Calls the function of a name, step by step. -/
def dispatch (name : String) (args : List Value) : Routine Returned := do
  let some builtin := find? name | throw (.unknownFunction name)
  unless builtin.arity.accepts args.length do throw (.wrongArgumentCount name builtin.arity)
  route builtin.category builtin.canonical name args

/-! ## The table leads to its tasks -/

end Builtin

/-- The formula that a task computes. -/
def Task.formula? : Task → Option Formula
  | .compute formula => some formula
  | _ => none

namespace Builtin

/-- The family and the name of a function lead to its task, up to the formula. -/
def LeadsTo (category : Category) (canonical : String) : Task → Prop
  | .compute formula => category ∉ [.console, .layout, .style] ∧ canonical ≠ "setdec"
    ∧ formula.arity.accepts 0 = false
  | .setPlaces => category = .settings ∧ canonical = "setdec"
  | .print => category = .console ∧ canonical ≠ "clear"
  | .clear => category = .console ∧ canonical = "clear"
  | .align alignment => category = .layout ∧ Alignment.ofName? canonical = some alignment
    ∧ alignment.name = canonical
  | .repeatFirst => category = .layout ∧ Alignment.ofName? canonical = none
  | .style style => category = .style ∧ Style.find? canonical = some style

instance (category : Category) (canonical : String) (task : Task) :
    Decidable (LeadsTo category canonical task) :=
  match task with
  | .compute _ | .align _ => inferInstanceAs (Decidable (_ ∧ _ ∧ _))
  | .setPlaces | .print | .clear | .repeatFirst | .style _ => inferInstanceAs (Decidable (_ ∧ _))

theorem functions_lead :
    ∀ f ∈ functions, f.aliasOf = none ∧ LeadsTo f.category f.name f.task := by
  decide +kernel

theorem functions_formulas : ∀ f ∈ functions, formula? f.name = f.task.formula? :=
  List.map_inj_left.1 (show functions.map (fun f => formula? f.name)
    = functions.map (fun f => f.task.formula?) from rfl)

end Builtin

/-! ## One step after the other -/

/-- What a call comes to, and the desk it leaves. A call that fails leaves the desk as it was. -/
def settled (desk : Desk) : Except Cause (Returned × Desk) → Except Cause Returned × Desk
  | .ok (returned, desk') => (.ok returned, desk')
  | .error cause => (.error cause, desk)

/-- With as many arguments as it takes, at least one, a formula finds each where it looks. -/
theorem Formula.routine_eq_pure {formula : Formula} {xs : List Number}
    (hzero : formula.arity.accepts 0 = false) (h : formula.arity.accepts xs.length = true) :
    formula.routine xs = pure (formula.value xs) := by
  cases formula with
  | unary f =>
    obtain ⟨a, rfl⟩ := List.length_eq_one_iff.1 (beq_iff_eq.1 h)
    rfl
  | ternary f =>
    obtain ⟨a, b, c, rfl⟩ := List.length_eq_three.1 (beq_iff_eq.1 h)
    rfl
  | quaternary f =>
    match xs, h with
    | [a, b, c, d], _ => rfl
  | series least f => rfl
  | headed least f =>
    cases xs with
    | nil =>
      rw [List.length_nil, hzero] at h
      cases h
    | cons x xs => rfl

theorem Value.length_numbers? {args : List Value} {numbers : List Number}
    (h : args.mapM Value.number? = some numbers) : numbers.length = args.length := by
  induction args generalizing numbers with
  | nil =>
    cases h
    rfl
  | cons v args ih =>
    rw [List.mapM_cons] at h
    obtain ⟨n, -, h⟩ := Option.bind_eq_some_iff.1 h
    obtain ⟨ns, hns, h⟩ := Option.bind_eq_some_iff.1 h
    cases h
    rw [List.length_cons, List.length_cons, ih hns]

namespace Builtin

variable {category : Category} {canonical name : String} {task : Task} {args : List Value}
  {desk : Desk}

theorem numericRoutine_compute {formula : Formula} (hname : canonical ≠ "setdec")
    (hformula : formula? canonical = some formula) (hzero : formula.arity.accepts 0 = false)
    (haccepts : formula.arity.accepts args.length = true) :
    (numericRoutine canonical name args).outcome desk
      = some (settled desk ((Task.compute formula).perform name args desk)) := by
  cases hnumbers : args.mapM Value.number? with
  | none =>
    simp only [numericRoutine, Task.perform, hnumbers]
    rfl
  | some numbers =>
    have hroutine := Formula.routine_eq_pure hzero
      (show formula.arity.accepts numbers.length = true by rwa [Value.length_numbers? hnumbers])
    simp only [numericRoutine, Task.perform, hnumbers, hname, hformula, hroutine, if_false]
    rfl

theorem numericRoutine_setPlaces (haccepts : Task.setPlaces.arity.accepts args.length = true) :
    (numericRoutine "setdec" name args).outcome desk
      = some (settled desk (Task.setPlaces.perform name args desk)) := by
  obtain ⟨v, rfl⟩ := List.length_eq_one_iff.1 (beq_iff_eq.1 haccepts)
  cases v with
  | number n =>
    have hnumbers : [Value.number n].mapM Value.number? = some [n] := rfl
    have hfirst : argument [n] 0 = pure n := rfl
    simp only [numericRoutine, Task.perform, hnumbers, hfirst, if_true, pure_bind]
    cases placesOf? n <;> rfl
  | text | null => rfl

theorem layoutRoutine_align {alignment : Alignment}
    (halignment : Alignment.ofName? canonical = some alignment) (hname : alignment.name = canonical)
    (haccepts : (Task.align alignment).arity.accepts args.length = true) :
    (layoutRoutine canonical args).outcome desk
      = some (settled desk ((Task.align alignment).perform name args desk)) := by
  obtain ⟨v, w, rfl⟩ := List.length_eq_two.1 (beq_iff_eq.1 haccepts)
  subst hname
  simp only [layoutRoutine, halignment]
  cases v <;> rfl

theorem layoutRoutine_repeatFirst (hname : Alignment.ofName? canonical = none)
    (haccepts : Task.repeatFirst.arity.accepts args.length = true) :
    (layoutRoutine canonical args).outcome desk
      = some (settled desk (Task.repeatFirst.perform name args desk)) := by
  obtain ⟨v, w, rfl⟩ := List.length_eq_two.1 (beq_iff_eq.1 haccepts)
  simp only [layoutRoutine, hname]
  cases v with
  | text => cases w <;> rfl
  | number | null => rfl

theorem styleRoutine_style {style : Style} (hstyle : Style.find? canonical = some style)
    (haccepts : (Task.style style).arity.accepts args.length = true) :
    (styleRoutine canonical name args).outcome desk
      = some (settled desk ((Task.style style).perform name args desk)) := by
  obtain ⟨v, rfl⟩ := List.length_eq_one_iff.1 (beq_iff_eq.1 haccepts)
  simp only [styleRoutine, hstyle]
  rfl

/-- What is done for a function is its task. -/
theorem route_outcome (hleads : LeadsTo category canonical task)
    (hformula : formula? canonical = task.formula?)
    (haccepts : task.arity.accepts args.length = true) :
    (route category canonical name args).outcome desk
      = some (settled desk (task.perform name args desk)) := by
  cases task with
  | compute formula =>
    obtain ⟨hcategory, hname, hzero⟩ := hleads
    cases category with
    | console | layout | style => simp at hcategory
    | math | statistics | finance | settings =>
      exact numericRoutine_compute hname hformula hzero haccepts
  | setPlaces =>
    obtain ⟨rfl, rfl⟩ := hleads
    exact numericRoutine_setPlaces haccepts
  | print =>
    obtain ⟨rfl, hname⟩ := hleads
    simp only [route, consoleRoutine, hname, if_false]
    rfl
  | clear =>
    obtain ⟨rfl, rfl⟩ := hleads
    rfl
  | align alignment =>
    obtain ⟨rfl, halignment, hname⟩ := hleads
    exact layoutRoutine_align halignment hname haccepts
  | repeatFirst =>
    obtain ⟨rfl, hname⟩ := hleads
    exact layoutRoutine_repeatFirst hname haccepts
  | style style =>
    obtain ⟨rfl, hstyle⟩ := hleads
    exact styleRoutine_style hstyle haccepts

/-- The entry of a name, also of an alias or a style, leads to its task. -/
theorem leads_of_find? {builtin : Builtin} (h : find? name = some builtin) :
    LeadsTo builtin.category builtin.canonical builtin.task
      ∧ formula? builtin.canonical = builtin.task.formula? := by
  rcases find?_cases h with ⟨hmem, -⟩ | ⟨f, hmem, -, rfl⟩ | ⟨style, hfind, rfl⟩
  · obtain ⟨hown, hleads⟩ := functions_lead builtin hmem
    rw [canonical, hown, Option.getD_none]
    exact ⟨hleads, functions_formulas builtin hmem⟩
  · exact ⟨(functions_lead f hmem).2, functions_formulas f hmem⟩
  · have hname : style.name = name := by simpa using List.find?_some hfind
    have hstyles : ∀ style ∈ Style.all, formula? style.name = none := by decide +kernel
    refine ⟨⟨rfl, ?_⟩, hstyles style (List.mem_of_find?_eq_some hfind)⟩
    show Style.find? style.name = some style
    rw [hname]
    exact hfind

/-- **A call by name and by position is a call by the table.** Every argument is where it is looked
for, every name of the table is known, and a routine that fails has not changed the desk. -/
theorem dispatch_outcome (name : String) (args : List Value) (desk : Desk) :
    (dispatch name args).outcome desk = some (settled desk (call name args desk)) := by
  cases hfind : find? name with
  | none =>
    simp only [dispatch, call, hfind]
    rfl
  | some builtin =>
    obtain ⟨hleads, hformula⟩ := leads_of_find? hfind
    rw [call_of_find? hfind]
    simp only [dispatch, hfind]
    by_cases haccepts : builtin.arity.accepts args.length = true
    · rw [if_pos haccepts, if_pos haccepts]
      exact route_outcome hleads hformula haccepts
    · rw [if_neg haccepts, if_neg haccepts]
      rfl

/-! ## What calls fail for -/

/-- The name is in one of the tables. -/
def Registered (name : String) : Prop :=
  (∃ f ∈ functions, f.name = name) ∨ (∃ entry ∈ aliases, entry.1 = name)
    ∨ ∃ style ∈ Style.all, style.name = name

theorem findAlias?_isSome_iff (name : String) :
    (findAlias? name).isSome ↔ ∃ entry ∈ aliases, entry.1 = name := by
  have hlookup : (aliases.lookup name).isSome ↔ ∃ entry ∈ aliases, entry.1 = name := by
    simp only [List.lookup_isSome_iff, beq_iff_eq, eq_comm (a := name)]
  rw [← hlookup]
  cases h : aliases.lookup name with
  | none => simp [findAlias?, h]
  | some target =>
    -- an alias stands for a function of the table
    obtain ⟨-, htarget, -⟩ := aliases_sound _ (mem_aliases_of_lookup h)
    obtain ⟨f, hf⟩ := Option.isSome_iff_exists.1 htarget
    simp [findAlias?, h, hf]

theorem find?_isSome_iff (name : String) : (find? name).isSome ↔ Registered name := by
  simp only [find?, Option.orElse_eq_orElse, Option.orElse_eq_or, Option.isSome_or, Bool.or_eq_true,
    findAlias?_isSome_iff, findFunction?, Style.find?, Option.isSome_map, List.find?_isSome,
    beq_iff_eq, Registered]

/-- Only a name that is in no table is unknown. -/
theorem call_eq_unknown_iff (name other : String) (args : List Value) (desk : Desk) :
    call name args desk = .error (.unknownFunction other) ↔ other = name ∧ ¬Registered name := by
  rw [← find?_isSome_iff]
  cases hfind : find? name with
  | none =>
    have hcall : call name args desk = .error (.unknownFunction name) := by simp only [call, hfind]
    rw [hcall]
    simp [eq_comm]
  | some builtin =>
    refine iff_of_false (fun hcall => ?_) (by simp)
    rw [call_of_find? hfind] at hcall
    split at hcall
    case isTrue haccepts => cases Task.kind_of_perform haccepts hcall
    case isFalse => cases hcall

/-- A function fails for the number of its arguments exactly where it does not take as many. -/
theorem call_eq_wrongCount_iff {name : String} {builtin : Builtin}
    (hfind : find? name = some builtin) (function : String) (arity : Arity) (args : List Value)
    (desk : Desk) :
    call name args desk = .error (.wrongArgumentCount function arity)
      ↔ function = name ∧ arity = builtin.arity ∧ arity.accepts args.length = false := by
  rw [call_of_find? hfind]
  split
  case isTrue haccepts =>
    refine iff_of_false (fun hcall => ?_) (fun ⟨_, harity, hrejects⟩ => ?_)
    · cases Task.kind_of_perform haccepts hcall
    · rw [harity, haccepts] at hrejects
      cases hrejects
  case isFalse hrejects =>
    constructor
    · intro hcall
      cases hcall
      exact ⟨rfl, rfl, Bool.eq_false_iff.2 hrejects⟩
    · rintro ⟨rfl, rfl, -⟩
      rfl

end Builtin

/-! ## Sessions -/

/-- A task that gives a value leaves the desk as it was. -/
theorem Task.desk_of_value {task : Task} {name : String} {args : List Value} {desk desk' : Desk}
    {value : Value} (h : task.perform name args desk = .ok (.value value, desk')) :
    desk' = desk := by
  unfold Task.perform at h
  split at h
  case h_1 =>
    split at h
    · cases h
      rfl
    · cases h
  case h_2 => split at h <;> cases h
  case h_6 | h_8 | h_11 =>
    cases h
    rfl
  all_goals cases h

/-- A call that ends with a fault leaves the session as it was, also where the fault is found only
in the result. -/
theorem session_of_callAt {span : Span} {name : String} {args : List Value} {s s' : Session}
    {fault : Fault} (h : callAt span name args s = .error fault s') : s' = s := by
  unfold callAt at h
  simp only [bind, EStateM.bind, get, getThe, MonadStateOf.get, EStateM.get] at h
  cases hcall : Builtin.call name args s.toDesk with
  | error cause =>
    rw [hcall] at h
    cases h
    rfl
  | ok result =>
    obtain ⟨returned, desk⟩ := result
    obtain ⟨builtin, -, hperform⟩ := Builtin.call_eq_ok hcall
    rw [hcall] at h
    cases returned with
    | silent => cases h
    | value value =>
      cases Task.desk_of_value hperform
      cases value with
      | text | null => cases h
      | number n =>
        change (if n.isNaN = true then failAt span (.undefinedResult name)
          else pure (.ofValue (.number n)) : Action Evaluation) s = .error fault s' at h
        split at h
        · cases h
          rfl
        · cases h

namespace Builtin

/-- **Calls are total, and all or nothing.** Taken by name and by position, a call finds every
argument it looks for and comes to what the table says; where it fails, the desk is as it was. It
fails for an unknown function exactly if the name is in no table, and for the number of arguments of
a function that is in one exactly if the table does not take as many. -/
theorem call_total (name : String) (args : List Value) (desk : Desk) :
    (dispatch name args).outcome desk = some (settled desk (call name args desk))
    ∧ (∀ other, call name args desk = .error (.unknownFunction other)
      ↔ other = name ∧ ¬Registered name)
    ∧ (Registered name → ∃ builtin, find? name = some builtin
      ∧ ∀ function arity, call name args desk = .error (.wrongArgumentCount function arity)
        ↔ function = name ∧ arity = builtin.arity ∧ arity.accepts args.length = false)
    ∧ ∀ (span : Span) (s s' : Session) (fault : Fault),
      callAt span name args s = .error fault s' → s' = s := by
  refine ⟨dispatch_outcome name args desk, fun other => call_eq_unknown_iff name other args desk,
    fun hregistered => ?_, fun span s s' fault => session_of_callAt⟩
  obtain ⟨builtin, hfind⟩ := Option.isSome_iff_exists.1 ((find?_isSome_iff name).2 hregistered)
  exact ⟨builtin, hfind, fun function arity =>
    call_eq_wrongCount_iff hfind function arity args desk⟩

end Builtin

end Calculator
