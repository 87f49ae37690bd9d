import Calculator.Proofs.Session.Coupling

/-!
# Aliases

An alias is another name for a function, and nothing depends on which of the two a program uses but
the name that a message tells. The places where the written name is looked at do not agree on what
they make of it: the table gives an alias an entry of its own, the check of the arguments and the
messages keep the written name, and what is computed goes by the function. So the statement is about
all of them together.

* `Builtin.standsFor`: the function of a name; of a name that is no alias, the name itself.
* `Builtin.call_sameFunction`: two names of one function are called alike.
* `Expr.evaluate_unaliased`: a tree without its aliases (`Expr.unaliased`) is evaluated as the tree
  is.

The trees are compared by the induction over two runs (`Coupling.evaluate_alike`), with names
related that stand for one function.
-/

namespace Calculator

/-! ## Names of one function -/

namespace Builtin

/-- The function that a name stands for. A name that is no alias stands for itself. -/
def standsFor (name : String) : String := (aliases.lookup name).getD name

/-- The table of aliases is in order: an alias is not the name of a function, and stands for one
that is no alias. -/
theorem aliases_sound : ∀ entry ∈ aliases,
    (findFunction? entry.1).isNone ∧ (findFunction? entry.2).isSome
      ∧ standsFor entry.1 = entry.2 ∧ standsFor entry.2 = entry.2 := by
  decide +kernel

theorem standsFor_of_lookup {name target : String} (h : aliases.lookup name = some target) :
    standsFor name = target := by
  rw [standsFor, h, Option.getD_some]

theorem standsFor_standsFor (name : String) : standsFor (standsFor name) = standsFor name := by
  cases h : aliases.lookup name with
  | none => simp only [standsFor, h, Option.getD_none]
  | some target =>
    rw [standsFor_of_lookup h]
    exact (aliases_sound _ (mem_aliases_of_lookup h)).2.2.2

/-- The entry of an alias names the function that the alias was given for. -/
theorem canonical_of_alias {name target : String} (h : (name, target) ∈ aliases) :
    (find? name).map canonical = some target := by
  have htable : ∀ entry ∈ aliases, (find? entry.1).map canonical = some entry.2 := by
    decide +kernel
  exact htable _ h

/-- The table has the same task under a name and under the function that it stands for. -/
theorem task_standsFor (name : String) :
    (find? (standsFor name)).map task = (find? name).map task := by
  cases h : aliases.lookup name with
  | none => simp only [standsFor, h, Option.getD_none]
  | some target =>
    obtain ⟨hname, htarget, -⟩ := aliases_sound _ (mem_aliases_of_lookup h)
    obtain ⟨function, hfunction⟩ := Option.isSome_iff_exists.1 htarget
    rw [standsFor_of_lookup h]
    simp [find?, findAlias?, Option.isNone_iff_eq_none.1 hname, hfunction, h]

/-- The names stand for one function. -/
def SameFunction (f g : String) : Prop := standsFor f = standsFor g

theorem SameFunction.task_eq {f g : String} (h : SameFunction f g) :
    (find? f).map task = (find? g).map task := by
  rw [← task_standsFor f, ← task_standsFor g, h]

theorem sameFunction_standsFor (name : String) : SameFunction name (standsFor name) :=
  (standsFor_standsFor name).symm

end Builtin

/-! ## Causes -/

namespace Cause

/-- The cause with another name for the function that it is about. -/
def mapFunction (rename : String → String) : Cause → Cause
  | .missingOpeningAfter f => .missingOpeningAfter (rename f)
  | .missingClosingAfterArguments f => .missingClosingAfterArguments (rename f)
  | .wrongArgumentCount f arity => .wrongArgumentCount (rename f) arity
  | .missingArguments f => .missingArguments (rename f)
  | .unknownFunction f => .unknownFunction (rename f)
  | .argumentsNotNumbers f => .argumentsNotNumbers (rename f)
  | .undefinedResult f => .undefinedResult (rename f)
  | .widthNotNumber f => .widthNotNumber (rename f)
  | cause => cause

theorem kind_mapFunction (rename : String → String) (cause : Cause) :
    (cause.mapFunction rename).kind = cause.kind := by
  cases cause <;> rfl

/-- The causes are the same, but may call one function by different names. -/
def SameButAlias (c d : Cause) : Prop :=
  c.mapFunction Builtin.standsFor = d.mapFunction Builtin.standsFor

theorem SameButAlias.kind {c d : Cause} (h : c.SameButAlias d) : c.kind = d.kind := by
  rw [← kind_mapFunction Builtin.standsFor c, h, kind_mapFunction]

end Cause

/-! ## Calls -/

open Builtin (SameFunction standsFor)

/-- What a task comes to does not depend on the name it is done under, except that a failure tells
it. -/
theorem Task.perform_sameFunction (task : Task) {f g : String} (h : SameFunction f g)
    (args : List Value) (desk : Desk) :
    ExceptAlike Cause.SameButAlias Eq (task.perform f args desk) (task.perform g args desk) := by
  have hcount (arity : Arity) :
      Cause.SameButAlias (.wrongArgumentCount f arity) (.wrongArgumentCount g arity) :=
    congrArg (Cause.wrongArgumentCount · arity) h
  have hnumbers : Cause.SameButAlias (.argumentsNotNumbers f) (.argumentsNotNumbers g) :=
    congrArg Cause.argumentsNotNumbers h
  unfold Task.perform
  split
  case h_1 formula =>
    cases args.mapM Value.number? with
    | some numbers => rfl
    | none => exact hnumbers
  case h_2 n =>
    cases placesOf? n with
    | some places => rfl
    | none => rfl
  case h_3 => exact hnumbers
  case h_12 => exact hcount _
  all_goals rfl

/-- **Two names of one function are called alike.** -/
theorem Builtin.call_sameFunction {f g : String} (h : SameFunction f g) (args : List Value)
    (desk : Desk) :
    ExceptAlike Cause.SameButAlias Eq (call f args desk) (call g args desk) := by
  have htask := h.task_eq
  cases hf : find? f with
  | none =>
    cases hg : find? g with
    | none =>
      unfold call
      rw [hf, hg]
      exact congrArg Cause.unknownFunction h
    | some entry => rw [hf, hg] at htask; cases htask
  | some entry =>
    cases hg : find? g with
    | none => rw [hf, hg] at htask; cases htask
    | some entry' =>
      rw [hf, hg] at htask
      have htask : entry.task = entry'.task := Option.some.inj htask
      have harity : entry.arity = entry'.arity := congrArg Task.arity htask
      rw [call_of_find? hf, call_of_find? hg, htask, harity]
      by_cases haccepts : entry'.arity.accepts args.length = true
      · rw [if_pos haccepts, if_pos haccepts]
        exact Task.perform_sameFunction _ h args desk
      · rw [if_neg haccepts, if_neg haccepts]
        exact congrArg (Cause.wrongArgumentCount · _) h

/-! ## Trees -/

/-- Equal sessions and values, with causes that may tell different names of one function. -/
def Coupling.aliased : Coupling where
  session := Eq
  value := Eq
  cause := Cause.SameButAlias
  function := SameFunction

theorem Coupling.aliased_lawful : Coupling.aliased.Lawful where
  number h n := by rw [h]
  number_self _ := rfl
  text_self _ := rfl
  null_self := rfl
  cause_self _ := rfl
  lookup {s t} h id := by
    cases h
    cases s.bindings.lookup? id with
    | none => exact .none
    | some v => exact .some rfl
  set h _ _ _ hvalue := by rw [h, hvalue]; rfl
  concat h _ _ _ _ hl hr := by rw [h, hl, hr]; rfl
  find h := by
    have htask := congrArg (Option.map Task.needsNoArguments) h.task_eq
    simpa only [Option.map_map, Function.comp_def] using htask
  blame h := ⟨congrArg Cause.unknownFunction h, congrArg Cause.missingArguments h,
    congrArg Cause.undefinedResult h⟩
  call {s t} h _ _ hname vs ws hargs := by
    cases h
    have hvalues : vs = ws := List.forall₂_eq_eq_eq ▸ hargs
    rw [← hvalues]
    refine (Builtin.call_sameFunction hname vs s.toDesk).mono fun x y hxy => ?_
    cases hxy
    obtain ⟨returned, desk⟩ := x
    refine ⟨?_, rfl⟩
    cases returned with
    | silent => trivial
    | value v => rfl

namespace Expr

mutual

/-- The tree with every function called by its own name. -/
def unaliased : Expr → Expr
  | .number value span => .number value span
  | .text value span => .text value span
  | .name id span => .name id span
  | .binary op left right span => .binary op left.unaliased right.unaliased span
  | .unary op operand span => .unary op operand.unaliased span
  | .call function args span => .call (standsFor function) (unaliasedAll args) span
  | .assign target value span => .assign target value.unaliased span
  | .sequence statements span => .sequence (unaliasedAll statements) span

def unaliasedAll : List Expr → List Expr
  | [] => []
  | e :: es => e.unaliased :: unaliasedAll es

end

mutual

theorem matches_unaliased (e : Expr) : e.Matches Eq SameFunction e.unaliased := by
  match e with
  | .number .. => exact .number rfl
  | .text .. => exact .text rfl
  | .name .. => exact .name rfl
  | .binary _ left right _ =>
    exact .binary left.matches_unaliased right.matches_unaliased rfl
  | .unary _ operand _ => exact .unary operand.matches_unaliased rfl
  | .call function args _ =>
    exact .call (Builtin.sameFunction_standsFor function) (allMatch_unaliased args) rfl
  | .assign _ value _ => exact .assign value.matches_unaliased rfl
  | .sequence statements _ => exact .sequence (allMatch_unaliased statements) rfl

theorem allMatch_unaliased (es : List Expr) : AllMatch Eq SameFunction es (unaliasedAll es) := by
  match es with
  | [] => exact .nil
  | e :: es => exact .cons e.matches_unaliased (allMatch_unaliased es)

end

/-- **Aliases are pure synonyms.** In every session a tree and the tree without its aliases leave
the same session, and give the same result or fail with faults of one kind at one place. In the
table, an alias and the function it was given for take any arguments at any desk to the same result
and desk, or fail for causes of one kind. What is told of a failure differs at most in the name of
the function. -/
theorem evaluate_unaliased (e : Expr) (s : Session) :
    (match e.evaluate s, e.unaliased.evaluate s with
      | .ok x s', .ok y t' => x.value = y.value ∧ x.isAssignment = y.isAssignment ∧ s' = t'
      | .error f s', .error g t' => f.kind = g.kind ∧ f.span = g.span ∧ f.advice = g.advice
          ∧ f.cause.SameButAlias g.cause ∧ s' = t'
      | _, _ => False)
    ∧ ∀ name target, (name, target) ∈ Builtin.aliases →
        (Builtin.find? name).map Builtin.canonical = some target
        ∧ ∀ (args : List Value) (desk : Desk),
          match Builtin.call name args desk, Builtin.call target args desk with
          | .ok (returned, desk'), .ok (returned', desk'') => returned = returned' ∧ desk' = desk''
          | .error c, .error d => c.kind = d.kind ∧ c.SameButAlias d
          | _, _ => False := by
  constructor
  · have hruns := Coupling.evaluate_alike Coupling.aliased_lawful e.matches_unaliased s s rfl
    cases hs : e.evaluate s with
    | ok x s' =>
      cases ht : e.unaliased.evaluate s with
      | ok y t' =>
        rw [hs, ht] at hruns
        exact ⟨hruns.1.value, hruns.1.isAssignment, hruns.2⟩
      | error g t' => rw [hs, ht] at hruns; exact hruns
    | error f s' =>
      cases ht : e.unaliased.evaluate s with
      | ok y t' => rw [hs, ht] at hruns; exact hruns
      | error g t' =>
        rw [hs, ht] at hruns
        obtain ⟨hfaults, hsessions⟩ := hruns
        exact ⟨hfaults.cause.kind, hfaults.span, hfaults.advice, hfaults.cause, hsessions⟩
  · intro name target hmem
    refine ⟨Builtin.canonical_of_alias hmem, fun args desk => ?_⟩
    obtain ⟨-, -, hname, htarget⟩ := Builtin.aliases_sound _ hmem
    have hcalls := Builtin.call_sameFunction (hname.trans htarget.symm) args desk
    cases hs : Builtin.call name args desk with
    | ok x =>
      cases ht : Builtin.call target args desk with
      | ok y =>
        rw [hs, ht] at hcalls
        cases hcalls
        exact ⟨rfl, rfl⟩
      | error d => rw [hs, ht] at hcalls; exact hcalls
    | error c =>
      cases ht : Builtin.call target args desk with
      | ok y => rw [hs, ht] at hcalls; exact hcalls
      | error d =>
        rw [hs, ht] at hcalls
        exact ⟨hcalls.kind, hcalls⟩

/-- The last of three statements fails, after the others have assigned and printed. -/
theorem evaluate_unaliased_text : ∃ e s' t',
    parse "x = soma(1, 2); print(x); media(x, \"a\")" = .ok e
      ∧ e.evaluate {} = .error ⟨.argumentsNotNumbers "media", ⟨26, 39⟩, none⟩ s'
      ∧ e.unaliased.evaluate {} = .error ⟨.argumentsNotNumbers "mean", ⟨26, 39⟩, none⟩ t'
      ∧ s'.console.lines = ["3.000000"] ∧ s' = t'
      ∧ (Builtin.find? "media").map Builtin.canonical = some "mean" := by
  have hfaults : ((parse "x = soma(1, 2); print(x); media(x, \"a\")").toOption.bind fun e =>
      (fault? (e.evaluate {})).bind fun f => (fault? (e.unaliased.evaluate {})).map fun g =>
        (f.1, f.2.console.lines, g.1))
      = some (⟨.argumentsNotNumbers "media", ⟨26, 39⟩, none⟩, ["3.000000"],
        ⟨.argumentsNotNumbers "mean", ⟨26, 39⟩, none⟩) := by
    decide +kernel
  cases hparse : parse "x = soma(1, 2); print(x); media(x, \"a\")" with
  | error fault => rw [hparse] at hfaults; cases hfaults
  | ok e =>
    rw [hparse] at hfaults
    obtain ⟨⟨f, s'⟩, hf, hfaults⟩ := Option.bind_eq_some_iff.1 (Option.bind_some .. ▸ hfaults)
    obtain ⟨⟨g, t'⟩, hg, hfaults⟩ := Option.map_eq_some_iff.1 hfaults
    obtain ⟨rfl, hlines, rfl⟩ := by simpa only [Prod.mk.injEq] using hfaults
    have hs := eq_error_of_fault? hf
    have ht := eq_error_of_fault? hg
    obtain ⟨hruns, haliases⟩ := evaluate_unaliased e {}
    rw [hs, ht] at hruns
    have hmedia := haliases "media" "mean" (by decide)
    exact ⟨e, s', t', rfl, hs, ht, hlines, hruns.2.2.2.2, hmedia.1⟩

end Expr

end Calculator
