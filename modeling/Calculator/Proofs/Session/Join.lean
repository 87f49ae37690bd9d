import Calculator.Proofs.Parse.Join
import Calculator.Proofs.Session.Coupling

/-!
# A program behind another

Running two sources with a newline between them is running the one and then the other: the session
goes through the same states, a fault of the second source is told further on, and the result is the
last one with something to show (`Session.run_join`).

A source with one statement has that statement for its tree, and a sequence otherwise. The two have
`Expr.evaluateAll_statements` in common: evaluating the statements of a source in turn, after a
result `r`, is running it and keeping `r` where it has nothing to show.
-/

namespace Calculator

namespace Evaluation

/-- The evaluation, or `r` if it has nothing to show. -/
def orElse (x r : Evaluation) : Evaluation := if x.isAssignment then r else x

theorem orElse_of_shown {x : Evaluation} (h : x.isAssignment = false) (r : Evaluation) :
    x.orElse r = x := by
  rw [orElse, if_neg (by simp [h])]

theorem orElse_of_assignment {x : Evaluation} (h : x.isAssignment = true) (r : Evaluation) :
    x.orElse r = r := by
  rw [orElse, if_pos h]

theorem orElse_assoc (x y r : Evaluation) : (x.orElse y).orElse r = x.orElse (y.orElse r) := by
  cases h : x.isAssignment with
  | true => rw [orElse_of_assignment h, orElse_of_assignment h]
  | false => rw [orElse_of_shown h, orElse_of_shown h, orElse_of_shown h]

theorem isAssignment_orElse_silent (x : Evaluation) :
    (x.orElse .silent).isAssignment = x.isAssignment := by
  cases h : x.isAssignment with
  | true => rw [orElse_of_assignment h]; rfl
  | false => rw [orElse_of_shown h, h]

/-- Two results with something to show are not told apart by `silent`. -/
theorem eq_of_orElse_silent {x y : Evaluation} (h : x.orElse .silent = y)
    (hy : y.isAssignment = false) : x = y := by
  have hx : x.isAssignment = false := by rw [← isAssignment_orElse_silent, h, hy]
  rw [← h, orElse_of_shown hx]

end Evaluation

namespace Expr

/-! ## Statements in turn -/

theorem evaluateAll_cons (r : Evaluation) (e : Expr) (es : List Expr) :
    evaluateAll r (e :: es) = e.evaluate >>= fun x => evaluateAll (x.orElse r) es := by
  rw [evaluateAll]
  rfl

theorem evaluateAll_append (r : Evaluation) (es es' : List Expr) :
    evaluateAll r (es ++ es') = evaluateAll r es >>= fun x => evaluateAll x es' := by
  induction es generalizing r with
  | nil => rw [List.nil_append, evaluateAll, pure_bind]
  | cons e es ih =>
    rw [List.cons_append, evaluateAll_cons, evaluateAll_cons, bind_assoc]
    exact congrArg _ (funext fun x => ih _)

/-- Statements that come after a result keep it, unless they have something to show. -/
theorem evaluateAll_orElse (x r : Evaluation) (es : List Expr) :
    evaluateAll (x.orElse r) es = evaluateAll x es >>= fun y => pure (y.orElse r) := by
  induction es generalizing x with
  | nil => rw [evaluateAll, evaluateAll, pure_bind]
  | cons e es ih =>
    rw [evaluateAll_cons, evaluateAll_cons, bind_assoc]
    refine congrArg _ (funext fun y => ?_)
    rw [← Evaluation.orElse_assoc, ih]

/-- The statements of a tree, one after the other, are the tree. -/
theorem evaluateAll_ofStatements (r : Evaluation) (es : List Expr) :
    evaluateAll r es = (ofStatements es).evaluate >>= fun x => pure (x.orElse r) := by
  match es with
  | [] => rfl
  | [e] => rw [evaluateAll_cons]; rfl
  | e :: e' :: es => exact evaluateAll_orElse .silent r (e :: e' :: es)

theorem evaluateAll_statements {source : String} {e : Expr} (h : parse source = .ok e)
    (r : Evaluation) :
    evaluateAll r e.statements = Session.run source >>= fun x => pure (x.orElse r) := by
  rw [evaluateAll_ofStatements, ofStatements_of_parse h, Session.run_of_parse h]

end Expr

/-! ## Statements further on -/

theorem FaultsAlike.eq_shift {k : Nat} {f g : Fault}
    (h : FaultsAlike Eq (fun a b => b = a.shift k) f g) : f.shift k = g := by
  obtain ⟨hcause, hspan, hadvice⟩ := h
  cases f
  cases g
  cases hcause
  cases hspan
  cases hadvice
  rfl

/-- Statements that stand further on do the same, and their faults stand further on. -/
theorem Expr.evaluateAll_shiftAll (k : Nat) (r : Evaluation) (es : List Expr) (s : Session) :
    evaluateAll r (shiftAll k es) s
      = match evaluateAll r es s with
        | .ok x s' => .ok x s'
        | .error fault s' => .error (fault.shift k) s' := by
  have halike := Coupling.evaluateAll_alike (Coupling.same_lawful Eq) (allMatch_shift k es)
    (x := r) (y := r) ⟨rfl, rfl⟩ s s ⟨rfl, rfl, rfl⟩
  cases hes : evaluateAll r es s with
  | ok x s' =>
    cases hshifted : evaluateAll r (shiftAll k es) s with
    | ok y t' =>
      rw [hes, hshifted] at halike
      rw [Coupling.evaluation_eq_of_same halike.1, Coupling.eq_of_same halike.2]
    | error g t' => rw [hes, hshifted] at halike; exact halike.elim
  | error f s' =>
    cases hshifted : evaluateAll r (shiftAll k es) s with
    | ok y t' => rw [hes, hshifted] at halike; exact halike.elim
    | error g t' =>
      rw [hes, hshifted] at halike
      rw [Coupling.eq_of_same halike.2, ← FaultsAlike.eq_shift halike.1]

namespace Session

/-- What running a source comes to is seen from its statements, up to a result that is not shown. -/
theorem run_of_evaluateAll {source : String} {e : Expr} (h : Expr.parse source = .ok e)
    {s s' : Session} : (∀ fault, Expr.evaluateAll .silent e.statements s = .error fault s' →
        Session.run source s = .error fault s')
      ∧ ∀ x, Expr.evaluateAll .silent e.statements s = .ok x s' →
        ∃ z, Session.run source s = .ok z s' ∧ z.orElse .silent = x := by
  rw [Expr.evaluateAll_statements h]
  cases hrun : Session.run source s with
  | error g t =>
    rw [bind_of_error hrun]
    refine ⟨fun fault hfault => hfault, fun x hx => ?_⟩
    cases hx
  | ok z t =>
    rw [bind_of_ok hrun]
    refine ⟨fun fault hfault => ?_, fun x hx => ?_⟩
    · cases hfault
    · cases hx
      exact ⟨z, rfl, rfl⟩

/-- **Programs compose over newlines.** Let two sources have trees, and let the first not end inside
a comment. With a newline between them they have the statements of the first and then those of the
second, further on. Running this is running the first and, if that succeeds, the second: a fault of
the second stands further on, and the result is that of the second, or else that of the first, or
else one with nothing to show. -/
theorem run_join {a b : String} {ea eb : Expr} (ha : Expr.parse a = .ok ea)
    (hb : Expr.parse b = .ok eb) (hopen : endsInComment a = false) :
    (∃ e, Expr.parse (a ++ "\n" ++ b) = .ok e
        ∧ e.statements
          = ea.statements ++ eb.statements.map (Expr.shift (a.utf8ByteSize + 1)))
      ∧ ∀ s, match Session.run a s with
        | .error fault s' => Session.run (a ++ "\n" ++ b) s = .error fault s'
        | .ok x s' =>
          match Session.run b s' with
          | .error fault s'' =>
            Session.run (a ++ "\n" ++ b) s = .error (fault.shift (a.utf8ByteSize + 1)) s''
          | .ok y s'' => ∃ z, Session.run (a ++ "\n" ++ b) s = .ok z s''
            ∧ (y.isAssignment = false → z = y)
            ∧ (y.isAssignment = true → x.isAssignment = false → z = x)
            ∧ (y.isAssignment = true → x.isAssignment = true → z.isAssignment = true) := by
  obtain ⟨e, hparse, hstatements⟩ := Expr.parse_join ha hb hopen
  refine ⟨⟨e, hparse, by rw [hstatements, Expr.shiftAll_eq_map]⟩, fun s => ?_⟩
  have hall : Expr.evaluateAll .silent e.statements
      = (Session.run a >>= fun x => pure (x.orElse .silent)) >>= fun x =>
          Expr.evaluateAll x (Expr.shiftAll (a.utf8ByteSize + 1) eb.statements) := by
    rw [hstatements, Expr.evaluateAll_append, Expr.evaluateAll_statements ha]
  cases hruna : Session.run a s with
  | error fault s' =>
    refine (run_of_evaluateAll hparse).1 fault ?_
    rw [hall]
    exact bind_of_error (bind_of_error hruna)
  | ok x s' =>
    have hfirst : Expr.evaluateAll .silent e.statements s
        = Expr.evaluateAll (x.orElse .silent)
            (Expr.shiftAll (a.utf8ByteSize + 1) eb.statements) s' := by
      rw [hall]
      exact bind_of_ok (bind_of_ok hruna)
    rw [Expr.evaluateAll_shiftAll, Expr.evaluateAll_statements hb] at hfirst
    dsimp only
    cases hrunb : Session.run b s' with
    | error fault s'' =>
      rw [bind_of_error hrunb] at hfirst
      exact (run_of_evaluateAll hparse).1 _ hfirst
    | ok y s'' =>
      rw [bind_of_ok hrunb] at hfirst
      obtain ⟨z, hz, hshown⟩ := (run_of_evaluateAll hparse).2 _ hfirst
      refine ⟨z, hz, fun hy => ?_, fun hy hx => ?_, fun hy hx => ?_⟩
      · rw [Evaluation.orElse_of_shown hy] at hshown
        exact Evaluation.eq_of_orElse_silent hshown hy
      · rw [Evaluation.orElse_of_assignment hy, Evaluation.orElse_of_shown hx] at hshown
        exact Evaluation.eq_of_orElse_silent hshown hx
      · rw [Evaluation.orElse_of_assignment hy, Evaluation.orElse_of_assignment hx] at hshown
        rw [← z.isAssignment_orElse_silent, hshown]
        rfl

/-- The newline ends the comment, and the fault of the second source is told twelve bytes further
on. -/
theorem run_join_commented :
    ∃ s', Session.run "x = 1 # one" {} = .ok ⟨.number 1, true⟩ s'
      ∧ Session.run "x + y" s' = .error ⟨.undefinedVariable "y", ⟨4, 5⟩, none⟩ s'
      ∧ Session.run ("x = 1 # one" ++ "\n" ++ "x + y") {}
        = .error ⟨.undefinedVariable "y", ⟨16, 17⟩, none⟩ s' := by
  have hparse (source : String) (h : (Expr.parse source).isOk = true) :
      ∃ e, Expr.parse source = .ok e := by
    cases hsource : Expr.parse source with
    | ok e => exact ⟨e, rfl⟩
    | error fault => rw [hsource] at h; cases h
  obtain ⟨ea, ha⟩ := hparse "x = 1 # one" (by decide +kernel)
  obtain ⟨eb, hb⟩ := hparse "x + y" (by decide +kernel)
  have hruna : Session.run "x = 1 # one" {}
      = .ok ⟨.number 1, true⟩ { bindings := ⟨[{ name := "x", value := .number 1 }]⟩ } :=
    eq_ok_of_done? (by decide +kernel)
  have hrunb : Session.run "x + y" { bindings := ⟨[{ name := "x", value := .number 1 }]⟩ }
      = .error ⟨.undefinedVariable "y", ⟨4, 5⟩, none⟩
        { bindings := ⟨[{ name := "x", value := .number 1 }]⟩ } :=
    eq_error_of_fault? (by decide +kernel)
  have hjoin := (run_join ha hb (by decide +kernel)).2 {}
  rw [hruna] at hjoin
  dsimp only at hjoin
  rw [hrunb] at hjoin
  exact ⟨_, hruna, hrunb, hjoin⟩

end Session

end Calculator
