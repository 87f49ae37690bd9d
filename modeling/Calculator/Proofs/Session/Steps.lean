import Calculator.Proofs.Session.Evaluation
import Calculator.Script

/-!
# Sessions step by step

Everything that can be done to a session is a `Step`: running a source, evaluating a tree, answering
a line, running a script or a one-line program, and setting the language or the decimal places or
forgetting all. A step that fails leaves a session too. `Session.reached` is the session that a list
of steps leads to from a new one, and `Session.reached_sound` the run lemma: what evaluation keeps
holds in every session that is reached.

`Step.Evaluates` says which trees a step evaluates, and in which sessions.
-/

namespace Calculator

/-! ## Steps -/

inductive Step where
  | run (source : String)
  | evaluate (tree : Expr)
  | line (options : Options) (text : String)
  | script (options : Options) (text : String)
  | inline (options : Options) (text : String)
  | setLanguage (language : Language)
  | setPlaces (places : Nat)
  | reset

/-- The session that an action leaves, whether it succeeded or failed. -/
def sessionOf {α : Type} : EStateM.Result Fault Session α → Session
  | .ok _ s => s
  | .error _ s => s

namespace Step

/-- The session after a step. -/
def after (s : Session) : Step → Session
  | .run source => sessionOf (Session.run source s)
  | .evaluate tree => sessionOf (tree.evaluate s)
  | .line options text => (s.answer options text).2
  | .script options text => (s.runScript options text).2
  | .inline options text => (s.runInline options text).2
  | .setLanguage language => s.setLanguage language
  | .setPlaces places => s.setPlaces places
  | .reset => s.reset

/-- The step evaluates a tree in a session: that of its source, in the session as it is but for what
was printed before. The lines of a script are answered one after the other. -/
inductive Evaluates : Step → Session → Expr → Session → Prop
  | run {source : String} {s : Session} {e : Expr} (h : Expr.parse source = .ok e) :
      Evaluates (.run source) s e s
  | tree {e : Expr} {s : Session} : Evaluates (.evaluate e) s e s
  | line {options : Options} {text : String} {s : Session} {e : Expr} {print : Console → Console}
      (h : Expr.parse (Text.trim text) = .ok e) :
      Evaluates (.line options text) s e (s.mapConsole print)
  | script {options : Options} {text line : String} {before rest : List String} {s t : Session}
      {e : Expr} (hlines : Text.lines text = before ++ line :: rest)
      (h : Evaluates (.line options (Text.trim line)) (s.runLines options 1 before).2 e t) :
      Evaluates (.script options text) s e t
  | inline {options : Options} {text : String} {s t : Session} {e : Expr}
      (h : Evaluates (.line options text) s e t) : Evaluates (.inline options text) s e t

/-- A tree that the step is given comes from a source text. -/
def Sourced : Step → Prop
  | .evaluate tree => ∃ source, Expr.parse source = .ok tree
  | _ => True

end Step

/-- The session that steps lead to from a new one. -/
def Session.reached (steps : List Step) : Session := steps.foldl Step.after {}

/-! ## Running a source -/

namespace Session

/-- Writing tokens changes nothing but the console. -/
theorem dumpTokens_eq (tokens : List Token) (s : Session) : ∃ print,
    (forIn tokens PUnit.unit (fun token _ => do
      modify fun session : Session =>
        session.mapConsole (·.print (token.describe session.language ++ "\n"))
      pure (ForInStep.yield PUnit.unit)) : Action PUnit) s
      = .ok PUnit.unit (s.mapConsole print) := by
  induction tokens generalizing s with
  | nil => exact ⟨id, rfl⟩
  | cons token tokens ih =>
    obtain ⟨print, hprint⟩ :=
      ih (s.mapConsole (·.print (token.describe s.language ++ "\n")))
    rw [List.forIn_cons]
    exact ⟨fun console => print (console.print (token.describe s.language ++ "\n")),
      (bind_of_ok rfl).trans hprint⟩

/-- A source runs as its tree, in a session with another console, or it has no tree. -/
theorem execute_eq (options : Options) (source : String) (s : Session) :
    (∃ e print, Expr.parse source = .ok e
      ∧ execute options source s = e.evaluate (s.mapConsole print))
    ∨ ∃ fault print, execute options source s = .error fault (s.mapConsole print) := by
  obtain ⟨tokens, htokens⟩ : ∃ print, execute options source s
      = execute { options with dumpTokens := false } source (s.mapConsole print) := by
    by_cases hdump : options.dumpTokens = true
    · obtain ⟨print, hprint⟩ := dumpTokens_eq (tokenize source) s
      refine ⟨print, ?_⟩
      simp only [execute, hdump, if_true]
      exact bind_of_ok hprint
    · exact ⟨id, by simp only [execute, hdump]; rfl⟩
  rw [htokens]
  simp only [execute, parseAction]
  cases hparse : Expr.parse source with
  | error fault => exact .inr ⟨fault, tokens, rfl⟩
  | ok e =>
    refine .inl ⟨e, ?_⟩
    by_cases hdump : options.dumpTree = true
    · refine ⟨fun console => (tokens console).print e.dump, rfl, ?_⟩
      simp only [hdump, if_true]
      rfl
    · refine ⟨tokens, rfl, ?_⟩
      simp only [hdump]
      rfl

end Session

/-! ## What steps keep -/

section

variable {P : TokenKind → Prop} {V : Value → Prop} {N : String → Prop}

theorem Keeps.sessionOf {α : Type} {I : Session → Prop} {Q : α → Prop} {action : Action α}
    (h : Keeps I Q action) {s : Session} (hs : I s) : I (sessionOf (action s)) := by
  have := h s hs
  cases hrun : action s with
  | ok a s' => rw [hrun] at this; exact this.2
  | error fault s' => rw [hrun] at this; exact this

theorem Kept.builtOf_of_parse (k : Kept P V N) {source : String} {e : Expr}
    (h : Expr.parse source = .ok e) : e.BuiltOf P :=
  Expr.builtOf_of_parse (fun _ => k.lexed) h

namespace Session.Sound

variable {s : Session}

theorem evaluate (k : Kept P V N) (hs : s.Sound V N) {e : Expr} (he : e.BuiltOf P) :
    (sessionOf (e.evaluate s)).Sound V N :=
  (Expr.evaluate_keeps k e he).sessionOf hs

theorem execute (k : Kept P V N) (hs : s.Sound V N) (options : Options) (source : String) :
    (sessionOf (Session.execute options source s)).Sound V N := by
  rcases execute_eq options source s with ⟨e, print, hparse, hrun⟩ | ⟨fault, print, hrun⟩
  · rw [hrun]
    exact (hs.mapConsole print).evaluate k (k.builtOf_of_parse hparse)
  · rw [hrun]
    exact hs.mapConsole print

theorem run (k : Kept P V N) (hs : s.Sound V N) (source : String) :
    (sessionOf (Session.run source s)).Sound V N := by
  cases hparse : Expr.parse source with
  | error fault =>
    rw [run_of_fault hparse]
    exact hs
  | ok e =>
    rw [run_of_parse hparse]
    exact hs.evaluate k (k.builtOf_of_parse hparse)

theorem reset (s : Session) : s.reset.Sound V N where
  places := show standardPlaces ≤ maxPlaces by decide
  distinct := List.nodup_nil
  entries := List.forall_mem_nil _

theorem setPlaces (hs : s.Sound V N) (places : Nat) : (s.setPlaces places).Sound V N :=
  ⟨Nat.min_le_right .., hs.distinct, hs.entries⟩

theorem setLanguage (hs : s.Sound V N) (language : Language) : (s.setLanguage language).Sound V N :=
  ⟨hs.places, hs.distinct, hs.entries⟩

theorem answer (k : Kept P V N) (hs : s.Sound V N) (options : Options) (text : String) :
    (s.answer options text).2.Sound V N := by
  unfold Session.answer
  dsimp only
  split
  -- of the commands only these change the session; all else is run
  case h_7 => exact reset s
  case h_8 => exact hs.mapConsole _
  case h_9 =>
    split
    · exact hs.setLanguage _
    · exact hs
  case h_10 =>
    have hexecuted := hs.execute k options (Text.trim text)
    unfold runLine
    split
    case h_1 hrun =>
      rw [hrun] at hexecuted
      split <;> exact hexecuted
    case h_2 hrun =>
      rw [hrun] at hexecuted
      exact hexecuted
  all_goals exact hs

theorem of_answer (k : Kept P V N) (hs : s.Sound V N) {options : Options} {text : String}
    {reply : Reply} {s' : Session} (h : s.answer options text = (reply, s')) : s'.Sound V N := by
  have hanswered := hs.answer k options text
  rw [h] at hanswered
  exact hanswered

theorem runLines (k : Kept P V N) (options : Options) (number : Nat) (lines : List String)
    (hs : s.Sound V N) : (s.runLines options number lines).2.Sound V N := by
  induction lines generalizing number s with
  | nil => exact hs
  | cons line rest ih =>
    rw [Session.runLines]
    dsimp only
    split
    case isTrue => exact ih _ hs
    case isFalse =>
      split
      case h_1 s' hanswer => exact ih _ (hs.of_answer k hanswer)
      case h_2 text s' hanswer => exact ih _ ((hs.of_answer k hanswer).mapConsole _)
      case h_3 goodbye s' hanswer =>
        exact (hs.of_answer k hanswer).mapConsole (·.writeLine goodbye)
      case h_4 notice s' hanswer => exact ih _ (hs.of_answer k hanswer)

theorem report (hs : s.Sound V N) (options : Options) (notice : Notice) (name source : String) :
    (s.report options notice name source).Sound V N := by
  unfold Session.report
  split
  · exact hs.mapConsole _
  · exact hs.mapConsole _

theorem runInline (k : Kept P V N) (hs : s.Sound V N) (options : Options) (text : String) :
    (s.runInline options text).2.Sound V N := by
  unfold Session.runInline
  split
  case h_1 s' hanswer => exact hs.of_answer k hanswer
  case h_2 shown s' hanswer => exact (hs.of_answer k hanswer).mapConsole (·.writeLine shown)
  case h_3 goodbye s' hanswer => exact (hs.of_answer k hanswer).mapConsole (·.writeLine goodbye)
  case h_4 notice s' hanswer => exact (hs.of_answer k hanswer).report options notice inlineName _

/-- **Every step keeps a session sound**, given that the tree it is given, if any, is good. -/
theorem after (k : Kept P V N) (hs : s.Sound V N) (step : Step)
    (hstep : ∀ e, step = .evaluate e → e.BuiltOf P) : (step.after s).Sound V N := by
  cases step with
  | run source => exact hs.run k source
  | evaluate e => exact hs.evaluate k (hstep e rfl)
  | line options text => exact hs.answer k options text
  | script options text => exact hs.runLines k options 1 (Text.lines text)
  | inline options text => exact hs.runInline k options text
  | setLanguage language => exact hs.setLanguage language
  | setPlaces places => exact hs.setPlaces places
  | reset => exact reset s

end Session.Sound

/-- The sessions that are reached are sound. -/
theorem Session.reached_sound (k : Kept P V N) (steps : List Step)
    (hsteps : ∀ step ∈ steps, ∀ e, step = .evaluate e → e.BuiltOf P) :
    (reached steps).Sound V N := by
  suffices h : ∀ s : Session, s.Sound V N → (steps.foldl Step.after s).Sound V N by
    exact h {} .start
  induction steps with
  | nil => exact fun s hs => hs
  | cons step steps ih =>
    intro s hs
    obtain ⟨hstep, hrest⟩ := List.forall_mem_cons.1 hsteps
    exact ih hrest _ (hs.after k step hstep)

/-- So are the sessions in which trees are evaluated, and the trees are good. -/
theorem Step.Evaluates.sound (k : Kept P V N) {step : Step} {s t : Session} {e : Expr}
    (h : step.Evaluates s e t) (hstep : ∀ e, step = .evaluate e → e.BuiltOf P)
    (hs : s.Sound V N) : e.BuiltOf P ∧ t.Sound V N := by
  induction h with
  | run h => exact ⟨k.builtOf_of_parse h, hs⟩
  | tree => exact ⟨hstep _ rfl, hs⟩
  | line h => exact ⟨k.builtOf_of_parse h, hs.mapConsole _⟩
  | script hlines h ih =>
    exact ih (fun _ heq => nomatch heq) (hs.runLines k _ _ _)
  | inline h ih => exact ih (fun _ heq => nomatch heq) hs

end

end Calculator
