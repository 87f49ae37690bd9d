import Calculator.Proofs.Session.Steps

/-!
# What holds in every session

Two properties of values that all operations keep, and what follows for every session that steps can
lead to:

* A value is not NaN (`Value.Defined`). Numbers come from sources, from arithmetic that refuses NaN,
  from negation, which keeps it out, and from calls, whose result is checked.
* A text is within the bound (`Value.Short`). Each way to make a text cuts it.

The first needs trees from sources, since a tree can be given any number. The second holds for all
trees, and with it the bounds on places and the order among variables; that variables have names of
their own, which no function has, is again for trees from sources.
-/

namespace Calculator

namespace Value

/-- Not NaN. -/
def Defined : Value → Prop
  | .number n => n.isNaN = false
  | _ => True

/-- Not a text longer than texts may be. -/
def Short : Value → Prop
  | .text s => s.length ≤ Text.maxLength
  | _ => True

theorem short_ofText (s : String) : (ofText s).Short := by
  show (Text.bounded s).length ≤ Text.maxLength
  rw [Text.bounded, String.length_ofList, List.length_take]
  exact Nat.min_le_left ..

end Value

/-! ## Arithmetic -/

theorem BinaryOp.isNaN_defined {op : BinaryOp} {result n : Number}
    (h : op.defined result = .ok n) : n.isNaN = false := by
  unfold BinaryOp.defined at h
  split at h
  case isTrue => cases h
  case isFalse hnan =>
    cases h
    exact Bool.eq_false_iff.2 hnan

theorem BinaryOp.isNaN_onNumbers {op : BinaryOp} {l r n : Number}
    (h : op.onNumbers l r = .ok n) : n.isNaN = false := by
  cases op with
  | add | subtract | multiply | power => exact isNaN_defined h
  | divide =>
    simp only [onNumbers] at h
    split at h
    · cases h
    · exact isNaN_defined h
  | modulo =>
    simp only [onNumbers] at h
    split at h
    · cases h
    · exact isNaN_defined h

/-- What a binary operation gives: a number that is not NaN, or a text that was cut. -/
theorem BinaryOp.onValues_cases {op : BinaryOp} {places : Nat} {l r v : Value}
    (h : op.onValues places l r = .ok v) :
    (∃ n : Number, v = .number n ∧ n.isNaN = false) ∨ ∃ s, v = .ofText s := by
  unfold BinaryOp.onValues at h
  split at h
  case h_1 left right =>
    cases hresult : op.onNumbers left right with
    | error cause => rw [hresult] at h; cases h
    | ok n =>
      rw [hresult] at h
      cases h
      exact .inl ⟨n, rfl, isNaN_onNumbers hresult⟩
  case h_2 =>
    split at h
    · cases h
      exact .inr ⟨_, rfl⟩
    · cases h

/-- What a unary operation gives: a number, and not NaN unless it was given that. -/
theorem UnaryOp.onValue_cases {op : UnaryOp} {v w : Value} (h : op.onValue v = .ok w) :
    ∃ n : Number, w = .number n ∧ (v.Defined → n.isNaN = false) := by
  cases v with
  | text | null => cases h
  | number m =>
    cases op with
    | negate =>
      cases h
      exact ⟨-m, rfl, fun hm => (m.isNaN_neg).trans hm⟩
    | factorial =>
      simp only [onValue, onNumber] at h
      split at h
      case isTrue => cases h
      case isFalse hnan =>
        cases h
        exact ⟨_, rfl, fun _ => Bool.eq_false_iff.2 hnan⟩

/-! ## What is kept -/

theorem kept_defined : Kept TokenKind.Lexed Value.Defined fun _ => True where
  lexed h := h
  name _ := trivial
  number h := h
  text _ := trivial
  null := trivial
  binary h _ _ := by
    rcases BinaryOp.onValues_cases h with ⟨n, rfl, hn⟩ | ⟨s, rfl⟩
    · exact hn
    · trivial
  unary h hv := by
    obtain ⟨n, rfl, hn⟩ := UnaryOp.onValue_cases h
    exact hn hv
  defined h := h

theorem kept_short {P : TokenKind → Prop} {N : String → Prop}
    (hlexed : ∀ kind : TokenKind, kind.Lexed → P kind) (hname : ∀ id, P (.identifier id) → N id) :
    Kept P Value.Short N where
  lexed h := hlexed _ h
  name h := hname _ h
  number _ := trivial
  text := Value.short_ofText
  null := trivial
  binary h _ _ := by
    rcases BinaryOp.onValues_cases h with ⟨n, rfl, -⟩ | ⟨s, rfl⟩
    · trivial
    · exact Value.short_ofText s
  unary h _ := by
    obtain ⟨n, rfl, -⟩ := UnaryOp.onValue_cases h
    trivial
  defined _ := trivial

theorem Step.Sourced.builtOf {step : Step} (h : step.Sourced) :
    ∀ e, step = .evaluate e → e.BuiltOf TokenKind.Lexed := by
  rintro e rfl
  obtain ⟨source, hparse⟩ := h
  exact Expr.builtOf_of_parse (fun _ hkind => hkind) hparse

/-- Every function, alias and style is found by its name. -/
theorem Builtin.isName_of_table : (∀ f ∈ Builtin.functions, isName f.name = true)
    ∧ (∀ entry ∈ Builtin.aliases, isName entry.1 = true)
    ∧ ∀ style ∈ Style.all, isName style.name = true := by
  decide +kernel

namespace Session

/-- **No NaN in a session.** After steps whose trees come from sources no variable is NaN, and
whatever a further step evaluates, no tree on the way has the value NaN. -/
theorem reached_nanFree (steps : List Step) (hsteps : ∀ step ∈ steps, step.Sourced) :
    (∀ x ∈ (reached steps).bindings.entries, ∀ n, x.value = .number n → n.isNaN = false)
    ∧ ∀ step : Step, step.Sourced → ∀ e t, step.Evaluates (reached steps) e t →
        ∀ x u, Visits e t x u → ∀ evaluation u', x.evaluate u = .ok evaluation u' →
          ∀ n, evaluation.value = .number n → n.isNaN = false := by
  have hsound := reached_sound kept_defined steps fun step h => (hsteps step h).builtOf
  refine ⟨fun x hx n hn => ?_, ?_⟩
  · have hvalue := (hsound.entries x hx).2.2
    rw [hn] at hvalue
    exact hvalue
  · intro step hstep e t hevaluates x u hvisits evaluation u' hrun n hn
    obtain ⟨he, ht⟩ := hevaluates.sound kept_defined hstep.builtOf hsound
    have hvalue := hvisits.value kept_defined he ht hrun
    rw [hn] at hvalue
    exact hvalue

/-- A program that fails half way keeps what it had assigned. -/
theorem reached_nanFree_failed :
    (reached [.run "x = 0.5; y = x / 0", .line {} "z = -x"]).bindings.entries.map Variable.name
        = ["x", "z"]
      ∧ ∀ x ∈ (reached [.run "x = 0.5; y = x / 0", .line {} "z = -x"]).bindings.entries,
          ∀ n, x.value = .number n → n.isNaN = false := by
  refine ⟨by decide +kernel, (reached_nanFree _ ?_).1⟩
  simp [Step.Sourced]

/-- **The invariant of sessions.** Whatever steps were taken, and whether they failed or not: the
decimal places are at most fifteen, names have one variable each, which has a value, and no text is
longer than 255 characters, neither of a variable nor of any tree that is evaluated. If all trees
come from sources, the names of variables are words, and none is that of a function, an alias or a
style. -/
theorem reached_invariant (steps : List Step) :
    (reached steps).places ≤ 15
    ∧ ((reached steps).bindings.entries.map Variable.name).Nodup
    ∧ (∀ x ∈ (reached steps).bindings.entries,
        x.initialized = true ∧ ∀ text, x.value = .text text → text.length ≤ 255)
    ∧ (∀ step : Step, ∀ e t, step.Evaluates (reached steps) e t → ∀ x u, Visits e t x u →
        ∀ evaluation u', x.evaluate u = .ok evaluation u' →
          ∀ text, evaluation.value = .text text → text.length ≤ 255)
    ∧ ((∀ step ∈ steps, step.Sourced) → ∀ x ∈ (reached steps).bindings.entries,
        Token.IsWord x.name ∧ (∀ f ∈ Builtin.functions, f.name ≠ x.name)
          ∧ (∀ entry ∈ Builtin.aliases, entry.1 ≠ x.name)
          ∧ ∀ style ∈ Style.all, style.name ≠ x.name) := by
  have hkept : Kept (fun _ => True) Value.Short fun _ => True :=
    kept_short (fun _ _ => trivial) fun _ _ => trivial
  have hany (step : Step) : ∀ e, step = .evaluate e → e.BuiltOf fun _ => True :=
    fun e _ => Expr.builtOf_of_forall (fun _ => trivial) e
  have hsound := reached_sound hkept steps fun step _ => hany step
  refine ⟨hsound.places, hsound.distinct, fun x hx => ?_, ?_, ?_⟩
  · obtain ⟨hinitialized, -, hvalue⟩ := hsound.entries x hx
    refine ⟨hinitialized, fun text htext => ?_⟩
    rw [htext] at hvalue
    exact hvalue
  · intro step e t hevaluates x u hvisits evaluation u' hrun text htext
    obtain ⟨he, ht⟩ := hevaluates.sound hkept (hany step) hsound
    have hvalue := hvisits.value hkept he ht hrun
    rw [htext] at hvalue
    exact hvalue
  · intro hsteps x hx
    have hnamed := reached_sound (N := fun id => Token.IsWord id ∧ Builtin.isName id = false)
      (kept_short (fun _ hkind => hkind) fun _ hid => hid) steps
      fun step h => (hsteps step h).builtOf
    obtain ⟨-, ⟨hword, hname⟩, -⟩ := hnamed.entries x hx
    obtain ⟨hfunctions, haliases, hstyles⟩ := Builtin.isName_of_table
    refine ⟨hword, fun f hf heq => ?_, fun entry hentry heq => ?_, fun style hstyle heq => ?_⟩
    · exact Bool.false_ne_true (hname.symm.trans (heq ▸ hfunctions f hf))
    · exact Bool.false_ne_true (hname.symm.trans (heq ▸ haliases entry hentry))
    · exact Bool.false_ne_true (hname.symm.trans (heq ▸ hstyles style hstyle))

/-- A text that was made longer, more places than there are, and a program that fails half way. -/
theorem reached_invariant_failed :
    (reached [.run "s = \"ab\" + 1", .setPlaces 40, .run "t = s; u = t - 1"]).bindings.entries.map
        Variable.name = ["s", "t"]
      ∧ (reached [.run "s = \"ab\" + 1", .setPlaces 40, .run "t = s; u = t - 1"]).places ≤ 15
      ∧ ∀ x ∈ (reached [.run "s = \"ab\" + 1", .setPlaces 40,
            .run "t = s; u = t - 1"]).bindings.entries,
          Token.IsWord x.name ∧ ∀ text, x.value = .text text → text.length ≤ 255 := by
  refine ⟨by decide +kernel, (reached_invariant _).1, fun x hx => ⟨?_, ?_⟩⟩
  · exact ((reached_invariant _).2.2.2.2 (by simp [Step.Sourced]) x hx).1
  · exact ((reached_invariant _).2.2.1 x hx).2

end Session

end Calculator
