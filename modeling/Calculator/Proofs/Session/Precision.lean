import Calculator.Proofs.Session.Coupling

/-!
# Places and texts are for show

The decimal places of a session decide how numbers look, in what is printed and in the texts that
are made of them. They decide nothing else. Two sessions are `Similar` if they differ at most in
their places and in what their texts say; then every source has the same numbers, the same faults
and the same types of values in both, and leaves them similar (`Session.run_similar`).

No function looks into a text: `Task.perform_similar` goes through all of them.
-/

namespace Calculator

/-! ## Similar values and sessions -/

namespace Value

/-- Of one type, and the same number if they are numbers. Texts may say anything. -/
def Similar : Value → Value → Prop
  | .number m, .number n => m = n
  | .text _, .text _ => True
  | .null, .null => True
  | _, _ => False

theorem similar_number {v w : Value} (h : v.Similar w) (n : Number) :
    v = .number n ↔ w = .number n := by
  cases v <;> cases w <;> simp_all [Similar]

theorem similar_ofText (s t : String) : (ofText s).Similar (ofText t) := trivial

theorem similar_number? {v w : Value} (h : v.Similar w) : v.number? = w.number? := by
  cases v <;> cases w <;> simp_all [Similar, number?]

theorem similar_numbers? {vs ws : List Value} (h : List.Forall₂ Similar vs ws) :
    vs.mapM number? = ws.mapM number? := by
  induction h with
  | nil => rfl
  | cons hvw _ ih => rw [List.mapM_cons, List.mapM_cons, similar_number? hvw, ih]

end Value

/-- Variables of one name with similar values. -/
structure Variable.Similar (x y : Variable) : Prop where
  name : x.name = y.name
  initialized : x.initialized = y.initialized
  value : x.value.Similar y.value

/-- As many lines, and as many times cleared. -/
structure Console.Similar (a b : Console) : Prop where
  lines : a.lines.length = b.lines.length
  clears : a.clears = b.clears

/-- Sessions that differ at most in their places and in what their texts say. -/
structure Session.Similar (s t : Session) : Prop where
  language : s.language = t.language
  bindings : List.Forall₂ Variable.Similar s.bindings.entries t.bindings.entries
  console : s.console.Similar t.console

namespace Bindings

theorem lookupIn_similar {xs ys : List Variable} (h : List.Forall₂ Variable.Similar xs ys)
    (id : String) : Option.Rel Value.Similar (lookupIn id xs) (lookupIn id ys) := by
  induction h with
  | nil => exact .none
  | cons hxy _ ih =>
    rw [lookupIn, lookupIn, hxy.name, hxy.initialized]
    split
    · exact .some hxy.value
    · exact ih

theorem setIn_similar {xs ys : List Variable} (h : List.Forall₂ Variable.Similar xs ys)
    (id : String) {v w : Value} (hvalue : v.Similar w) :
    List.Forall₂ Variable.Similar (setIn id v xs) (setIn id w ys) := by
  induction h with
  | nil => exact .cons ⟨rfl, rfl, hvalue⟩ .nil
  | cons hxy hrest ih =>
    rw [setIn, setIn, hxy.name]
    split
    · exact .cons ⟨rfl, rfl, hvalue⟩ hrest
    · exact .cons hxy ih

end Bindings

/-! ## Functions -/

namespace Console.Similar

variable {a b : Console}

theorem writeLine (h : a.Similar b) (s t : String) : (a.writeLine s).Similar (b.writeLine t) where
  lines := by simp [h.lines]
  clears := by simp [h.clears]

theorem clearScreen (h : a.Similar b) : a.clearScreen.Similar b.clearScreen where
  lines := by simp [h.lines]
  clears := by simp [h.clears]

end Console.Similar

/-- What two calls come to that were made with similar arguments and consoles. -/
def CallsSimilar (x y : Except Cause (Returned × Desk)) : Prop :=
  ExceptAlike Eq (fun x y => ReturnedAlike Value.Similar x.1 y.1 ∧ x.2.console.Similar y.2.console)
    x y

namespace Task

variable {s t : Desk} {vs ws : List Value}

theorem setPlaces_similar (name : String) {v w : Value} (hvw : v.Similar w)
    (h : s.console.Similar t.console) :
    CallsSimilar (setPlaces.perform name [v] s) (setPlaces.perform name [w] t) := by
  cases v with
  | number n =>
    cases (Value.similar_number hvw n).1 rfl
    simp only [perform]
    cases placesOf? n with
    | some places => exact ⟨trivial, h⟩
    | none => rfl
  | text | null =>
    cases w with
    | number n => exact hvw.elim
    | text | null => rfl

theorem align_similar (alignment : Alignment) (name : String) {v w : Value} (hvw : v.Similar w)
    (v' w' : Value) (h : s.console.Similar t.console) :
    CallsSimilar ((align alignment).perform name [v, v'] s)
      ((align alignment).perform name [w, w'] t) := by
  cases v with
  | number n =>
    cases (Value.similar_number hvw n).1 rfl
    exact ⟨trivial, h⟩
  | text | null =>
    cases w with
    | number n => exact hvw.elim
    | text | null => rfl

theorem repeatFirst_similar (name : String) {v w v' w' : Value} (hvw : v.Similar w)
    (hvw' : v'.Similar w') (h : s.console.Similar t.console) :
    CallsSimilar (repeatFirst.perform name [v, v'] s) (repeatFirst.perform name [w, w'] t) := by
  cases v with
  | text a =>
    cases w with
    | number | null => exact hvw.elim
    | text b =>
      cases v' with
      | number n =>
        cases (Value.similar_number hvw' n).1 rfl
        exact ⟨trivial, h⟩
      | text | null =>
        cases w' with
        | number n => exact hvw'.elim
        | text | null => rfl
  | number | null =>
    cases w with
    | text b => exact hvw.elim
    | number | null => rfl

/-- **No function looks into a text.** With as many arguments as it takes, similar ones, it fails in
both sessions for the same cause or gives similar values. -/
theorem perform_similar {task : Task} (name : String) (hargs : List.Forall₂ Value.Similar vs ws)
    (haccepts : task.arity.accepts vs.length = true) (h : s.console.Similar t.console) :
    CallsSimilar (task.perform name vs s) (task.perform name ws t) := by
  cases task with
  | compute formula =>
    simp only [perform, Value.similar_numbers? hargs]
    cases ws.mapM Value.number? with
    | some numbers => exact ⟨rfl, h⟩
    | none => rfl
  | print => exact ⟨trivial, h.writeLine _ _⟩
  | clear => exact ⟨trivial, h.clearScreen⟩
  | setPlaces =>
    obtain ⟨v, rfl⟩ := List.length_eq_one_iff.1 (beq_iff_eq.1 haccepts)
    obtain ⟨w, _, hvw, hrest, rfl⟩ := List.forall₂_cons_left_iff.1 hargs
    cases hrest
    exact setPlaces_similar name hvw h
  | style chosen =>
    obtain ⟨v, rfl⟩ := List.length_eq_one_iff.1 (beq_iff_eq.1 haccepts)
    obtain ⟨w, _, hvw, hrest, rfl⟩ := List.forall₂_cons_left_iff.1 hargs
    cases hrest
    exact ⟨trivial, h⟩
  | align alignment =>
    obtain ⟨v, v', rfl⟩ := List.length_eq_two.1 (beq_iff_eq.1 haccepts)
    obtain ⟨w, _, hvw, hrest, rfl⟩ := List.forall₂_cons_left_iff.1 hargs
    obtain ⟨w', _, -, hnone, rfl⟩ := List.forall₂_cons_left_iff.1 hrest
    cases hnone
    exact align_similar alignment name hvw v' w' h
  | repeatFirst =>
    obtain ⟨v, v', rfl⟩ := List.length_eq_two.1 (beq_iff_eq.1 haccepts)
    obtain ⟨w, _, hvw, hrest, rfl⟩ := List.forall₂_cons_left_iff.1 hargs
    obtain ⟨w', _, hvw', hnone, rfl⟩ := List.forall₂_cons_left_iff.1 hrest
    cases hnone
    exact repeatFirst_similar name hvw hvw' h

end Task

theorem Builtin.call_similar (name : String) {vs ws : List Value}
    (hargs : List.Forall₂ Value.Similar vs ws) {s t : Desk} (h : s.console.Similar t.console) :
    CallsSimilar (Builtin.call name vs s) (Builtin.call name ws t) := by
  unfold Builtin.call
  cases find? name with
  | none => rfl
  | some builtin =>
    simp only [Arity.check, ← hargs.length_eq]
    by_cases haccepts : builtin.arity.accepts vs.length = true
    · rw [if_pos haccepts]
      exact Task.perform_similar name hargs haccepts h
    · rw [if_neg haccepts]
      rfl

/-! ## Programs -/

/-- Similar sessions and values, with the same causes. -/
def Coupling.similar : Coupling where
  session := Session.Similar
  value := Value.Similar
  cause := Eq
  function := Eq

theorem Coupling.similar_lawful : Coupling.similar.Lawful where
  number h n := Value.similar_number h n
  number_self _ := rfl
  text_self s := Value.similar_ofText s s
  null_self := trivial
  cause_self _ := rfl
  lookup h id := Bindings.lookupIn_similar h.bindings id
  set h id _ _ hvalue := ⟨h.language, Bindings.setIn_similar h.bindings id hvalue, h.console⟩
  concat _ _ _ _ _ _ _ := trivial
  find h := by rw [h]
  blame h := ⟨congrArg _ h, congrArg _ h, congrArg _ h⟩
  call h f _ hname _ _ hargs := by
    cases hname
    exact (Builtin.call_similar f hargs h.console).mono fun x y hxy =>
      ⟨hxy.1, h.language, h.bindings, hxy.2⟩

namespace Session

/-- **Places and texts are for show.** In similar sessions a source fails with the same fault, told
in the same words, or succeeds with values of one type and the same numbers; either way the sessions
that it leaves are similar. -/
theorem run_similar (source : String) {s t : Session} (h : s.Similar t) :
    match Session.run source s, Session.run source t with
    | .ok x s', .ok y t' =>
      x.isAssignment = y.isAssignment ∧ x.value.Similar y.value ∧ s'.Similar t'
    | .error f s', .error g t' =>
      f = g ∧ f.notice s'.language = g.notice t'.language ∧ s'.Similar t'
    | _, _ => False := by
  have hruns := Coupling.run_alike Coupling.similar_lawful (fun _ => rfl) source s t h
  cases hs : Session.run source s with
  | ok x s' =>
    cases ht : Session.run source t with
    | ok y t' =>
      rw [hs, ht] at hruns
      exact ⟨hruns.1.isAssignment, hruns.1.value, hruns.2⟩
    | error g t' => rw [hs, ht] at hruns; exact hruns
  | error f s' =>
    cases ht : Session.run source t with
    | ok y t' => rw [hs, ht] at hruns; exact hruns
    | error g t' =>
      rw [hs, ht] at hruns
      obtain ⟨hfaults, hsessions⟩ := hruns
      exact ⟨hfaults.eq, by rw [hfaults.eq, hsessions.language], hsessions⟩

/-- The text of `x` and the places differ, so does the text assigned, and the fault is one. -/
theorem run_similar_texts :
    Similar { places := 2, bindings := ⟨[{ name := "x", value := .text "ab" }]⟩ }
        { places := 0, bindings := ⟨[{ name := "x", value := .text "" }]⟩ }
      ∧ ∃ s' t', Session.run "x = x + 0.5; x - 1"
          { places := 2, bindings := ⟨[{ name := "x", value := .text "ab" }]⟩ }
            = .error ⟨.operandsNotNumbers, ⟨13, 18⟩, none⟩ s'
        ∧ Session.run "x = x + 0.5; x - 1"
          { places := 0, bindings := ⟨[{ name := "x", value := .text "" }]⟩ }
            = .error ⟨.operandsNotNumbers, ⟨13, 18⟩, none⟩ t'
        ∧ s'.bindings.get "x" = .text "ab0.50" ∧ t'.bindings.get "x" = .text "0"
        ∧ s'.Similar t' := by
  have hsimilar : Similar { places := 2, bindings := ⟨[{ name := "x", value := .text "ab" }]⟩ }
      { places := 0, bindings := ⟨[{ name := "x", value := .text "" }]⟩ } :=
    ⟨rfl, .cons ⟨rfl, rfl, trivial⟩ .nil, rfl, rfl⟩
  have hs : Session.run "x = x + 0.5; x - 1"
      { places := 2, bindings := ⟨[{ name := "x", value := .text "ab" }]⟩ }
        = .error ⟨.operandsNotNumbers, ⟨13, 18⟩, none⟩
          { places := 2, bindings := ⟨[{ name := "x", value := .text "ab0.50" }]⟩ } :=
    eq_error_of_fault? (by decide +kernel)
  have ht : Session.run "x = x + 0.5; x - 1"
      { places := 0, bindings := ⟨[{ name := "x", value := .text "" }]⟩ }
        = .error ⟨.operandsNotNumbers, ⟨13, 18⟩, none⟩
          { places := 0, bindings := ⟨[{ name := "x", value := .text "0" }]⟩ } :=
    eq_error_of_fault? (by decide +kernel)
  have hruns := run_similar "x = x + 0.5; x - 1" hsimilar
  rw [hs, ht] at hruns
  exact ⟨hsimilar, _, _, hs, ht, rfl, rfl, hruns.2.2⟩

end Session

end Calculator
