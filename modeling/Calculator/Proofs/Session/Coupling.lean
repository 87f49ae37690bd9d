import Calculator.Proofs.Session.Evaluation

/-!
# Two runs side by side

Statements about two runs say that what is alike at the start stays alike. `Alike` says so of two
actions: from sessions that are related they both succeed or both fail, with related results or
faults, and leave related sessions.

What may be related is not arbitrary: every operation has to lead from related values and sessions
to related ones. A `Coupling` is a choice of relations, `Coupling.Lawful` are these laws, and
`Coupling.evaluate_alike` is what follows, by one induction over trees: two trees of one shape, with
related places and names of functions, are evaluated alike.
-/

namespace Calculator

/-! ## Actions -/

section

variable {α β γ δ : Type} {S : Session → Session → Prop} {F : Fault → Fault → Prop}
  {R : α → β → Prop} {T : γ → δ → Prop}

/-- Two successes with related results or two failures with related faults, in related sessions. -/
def ResultsAlike (S : Session → Session → Prop) (F : Fault → Fault → Prop) (R : α → β → Prop) :
    EStateM.Result Fault Session α → EStateM.Result Fault Session β → Prop
  | .ok a s, .ok b t => R a b ∧ S s t
  | .error f s, .error g t => F f g ∧ S s t
  | _, _ => False

/-- From related sessions the two actions come to results that are alike. -/
def Alike (S : Session → Session → Prop) (F : Fault → Fault → Prop) (R : α → β → Prop)
    (x : Action α) (y : Action β) : Prop :=
  ∀ s t, S s t → ResultsAlike S F R (x s) (y t)

theorem alike_pure {a : α} {b : β} (h : R a b) : Alike S F R (pure a) (pure b) :=
  fun _ _ hst => ⟨h, hst⟩

theorem Alike.bind {x : Action α} {y : Action β} {f : α → Action γ} {g : β → Action δ}
    (h : Alike S F R x y) (hnext : ∀ a b, R a b → Alike S F T (f a) (g b)) :
    Alike S F T (x >>= f) (y >>= g) := by
  intro s t hst
  have hxy := h s t hst
  show ResultsAlike S F T (EStateM.bind x f s) (EStateM.bind y g t)
  unfold EStateM.bind
  cases hx : x s with
  | ok a s' =>
    cases hy : y t with
    | ok b t' =>
      rw [hx, hy] at hxy
      exact hnext a b hxy.1 s' t' hxy.2
    | error g t' => rw [hx, hy] at hxy; exact hxy.elim
  | error f s' =>
    cases hy : y t with
    | ok b t' => rw [hx, hy] at hxy; exact hxy.elim
    | error g t' => rw [hx, hy] at hxy; exact hxy

theorem alike_get : Alike S F S (get : Action Session) (get : Action Session) :=
  fun _ _ hst => ⟨hst, hst⟩

theorem alike_set {s t : Session} (h : S s t) :
    Alike S F (fun _ _ => True) (set s : Action PUnit) (set t : Action PUnit) :=
  fun _ _ _ => ⟨trivial, h⟩

theorem alike_modify {f g : Session → Session} (h : ∀ s t, S s t → S (f s) (g t)) :
    Alike S F (fun _ _ => True) (modify f : Action PUnit) (modify g : Action PUnit) :=
  fun s t hst => ⟨trivial, h s t hst⟩

end

/-! ## Faults -/

/-- Both have a value, and `R` relates them, or both have a cause, and `K` does. -/
def ExceptAlike {α β : Type} (K : Cause → Cause → Prop) (R : α → β → Prop) :
    Except Cause α → Except Cause β → Prop
  | .ok a, .ok b => R a b
  | .error c, .error d => K c d
  | _, _ => False

theorem ExceptAlike.mono {α β : Type} {K : Cause → Cause → Prop} {R T : α → β → Prop}
    {x : Except Cause α} {y : Except Cause β} (h : ExceptAlike K R x y)
    (hRT : ∀ a b, R a b → T a b) : ExceptAlike K T x y := by
  cases x with
  | ok a =>
    cases y with
    | ok b => exact hRT a b h
    | error d => exact h
  | error c =>
    cases y with
    | ok b => exact h
    | error d => exact h

/-- The causes are related and so are the places, and the advice is the same. -/
structure FaultsAlike (K : Cause → Cause → Prop) (P : Span → Span → Prop) (f g : Fault) : Prop where
  cause : K f.cause g.cause
  span : P f.span g.span
  advice : f.advice = g.advice

theorem FaultsAlike.eq {f g : Fault} (h : FaultsAlike Eq Eq f g) : f = g := by
  obtain ⟨hcause, hspan, hadvice⟩ := h
  cases f
  cases g
  cases hcause
  cases hspan
  cases hadvice
  rfl

section

variable {α β : Type} {S : Session → Session → Prop} {K : Cause → Cause → Prop}
  {P : Span → Span → Prop} {R : α → β → Prop} {a b : Span}

theorem alike_failAt {c d : Cause} (hc : K c d) (hspan : P a b) :
    Alike S (FaultsAlike K P) R (failAt a c) (failAt b d) :=
  fun _ _ hst => ⟨⟨hc, hspan, rfl⟩, hst⟩

theorem alike_orFailAt {x : Except Cause α} {y : Except Cause β} (h : ExceptAlike K R x y)
    (hspan : P a b) : Alike S (FaultsAlike K P) R (orFailAt a x) (orFailAt b y) := by
  cases x with
  | ok u =>
    cases y with
    | ok v => exact alike_pure h
    | error d => exact h.elim
  | error c =>
    cases y with
    | ok v => exact h.elim
    | error d => exact alike_failAt h hspan

end

/-! ## Couplings -/

/-- Both calls are made for their effect, or `V` relates what they give. -/
def ReturnedAlike (V : Value → Value → Prop) : Returned → Returned → Prop
  | .value v, .value w => V v w
  | .silent, .silent => True
  | _, _ => False

/-- Relations between sessions, values, causes and names of functions. -/
structure Coupling where
  session : Session → Session → Prop
  value : Value → Value → Prop
  cause : Cause → Cause → Prop
  function : String → String → Prop

/-- Every operation leads from what is related to what is related. -/
structure Coupling.Lawful (c : Coupling) : Prop where
  /-- A number is related to itself and to nothing else. -/
  number {v w : Value} (h : c.value v w) (n : Number) : v = .number n ↔ w = .number n
  number_self (n : Number) : c.value (.number n) (.number n)
  text_self (s : String) : c.value (.ofText s) (.ofText s)
  null_self : c.value .null .null
  cause_self (k : Cause) : c.cause k k
  lookup {s t : Session} (h : c.session s t) (id : String) :
    Option.Rel c.value (s.bindings.lookup? id) (t.bindings.lookup? id)
  set {s t : Session} (h : c.session s t) (id : String) {v w : Value} (hvalue : c.value v w) :
    c.session { s with bindings := s.bindings.set id v }
      { t with bindings := t.bindings.set id w }
  concat {s t : Session} (h : c.session s t) {l l' r r' : Value} (hl : c.value l l')
    (hr : c.value r r') : c.value (Value.concat s.places l r) (Value.concat t.places l' r')
  find {f g : String} (h : c.function f g) :
    (Builtin.find? f).map (·.task.needsNoArguments)
      = (Builtin.find? g).map (·.task.needsNoArguments)
  blame {f g : String} (h : c.function f g) : c.cause (.unknownFunction f) (.unknownFunction g)
    ∧ c.cause (.missingArguments f) (.missingArguments g)
    ∧ c.cause (.undefinedResult f) (.undefinedResult g)
  call {s t : Session} (h : c.session s t) {f g : String} (hname : c.function f g)
    {vs ws : List Value} (hargs : List.Forall₂ c.value vs ws) :
    ExceptAlike c.cause (fun x y => ReturnedAlike c.value x.1 y.1
        ∧ c.session { s with toDesk := x.2 } { t with toDesk := y.2 })
      (Builtin.call f vs s.toDesk) (Builtin.call g ws t.toDesk)

namespace Coupling

variable (c : Coupling)

/-- The values are related, and both or none are to be shown. -/
structure evaluation (x y : Evaluation) : Prop where
  value : c.value x.value y.value
  isAssignment : x.isAssignment = y.isAssignment

variable {c}

/-! ### Operations -/

/-- Numbers are joined as texts where one of the values is none. -/
theorem onValues_of_not_numbers {op : BinaryOp} {places : Nat} {l r : Value}
    (h : ∀ a b, ¬ (l = .number a ∧ r = .number b)) :
    op.onValues places l r
      = if op = .add then .ok (Value.concat places l r) else .error .operandsNotNumbers := by
  unfold BinaryOp.onValues
  split
  · exact absurd ⟨rfl, rfl⟩ (h _ _)
  · rfl

theorem onValues (hc : c.Lawful) {s t : Session} (h : c.session s t) (op : BinaryOp)
    {l l' r r' : Value} (hl : c.value l l') (hr : c.value r r') :
    ExceptAlike c.cause c.value (op.onValues s.places l r) (op.onValues t.places l' r') := by
  by_cases hnumbers : ∃ a b, l = .number a ∧ r = .number b
  · obtain ⟨a, b, rfl, rfl⟩ := hnumbers
    cases (hc.number hl a).1 rfl
    cases (hc.number hr b).1 rfl
    show ExceptAlike c.cause c.value ((op.onNumbers a b).map .number)
      ((op.onNumbers a b).map .number)
    cases op.onNumbers a b with
    | ok n => exact hc.number_self n
    | error cause => exact hc.cause_self cause
  · have hleft : ∀ a b, ¬ (l = .number a ∧ r = .number b) := fun a b hab => hnumbers ⟨a, b, hab⟩
    have hright : ∀ a b, ¬ (l' = .number a ∧ r' = .number b) := by
      rintro a b ⟨ha, hb⟩
      exact hnumbers ⟨a, b, (hc.number hl a).2 ha, (hc.number hr b).2 hb⟩
    rw [onValues_of_not_numbers hleft, onValues_of_not_numbers hright]
    split
    · exact hc.concat h hl hr
    · exact hc.cause_self _

theorem onValue (hc : c.Lawful) (op : UnaryOp) {v w : Value} (h : c.value v w) :
    ExceptAlike c.cause c.value (op.onValue v) (op.onValue w) := by
  cases v with
  | number n =>
    cases (hc.number h n).1 rfl
    show ExceptAlike c.cause c.value ((op.onNumber n).map .number) ((op.onNumber n).map .number)
    cases op.onNumber n with
    | ok m => exact hc.number_self m
    | error cause => exact hc.cause_self cause
  | text | null =>
    cases w with
    | number n => cases (hc.number h n).2 rfl
    | text | null => exact hc.cause_self _

/-! ### Trees -/

variable {P : Span → Span → Prop}

theorem callAt_alike (hc : c.Lawful) {f g : String} (hname : c.function f g) {vs ws : List Value}
    (hargs : List.Forall₂ c.value vs ws) {a b : Span} (hspan : P a b) :
    Alike c.session (FaultsAlike c.cause P) c.evaluation (callAt a f vs) (callAt b g ws) := by
  refine alike_get.bind fun s t hst => ?_
  refine (alike_orFailAt (hc.call hst hname hargs) hspan).bind fun x y hxy => ?_
  obtain ⟨returned, desk⟩ := x
  obtain ⟨returned', desk'⟩ := y
  obtain ⟨hreturned, hsession⟩ := hxy
  refine (alike_set hsession).bind fun _ _ _ => ?_
  cases returned with
  | silent =>
    cases returned' with
    | silent => exact alike_pure ⟨hc.null_self, rfl⟩
    | value w => exact hreturned.elim
  | value v =>
    cases returned' with
    | silent => exact hreturned.elim
    | value w =>
      cases v with
      | number n =>
        cases (hc.number hreturned n).1 rfl
        dsimp only
        split
        · exact alike_failAt (hc.blame hname).2.2 hspan
        · exact alike_pure ⟨hc.number_self n, rfl⟩
      | text | null =>
        cases w with
        | number n => cases (hc.number hreturned n).2 rfl
        | text | null => exact alike_pure ⟨hreturned, rfl⟩

theorem name_alike (hc : c.Lawful) (id : String) {a b : Span} (hspan : P a b) :
    Alike c.session (FaultsAlike c.cause P) c.evaluation (Expr.name id a).evaluate
      (Expr.name id b).evaluate := by
  rw [Expr.evaluate, Expr.evaluate]
  refine alike_get.bind fun s t hst => ?_
  have hlookup := hc.lookup hst id
  cases hs : s.bindings.lookup? id with
  | none =>
    cases ht : t.bindings.lookup? id with
    | none => exact alike_failAt (hc.cause_self _) hspan
    | some w => rw [hs, ht] at hlookup; cases hlookup
  | some v =>
    cases ht : t.bindings.lookup? id with
    | none => rw [hs, ht] at hlookup; cases hlookup
    | some w =>
      rw [hs, ht] at hlookup
      cases hlookup with
      | some hvw => exact alike_pure ⟨hvw, rfl⟩

theorem call_alike (hc : c.Lawful) {f g : String} (hname : c.function f g) {es es' : List Expr}
    (hempty : es.isEmpty = es'.isEmpty)
    (hargs : Alike c.session (FaultsAlike c.cause P) (List.Forall₂ c.value) (Expr.evaluateArgs es)
      (Expr.evaluateArgs es')) {a b : Span} (hspan : P a b) :
    Alike c.session (FaultsAlike c.cause P) c.evaluation (Expr.call f es a).evaluate
      (Expr.call g es' b).evaluate := by
  have hfind := hc.find hname
  have hblame := hc.blame hname
  rw [Expr.evaluate, Expr.evaluate]
  cases hf : Builtin.find? f with
  | none =>
    cases hg : Builtin.find? g with
    | none => exact alike_failAt hblame.1 hspan
    | some builtin' => rw [hf, hg] at hfind; cases hfind
  | some builtin =>
    cases hg : Builtin.find? g with
    | none => rw [hf, hg] at hfind; cases hfind
    | some builtin' =>
      rw [hf, hg] at hfind
      have hneeds : builtin.task.needsNoArguments = builtin'.task.needsNoArguments :=
        Option.some.inj hfind
      dsimp only
      rw [hempty, hneeds]
      split
      · exact alike_failAt hblame.2.1 hspan
      · exact hargs.bind fun vs ws hvalues => callAt_alike hc hname hvalues hspan

mutual

/-- **Trees of one shape are evaluated alike.** -/
theorem evaluate_alike (hc : c.Lawful) {e e' : Expr} (h : e.Matches P c.function e') :
    Alike c.session (FaultsAlike c.cause P) c.evaluation e.evaluate e'.evaluate := by
  match h with
  | .number _ => exact alike_pure ⟨hc.number_self _, rfl⟩
  | .text _ => exact alike_pure ⟨hc.text_self _, rfl⟩
  | .name hspan => exact name_alike hc _ hspan
  | .call hname hes hspan =>
    exact call_alike hc hname hes.isEmpty_eq (evaluateArgs_alike hc hes) hspan
  | .assign he _ =>
    rw [Expr.evaluate, Expr.evaluate]
    refine (evaluate_alike hc he).bind fun x y hxy => ?_
    refine (alike_modify fun s t hst => hc.set hst _ hxy.value).bind fun _ _ _ => ?_
    exact alike_pure ⟨hxy.value, rfl⟩
  | .binary hl hr hspan =>
    rw [Expr.evaluate, Expr.evaluate]
    refine (evaluate_alike hc hl).bind fun l l' hleft => ?_
    refine (evaluate_alike hc hr).bind fun r r' hright => ?_
    refine alike_get.bind fun s t hst => ?_
    refine (alike_orFailAt (onValues hc hst _ hleft.value hright.value) hspan).bind
      fun v w hvw => ?_
    exact alike_pure ⟨hvw, rfl⟩
  | .unary he hspan =>
    rw [Expr.evaluate, Expr.evaluate]
    refine (evaluate_alike hc he).bind fun x y hxy => ?_
    refine (alike_orFailAt (onValue hc _ hxy.value) hspan).bind fun v w hvw => ?_
    exact alike_pure ⟨hvw, rfl⟩
  | .sequence hes _ =>
    rw [Expr.evaluate, Expr.evaluate]
    exact evaluateAll_alike hc hes ⟨hc.null_self, rfl⟩

theorem evaluateArgs_alike (hc : c.Lawful) {es es' : List Expr}
    (h : Expr.AllMatch P c.function es es') :
    Alike c.session (FaultsAlike c.cause P) (List.Forall₂ c.value) (Expr.evaluateArgs es)
      (Expr.evaluateArgs es') := by
  match h with
  | .nil => exact alike_pure .nil
  | .cons he hes =>
    rw [Expr.evaluateArgs, Expr.evaluateArgs]
    refine (evaluate_alike hc he).bind fun x y hxy => ?_
    refine (evaluateArgs_alike hc hes).bind fun vs ws hargs => ?_
    exact alike_pure (.cons hxy.value hargs)

theorem evaluateAll_alike (hc : c.Lawful) {es es' : List Expr}
    (h : Expr.AllMatch P c.function es es') {x y : Evaluation} (hxy : c.evaluation x y) :
    Alike c.session (FaultsAlike c.cause P) c.evaluation (Expr.evaluateAll x es)
      (Expr.evaluateAll y es') := by
  match h with
  | .nil => exact alike_pure hxy
  | .cons he hes =>
    rw [Expr.evaluateAll, Expr.evaluateAll]
    refine (evaluate_alike hc he).bind fun u v huv => evaluateAll_alike hc hes ?_
    rw [huv.isAssignment]
    split
    · exact hxy
    · exact huv

end

/-- A source runs alike in related sessions: what is wrong with it is wrong in both. -/
theorem run_alike (hc : c.Lawful) (hname : ∀ f, c.function f f) (source : String) :
    Alike c.session (FaultsAlike c.cause Eq) c.evaluation (Session.run source)
      (Session.run source) := by
  cases hparse : Expr.parse source with
  | ok e =>
    rw [Session.run_of_parse hparse]
    exact evaluate_alike hc (Expr.Matches.refl (fun _ => rfl) hname e)
  | error fault =>
    intro s t hst
    rw [Session.run_of_fault hparse, Session.run_of_fault hparse]
    exact ⟨⟨hc.cause_self _, rfl, rfl⟩, hst⟩

/-! ### Equal sessions -/

/-- Sessions that are the same up to their languages, which `L` relates, and the same values. -/
def same (L : Language → Language → Prop) : Coupling where
  session s t := s.toDesk = t.toDesk ∧ s.bindings = t.bindings ∧ L s.language t.language
  value := Eq
  cause := Eq
  function := Eq

theorem same_lawful (L : Language → Language → Prop) : (same L).Lawful where
  number h n := by rw [h]
  number_self _ := rfl
  text_self _ := rfl
  null_self := rfl
  cause_self _ := rfl
  lookup h id := by
    rw [h.2.1]
    cases Bindings.lookup? _ id with
    | none => exact .none
    | some v => exact .some rfl
  set h id _ _ hvalue := ⟨h.1, by rw [h.2.1, hvalue], h.2.2⟩
  concat h _ _ _ _ hl hr := by rw [h.1, hl, hr]; rfl
  find h := by rw [h]
  blame h := ⟨congrArg _ h, congrArg _ h, congrArg _ h⟩
  call h f _ hname vs _ hargs := by
    cases hname
    have hvalues : vs = _ := List.forall₂_eq_eq_eq ▸ hargs
    rw [h.1, hvalues]
    cases Builtin.call f _ _ with
    | error cause => rfl
    | ok result =>
      obtain ⟨returned, desk⟩ := result
      refine ⟨?_, rfl, h.2.1, h.2.2⟩
      cases returned with
      | silent => trivial
      | value v => rfl

theorem eq_of_same {s t : Session} (h : (same Eq).session s t) : s = t := by
  obtain ⟨hdesk, hbindings, hlanguage⟩ := h
  cases s
  cases t
  cases hdesk
  cases hbindings
  cases hlanguage
  rfl

theorem evaluation_eq_of_same {L : Language → Language → Prop} {x y : Evaluation}
    (h : (same L).evaluation x y) : x = y := by
  obtain ⟨hvalue, hassignment⟩ := h
  cases x
  cases y
  cases hvalue
  cases hassignment
  rfl

end Coupling

end Calculator
