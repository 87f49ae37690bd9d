import Calculator.Proofs.Parse.Leaves
import Calculator.Session

/-!
# What evaluation keeps

An invariant of sessions is kept by an action if it holds after the action, also after one that
failed (`Keeps`). The invariant here, `Session.Sound`, has two parameters: what holds of the values
of variables and what holds of their names. `Kept` says what these have to satisfy so that
evaluating a tree keeps the invariant (`Expr.evaluate_keeps`): each operation leads from good values
to good ones, and what the tree is built of is good.

A tree is evaluated by evaluating trees in it, each in the session that the ones before have left.
`Visits` says which trees in which sessions, and the invariant holds in all of them.
-/

namespace Calculator

/-! ## Actions -/

/-- The action keeps `I`, whether it succeeds or fails, and what it gives satisfies `Q`. -/
def Keeps {α : Type} (I : Session → Prop) (Q : α → Prop) (action : Action α) : Prop :=
  ∀ s, I s → match action s with
    | .ok a s' => Q a ∧ I s'
    | .error _ s' => I s'

section

variable {α β : Type} {I : Session → Prop} {Q : α → Prop} {R : β → Prop}

theorem keeps_pure {a : α} (ha : Q a) : Keeps I Q (pure a) := fun _ hs => ⟨ha, hs⟩

/-- What follows starts in a session that satisfies the invariant. -/
theorem Keeps.bind {action : Action α} {next : α → Action β} (h : Keeps I Q action)
    (hnext : ∀ a, Q a → Keeps I R (next a)) : Keeps I R (action >>= next) := by
  intro s hs
  have haction := h s hs
  show match EStateM.bind action next s with
    | .ok b s' => R b ∧ I s'
    | .error _ s' => I s'
  unfold EStateM.bind
  cases hrun : action s with
  | ok a s' =>
    rw [hrun] at haction
    exact hnext a haction.1 s' haction.2
  | error fault s' =>
    rw [hrun] at haction
    exact haction

/-- The two facts that hold after a success. -/
theorem Keeps.of_ok {action : Action α} (h : Keeps I Q action) {s s' : Session} {a : α} (hs : I s)
    (hrun : action s = .ok a s') : Q a ∧ I s' := by
  have := h s hs
  rw [hrun] at this
  exact this

theorem keeps_get : Keeps I I (get : Action Session) := fun _ hs => ⟨hs, hs⟩

theorem keeps_set {s : Session} (hs : I s) : Keeps I (fun _ => True) (set s : Action PUnit) :=
  fun _ _ => ⟨trivial, hs⟩

/-- A change that preserves the invariant. -/
theorem keeps_modify {f : Session → Session} (hf : ∀ s, I s → I (f s)) :
    Keeps I (fun _ => True) (modify f : Action PUnit) :=
  fun s hs => ⟨trivial, hf s hs⟩

theorem keeps_failAt (span : Span) (cause : Cause) : Keeps I Q (failAt span cause) :=
  fun _ hs => hs

/-- A failure changes nothing; a value has to be good. -/
theorem keeps_orFailAt {span : Span} {r : Except Cause α} (h : ∀ a, r = .ok a → Q a) :
    Keeps I Q (orFailAt span r) := by
  cases r with
  | ok a => exact keeps_pure (h a rfl)
  | error cause => exact keeps_failAt span cause

end

section

variable {α β : Type} {action : Action α} {next : α → Action β} {s s' : Session}

theorem bind_of_ok {a : α} (h : action s = .ok a s') : (action >>= next) s = next a s' := by
  show EStateM.bind action next s = next a s'
  rw [EStateM.bind, h]

/-- A fault ends an action where it is. -/
theorem bind_of_error {fault : Fault} (h : action s = .error fault s') :
    (action >>= next) s = .error fault s' := by
  show EStateM.bind action next s = .error fault s'
  rw [EStateM.bind, h]

end

/-- What an action gave, and the session that it left. -/
def done? {α : Type} : EStateM.Result Fault Session α → Option (α × Session)
  | .ok a s => some (a, s)
  | .error .. => none

/-- A success is decided by what it gave and left. -/
theorem eq_ok_of_done? {α : Type} {result : EStateM.Result Fault Session α} {a : α} {s : Session}
    (h : done? result = some (a, s)) : result = .ok a s := by
  cases result with
  | ok b t => cases h; rfl
  | error f t => cases h

/-- The fault that an action came to, and the session that it left. -/
def fault? {α : Type} : EStateM.Result Fault Session α → Option (Fault × Session)
  | .ok .. => none
  | .error fault s => some (fault, s)

/-- So is a failure. -/
theorem eq_error_of_fault? {α : Type} {result : EStateM.Result Fault Session α} {fault : Fault}
    {s : Session} (h : fault? result = some (fault, s)) : result = .error fault s := by
  cases result with
  | ok a t => cases h
  | error f t => cases h; rfl

/-! ## Bindings -/

namespace Bindings

/-- Setting a name adds its entry and no other. -/
theorem mem_setIn {name : String} {value : Value} {entries : List Variable} {x : Variable}
    (h : x ∈ setIn name value entries) : x ∈ entries ∨ x = { name, value } := by
  induction entries with
  | nil => exact .inr (List.mem_singleton.1 h)
  | cons entry rest ih =>
    rw [setIn] at h
    by_cases hname : entry.name = name
    · rw [if_pos hname] at h
      rcases List.mem_cons.1 h with rfl | hrest
      · exact .inr (by rw [hname])
      · exact .inl (List.mem_cons_of_mem _ hrest)
    · rw [if_neg hname] at h
      rcases List.mem_cons.1 h with rfl | hrest
      · exact .inl List.mem_cons_self
      · rcases ih hrest with hold | hnew
        · exact .inl (List.mem_cons_of_mem _ hold)
        · exact .inr hnew

/-- Setting a name adds no second entry for it. -/
theorem nodup_setIn {name : String} {value : Value} {entries : List Variable}
    (h : (entries.map Variable.name).Nodup) :
    ((setIn name value entries).map Variable.name).Nodup := by
  induction entries with
  | nil => simp [setIn]
  | cons entry rest ih =>
    rw [List.map_cons, List.nodup_cons] at h
    rw [setIn]
    by_cases hname : entry.name = name
    · rw [if_pos hname, List.map_cons, List.nodup_cons]
      exact h
    · rw [if_neg hname, List.map_cons, List.nodup_cons]
      refine ⟨fun hmem => ?_, ih h.2⟩
      obtain ⟨x, hx, hxname⟩ := List.mem_map.1 hmem
      rcases mem_setIn hx with hold | rfl
      · exact h.1 (List.mem_map.2 ⟨x, hold, hxname⟩)
      · exact hname hxname.symm

/-- A value that is found is that of an entry. -/
theorem mem_of_lookupIn {name : String} {value : Value} {entries : List Variable}
    (h : lookupIn name entries = some value) : ∃ x ∈ entries, x.value = value := by
  induction entries with
  | nil => cases h
  | cons entry rest ih =>
    rw [lookupIn] at h
    split at h
    · exact ⟨entry, List.mem_cons_self, Option.some.inj h⟩
    · obtain ⟨x, hx, hvalue⟩ := ih h
      exact ⟨x, List.mem_cons_of_mem _ hx, hvalue⟩

end Bindings

/-! ## Sound sessions -/

/-- The decimal places are within their bound, every name has one variable with a value, and `V`
holds of the values and `N` of the names. -/
structure Session.Sound (V : Value → Prop) (N : String → Prop) (s : Session) : Prop where
  places : s.places ≤ maxPlaces
  distinct : (s.bindings.entries.map Variable.name).Nodup
  entries : ∀ x ∈ s.bindings.entries, x.initialized = true ∧ N x.name ∧ V x.value

/-- What values, names and the tokens of a tree have to satisfy for evaluation to keep a session
sound. -/
structure Kept (P : TokenKind → Prop) (V : Value → Prop) (N : String → Prop) : Prop where
  lexed {kind : TokenKind} (h : kind.Lexed) : P kind
  name {id : String} (h : P (.identifier id)) : N id
  number {n : Number} (h : P (.number n)) : V (.number n)
  text (s : String) : V (.ofText s)
  null : V .null
  binary {op : BinaryOp} {places : Nat} {l r v : Value} (h : op.onValues places l r = .ok v)
    (hl : V l) (hr : V r) : V v
  unary {op : UnaryOp} {v w : Value} (h : op.onValue v = .ok w) (hv : V v) : V w
  defined {n : Number} (h : n.isNaN = false) : V (.number n)

namespace Session.Sound

variable {V : Value → Prop} {N : String → Prop} {s : Session}

theorem start : Sound V N {} where
  places := by decide
  distinct := List.nodup_nil
  entries := List.forall_mem_nil _

/-- Setting a good name to a good value keeps a session sound. -/
theorem set (h : s.Sound V N) {name : String} {value : Value} (hname : N name) (hvalue : V value) :
    Sound V N { s with bindings := s.bindings.set name value } where
  places := h.places
  distinct := Bindings.nodup_setIn h.distinct
  entries := by
    intro x hx
    rcases Bindings.mem_setIn hx with hold | rfl
    · exact h.entries x hold
    · exact ⟨rfl, hname, hvalue⟩

/-- What a sound session has for a name is good. -/
theorem lookup (h : s.Sound V N) {name : String} {value : Value}
    (hvalue : s.bindings.lookup? name = some value) : V value := by
  obtain ⟨x, hx, rfl⟩ := Bindings.mem_of_lookupIn hvalue
  exact (h.entries x hx).2.2

theorem withDesk (h : s.Sound V N) {desk : Desk} (hdesk : desk.places ≤ maxPlaces) :
    Sound V N { s with toDesk := desk } :=
  ⟨hdesk, h.distinct, h.entries⟩

theorem mapConsole (h : s.Sound V N) (f : Console → Console) : (s.mapConsole f).Sound V N :=
  ⟨h.places, h.distinct, h.entries⟩

end Session.Sound

/-! ## Calls -/

/-- Places that a call sets are within their bound. -/
theorem placesOf?_le {n : Number} {places : Nat} (h : placesOf? n = some places) :
    places ≤ maxPlaces := by
  obtain ⟨hrange, hplaces⟩ := Option.ite_none_right_eq_some.1 h
  rw [← Option.some.inj hplaces]
  simp only [Bool.and_eq_true, decide_eq_true_eq] at hrange
  omega

/-- What a call can come to: the places stay within their bound, and a value is a number or a text
that was cut. -/
theorem Task.perform_cases {task : Task} {name : String} {args : List Value} {desk desk' : Desk}
    {returned : Returned} (h : task.perform name args desk = .ok (returned, desk')) :
    (desk.places ≤ maxPlaces → desk'.places ≤ maxPlaces)
      ∧ (returned = .silent ∨ (∃ n, returned = .value (.number n))
        ∨ ∃ s, returned = .value (.ofText s)) := by
  unfold Task.perform at h
  split at h
  -- a formula gives a number, which the caller has still to check
  case h_1 =>
    split at h
    · cases h
      exact ⟨id, .inr (.inl ⟨_, rfl⟩)⟩
    · cases h
  -- only here do the places change
  case h_2 =>
    split at h
    case h_1 hplaces =>
      cases h
      exact ⟨fun _ => placesOf?_le hplaces, .inl rfl⟩
    case h_2 => cases h
  -- printing and clearing give no value, and the layouts give texts
  case h_4 => cases h; exact ⟨id, .inl rfl⟩
  case h_5 => cases h; exact ⟨id, .inl rfl⟩
  case h_6 => cases h; exact ⟨id, .inr (.inr ⟨_, rfl⟩)⟩
  case h_8 => cases h; exact ⟨id, .inr (.inr ⟨_, rfl⟩)⟩
  case h_11 => cases h; exact ⟨id, .inr (.inr ⟨_, rfl⟩)⟩
  all_goals cases h

theorem Builtin.mem_aliases_of_lookup {name target : String}
    (h : aliases.lookup name = some target) : (name, target) ∈ aliases := by
  obtain ⟨before, after, hsplit, -⟩ := List.lookup_eq_some_iff.1 h
  simp [hsplit]

/-- An entry is a function under its own name, one that the name is an alias of, or a style. -/
theorem Builtin.find?_cases {name : String} {builtin : Builtin} (h : find? name = some builtin) :
    (builtin ∈ functions ∧ builtin.name = name)
    ∨ (∃ f ∈ functions, (name, f.name) ∈ aliases
      ∧ builtin = { f with name, aliasOf := some f.name })
    ∨ ∃ style, Style.find? name = some style ∧ builtin = ofStyle style := by
  simp only [find?, Option.orElse_eq_orElse, Option.orElse_eq_or] at h
  rcases Option.or_eq_some_iff.1 h with hfunction | ⟨-, h⟩
  · exact .inl ⟨List.mem_of_find?_eq_some hfunction, by simpa using List.find?_some hfunction⟩
  rcases Option.or_eq_some_iff.1 h with halias | ⟨-, hstyle⟩
  · obtain ⟨target, htarget, halias⟩ := Option.bind_eq_some_iff.1 halias
    obtain ⟨f, hf, halias⟩ := Option.bind_eq_some_iff.1 halias
    have hname : f.name = target := by simpa using List.find?_some hf
    cases halias
    refine .inr (.inl ⟨f, List.mem_of_find?_eq_some hf, ?_, rfl⟩)
    rw [hname]
    exact mem_aliases_of_lookup htarget
  · obtain ⟨style, hfind, rfl⟩ := Option.map_eq_some_iff.1 hstyle
    exact .inr (.inr ⟨style, hfind, rfl⟩)

/-- A name of the table is called with a number of arguments that the function takes, or the call
fails for their number. -/
theorem Builtin.call_of_find? {name : String} {builtin : Builtin} (h : find? name = some builtin)
    (args : List Value) (desk : Desk) :
    Builtin.call name args desk
      = if builtin.arity.accepts args.length then builtin.task.perform name args desk
        else .error (.wrongArgumentCount name builtin.arity) := by
  unfold Builtin.call
  rw [h]
  by_cases haccepts : builtin.arity.accepts args.length = true
  · simp only [Arity.check, if_pos haccepts]
    rfl
  · simp only [Arity.check, if_neg haccepts]
    rfl

/-- A call that succeeds found its function, and what it gives is what the task of that gives. -/
theorem Builtin.call_eq_ok {name : String} {args : List Value} {desk : Desk}
    {result : Returned × Desk} (h : Builtin.call name args desk = .ok result) :
    ∃ builtin, find? name = some builtin
      ∧ builtin.task.perform name args desk = .ok result := by
  cases hfind : find? name with
  | none =>
    unfold Builtin.call at h
    rw [hfind] at h
    cases h
  | some builtin =>
    rw [call_of_find? hfind] at h
    split at h
    · exact ⟨builtin, rfl, h⟩
    · cases h

section

variable {P : TokenKind → Prop} {V : Value → Prop} {N : String → Prop}

/-- A call keeps a session sound, since each task does. -/
theorem Kept.callAt (k : Kept P V N) (span : Span) (name : String) (args : List Value) :
    Keeps (Session.Sound V N) (fun evaluation => V evaluation.value) (callAt span name args) := by
  refine keeps_get.bind fun s hs => ?_
  refine Keeps.bind (Q := fun result => Builtin.call name args s.toDesk = .ok result)
    (keeps_orFailAt fun _ h => h) fun result hcall => ?_
  obtain ⟨returned, desk⟩ := result
  obtain ⟨builtin, -, hperform⟩ := Builtin.call_eq_ok hcall
  obtain ⟨hplaces, hreturned⟩ := Task.perform_cases hperform
  refine (keeps_set (hs.withDesk (hplaces hs.places))).bind fun _ _ => ?_
  rcases hreturned with rfl | ⟨n, rfl⟩ | ⟨text, rfl⟩
  · exact keeps_pure k.null
  · by_cases hnan : n.isNaN = true
    · simp only [if_pos hnan]
      exact keeps_failAt _ _
    · simp only [if_neg hnan]
      exact keeps_pure (k.defined (Bool.eq_false_iff.2 hnan))
  · exact keeps_pure (k.text text)

/-! ## Evaluation -/

mutual

/-- **Evaluating a tree keeps a session sound.** -/
theorem Expr.evaluate_keeps (k : Kept P V N) (e : Expr) (h : e.BuiltOf P) :
    Keeps (Session.Sound V N) (fun evaluation => V evaluation.value) e.evaluate := by
  match e with
  | .number n _ => exact keeps_pure (k.number h)
  | .text s _ => exact keeps_pure (k.text s)
  | .name id span =>
    rw [Expr.evaluate]
    refine keeps_get.bind fun s hs => ?_
    cases hlookup : s.bindings.lookup? id with
    | none => exact keeps_failAt _ _
    | some value => exact keeps_pure (hs.lookup hlookup)
  | .assign target value _ =>
    rw [Expr.evaluate]
    refine (value.evaluate_keeps k h.2).bind fun evaluation hvalue => ?_
    refine (keeps_modify fun s hs => hs.set (k.name h.1) hvalue).bind fun _ _ => ?_
    exact keeps_pure hvalue
  | .binary op left right span =>
    rw [Expr.evaluate]
    refine (left.evaluate_keeps k h.1).bind fun l hl => ?_
    refine (right.evaluate_keeps k h.2).bind fun r hr => ?_
    refine keeps_get.bind fun s _ => ?_
    refine (keeps_orFailAt fun v hv => k.binary hv hl hr).bind fun v hv => ?_
    exact keeps_pure hv
  | .unary op operand span =>
    rw [Expr.evaluate]
    refine (operand.evaluate_keeps k h).bind fun v hv => ?_
    refine (keeps_orFailAt fun w hw => k.unary hw hv).bind fun w hw => ?_
    exact keeps_pure hw
  | .call function args span =>
    rw [Expr.evaluate]
    cases Builtin.find? function with
    | none => exact keeps_failAt _ _
    | some builtin =>
      dsimp only
      split
      · exact keeps_failAt _ _
      · exact (Expr.evaluateArgs_keeps k args h.2).bind fun values _ =>
          k.callAt span function values
  | .sequence statements _ => exact Expr.evaluateAll_keeps k statements h .silent k.null

theorem Expr.evaluateArgs_keeps (k : Kept P V N) (es : List Expr) (h : AllBuiltOf P es) :
    Keeps (Session.Sound V N) (fun _ => True) (evaluateArgs es) := by
  match es with
  | [] => exact keeps_pure trivial
  | e :: es =>
    rw [Expr.evaluateArgs]
    refine (e.evaluate_keeps k h.1).bind fun _ _ => ?_
    refine (Expr.evaluateArgs_keeps k es h.2).bind fun _ _ => ?_
    exact keeps_pure trivial

theorem Expr.evaluateAll_keeps (k : Kept P V N) (es : List Expr) (h : AllBuiltOf P es)
    (result : Evaluation) (hresult : V result.value) :
    Keeps (Session.Sound V N) (fun evaluation => V evaluation.value) (evaluateAll result es) := by
  match es with
  | [] => exact keeps_pure hresult
  | e :: es =>
    rw [Expr.evaluateAll]
    refine (e.evaluate_keeps k h.1).bind fun evaluation hevaluation => ?_
    refine Expr.evaluateAll_keeps k es h.2 _ ?_
    split
    · exact hresult
    · exact hevaluation

end

/-! ## Sources -/

/-- A source that is accepted is run by evaluating its tree. -/
theorem Session.run_of_parse {source : String} {e : Expr} (h : Expr.parse source = .ok e) :
    Session.run source = e.evaluate := by
  rw [Session.run, parseAction, h]
  rfl

/-- A source that is not accepted leaves the session as it is. -/
theorem Session.run_of_fault {source : String} {fault : Fault}
    (h : Expr.parse source = .error fault) (s : Session) :
    Session.run source s = .error fault s := by
  rw [Session.run, parseAction, h]
  rfl

/-! ## The trees that are evaluated -/

mutual

/-- Evaluating the first tree in the first session comes to evaluating the second tree in the second
session. -/
inductive Visits : Expr → Session → Expr → Session → Prop
  | self {e : Expr} {s : Session} : Visits e s e s
  | assigned {target : String} {value x : Expr} {span : Span} {s t : Session}
      (h : Visits value s x t) : Visits (.assign target value span) s x t
  | left {op : BinaryOp} {l r x : Expr} {span : Span} {s t : Session} (h : Visits l s x t) :
      Visits (.binary op l r span) s x t
  | right {op : BinaryOp} {l r x : Expr} {span : Span} {s s' t : Session} {evaluation : Evaluation}
      (hleft : l.evaluate s = .ok evaluation s') (h : Visits r s' x t) :
      Visits (.binary op l r span) s x t
  | operand {op : UnaryOp} {e x : Expr} {span : Span} {s t : Session} (h : Visits e s x t) :
      Visits (.unary op e span) s x t
  | argument {function : String} {args : List Expr} {x : Expr} {span : Span} {s t : Session}
      (hknown : Builtin.isName function = true) (h : VisitsSome args s x t) :
      Visits (.call function args span) s x t
  | statement {statements : List Expr} {x : Expr} {span : Span} {s t : Session}
      (h : VisitsSome statements s x t) : Visits (.sequence statements span) s x t

/-- Trees are evaluated from the left, up to the first that fails. -/
inductive VisitsSome : List Expr → Session → Expr → Session → Prop
  | first {e x : Expr} {es : List Expr} {s t : Session} (h : Visits e s x t) :
      VisitsSome (e :: es) s x t
  | later {e x : Expr} {es : List Expr} {s s' t : Session} {evaluation : Evaluation}
      (hfirst : e.evaluate s = .ok evaluation s') (h : VisitsSome es s' x t) :
      VisitsSome (e :: es) s x t

end

mutual

theorem Visits.sound (k : Kept P V N) {e x : Expr} {s t : Session} :
    Visits e s x t → e.BuiltOf P → s.Sound V N → x.BuiltOf P ∧ t.Sound V N
  | .self, he, hs => ⟨he, hs⟩
  | .assigned h, he, hs => h.sound k he.2 hs
  | .left h, he, hs => h.sound k he.1 hs
  | .right hleft h, he, hs => h.sound k he.2 ((Expr.evaluate_keeps k _ he.1).of_ok hs hleft).2
  | .operand h, he, hs => h.sound k he hs
  | .argument _ h, he, hs => h.sound k he.2 hs
  | .statement h, he, hs => h.sound k he hs

theorem VisitsSome.sound (k : Kept P V N) {es : List Expr} {x : Expr} {s t : Session} :
    VisitsSome es s x t → Expr.AllBuiltOf P es → s.Sound V N → x.BuiltOf P ∧ t.Sound V N
  | .first h, hes, hs => h.sound k hes.1 hs
  | .later hfirst h, hes, hs =>
    h.sound k hes.2 ((Expr.evaluate_keeps k _ hes.1).of_ok hs hfirst).2

end

/-- Every tree that is evaluated on the way has a good value. -/
theorem Visits.value (k : Kept P V N) {e x : Expr} {s t t' : Session} {evaluation : Evaluation}
    (h : Visits e s x t) (he : e.BuiltOf P) (hs : s.Sound V N)
    (hrun : x.evaluate t = .ok evaluation t') : V evaluation.value := by
  obtain ⟨hx, ht⟩ := h.sound k he hs
  exact ((Expr.evaluate_keeps k x hx).of_ok ht hrun).1

end

end Calculator
