import Calculator.Builtin
import Calculator.Expr

/-!
# Trees

Views of a tree that statements are made about: the trees below its root (`children`) and all trees
in it (`nodes`), its statements, its height, whether each of its calls has as many arguments as the
function takes, and whether it is another tree but for places and the names of functions
(`Matches`).
-/

namespace Calculator.Expr

/-! ## Nodes -/

mutual

/-- The tree itself and all trees in it. -/
def nodes : Expr → List Expr
  | .number value span => [.number value span]
  | .text value span => [.text value span]
  | .name id span => [.name id span]
  | .binary op left right span => .binary op left right span :: (left.nodes ++ right.nodes)
  | .unary op operand span => .unary op operand span :: operand.nodes
  | .call function args span => .call function args span :: nodesAll args
  | .assign target value span => .assign target value span :: value.nodes
  | .sequence statements span => .sequence statements span :: nodesAll statements

/-- All trees in several trees. -/
def nodesAll : List Expr → List Expr
  | [] => []
  | e :: es => e.nodes ++ nodesAll es

end

theorem mem_nodesAll {x : Expr} {es : List Expr} : x ∈ nodesAll es ↔ ∃ e ∈ es, x ∈ e.nodes := by
  induction es with
  | nil => simp [nodesAll]
  | cons e es ih => simp [nodesAll, ih]

/-- The trees directly below the root, from the left. -/
def children : Expr → List Expr
  | .number .. | .text .. | .name .. => []
  | .binary _ left right _ => [left, right]
  | .unary _ operand _ => [operand]
  | .call _ args _ => args
  | .assign _ value _ => [value]
  | .sequence statements _ => statements

theorem nodes_eq (e : Expr) : e.nodes = e :: nodesAll e.children := by
  cases e <;> simp [nodes, nodesAll, children]

theorem self_mem_nodes (e : Expr) : e ∈ e.nodes := by
  rw [nodes_eq]
  exact List.mem_cons_self

/-! ## Statements -/

/-- The statements of a program's tree; a tree that is no sequence is its own only statement. -/
def statements : Expr → List Expr
  | .sequence statements _ => statements
  | e => [e]

/-! ## Height -/

mutual

/-- The nodes on the longest way down: one for a tree without subtrees. -/
def height : Expr → Nat
  | .number .. | .text .. | .name .. => 1
  | .binary _ left right _ => max left.height right.height + 1
  | .unary _ operand _ => operand.height + 1
  | .call _ args _ => heightAll args + 1
  | .assign _ value _ => value.height + 1
  | .sequence statements _ => heightAll statements + 1

/-- The height of the highest of several trees. -/
def heightAll : List Expr → Nat
  | [] => 0
  | e :: es => max e.height (heightAll es)

end

/-! ## Calls -/

/-- The function is in the table and takes `count` arguments. -/
def TakesArguments (function : String) (count : Nat) : Prop :=
  ∃ builtin, Builtin.find? function = some builtin ∧ builtin.arity.accepts count = true

/-- Each call in the tree has as many arguments as its function takes. -/
def CallsAccepted (e : Expr) : Prop :=
  ∀ function args span, .call function args span ∈ e.nodes → TakesArguments function args.length

/-- The root counts if it is a call, and the rest is up to the children. -/
theorem callsAccepted_iff (e : Expr) : e.CallsAccepted
    ↔ (∀ function args span, e = .call function args span → TakesArguments function args.length)
      ∧ ∀ c ∈ e.children, c.CallsAccepted := by
  simp only [CallsAccepted, nodes_eq e, List.mem_cons, mem_nodesAll]
  constructor
  · intro h
    refine ⟨fun f args s heq => h f args s (.inl heq.symm), fun c hc f args s hm => ?_⟩
    exact h f args s (.inr ⟨c, hc, hm⟩)
  · rintro ⟨hself, hchildren⟩ f args s (heq | ⟨c, hc, hm⟩)
    · exact hself f args s heq.symm
    · exact hchildren c hc f args s hm

@[simp]
theorem callsAccepted_number (value : Number) (span : Span) :
    (number value span).CallsAccepted := by
  simp [callsAccepted_iff (number value span), children]

@[simp]
theorem callsAccepted_text (value : String) (span : Span) : (text value span).CallsAccepted := by
  simp [callsAccepted_iff (text value span), children]

@[simp]
theorem callsAccepted_name (id : String) (span : Span) : (name id span).CallsAccepted := by
  simp [callsAccepted_iff (name id span), children]

@[simp]
theorem callsAccepted_binary (op : BinaryOp) (left right : Expr) (span : Span) :
    (binary op left right span).CallsAccepted ↔ left.CallsAccepted ∧ right.CallsAccepted := by
  simp [callsAccepted_iff (binary op left right span), children]

@[simp]
theorem callsAccepted_unary (op : UnaryOp) (operand : Expr) (span : Span) :
    (unary op operand span).CallsAccepted ↔ operand.CallsAccepted := by
  simp [callsAccepted_iff (unary op operand span), children]

@[simp]
theorem callsAccepted_assign (target : String) (value : Expr) (span : Span) :
    (assign target value span).CallsAccepted ↔ value.CallsAccepted := by
  simp [callsAccepted_iff (assign target value span), children]

@[simp]
theorem callsAccepted_call (function : String) (args : List Expr) (span : Span) :
    (call function args span).CallsAccepted
      ↔ TakesArguments function args.length ∧ ∀ e ∈ args, e.CallsAccepted := by
  simp [callsAccepted_iff (call function args span), children]

@[simp]
theorem callsAccepted_sequence (statements : List Expr) (span : Span) :
    (sequence statements span).CallsAccepted ↔ ∀ e ∈ statements, e.CallsAccepted := by
  simp [callsAccepted_iff (sequence statements span), children]

/-! ## Trees of one shape -/

mutual

/-- The trees are the same, except that `P` relates the spans and `N` the names of functions. -/
inductive Matches (P : Span → Span → Prop) (N : String → String → Prop) : Expr → Expr → Prop
  | number {value : Number} {a b : Span} (h : P a b) :
      Matches P N (.number value a) (.number value b)
  | text {value : String} {a b : Span} (h : P a b) : Matches P N (.text value a) (.text value b)
  | name {id : String} {a b : Span} (h : P a b) : Matches P N (.name id a) (.name id b)
  | binary {op : BinaryOp} {l l' r r' : Expr} {a b : Span} (hl : Matches P N l l')
      (hr : Matches P N r r') (h : P a b) : Matches P N (.binary op l r a) (.binary op l' r' b)
  | unary {op : UnaryOp} {e e' : Expr} {a b : Span} (he : Matches P N e e') (h : P a b) :
      Matches P N (.unary op e a) (.unary op e' b)
  | call {f g : String} {es es' : List Expr} {a b : Span} (hname : N f g)
      (hes : AllMatch P N es es') (h : P a b) : Matches P N (.call f es a) (.call g es' b)
  | assign {target : String} {e e' : Expr} {a b : Span} (he : Matches P N e e') (h : P a b) :
      Matches P N (.assign target e a) (.assign target e' b)
  | sequence {es es' : List Expr} {a b : Span} (hes : AllMatch P N es es') (h : P a b) :
      Matches P N (.sequence es a) (.sequence es' b)

inductive AllMatch (P : Span → Span → Prop) (N : String → String → Prop) :
    List Expr → List Expr → Prop
  | nil : AllMatch P N [] []
  | cons {e e' : Expr} {es es' : List Expr} (he : Matches P N e e') (hes : AllMatch P N es es') :
      AllMatch P N (e :: es) (e' :: es')

end

variable {P : Span → Span → Prop} {N : String → String → Prop}

mutual

theorem Matches.refl (hP : ∀ a, P a a) (hN : ∀ f, N f f) (e : Expr) : Matches P N e e := by
  match e with
  | .number .. => exact .number (hP _)
  | .text .. => exact .text (hP _)
  | .name .. => exact .name (hP _)
  | .binary _ l r _ => exact .binary (Matches.refl hP hN l) (Matches.refl hP hN r) (hP _)
  | .unary _ e _ => exact .unary (Matches.refl hP hN e) (hP _)
  | .call _ es _ => exact .call (hN _) (AllMatch.refl hP hN es) (hP _)
  | .assign _ e _ => exact .assign (Matches.refl hP hN e) (hP _)
  | .sequence es _ => exact .sequence (AllMatch.refl hP hN es) (hP _)

theorem AllMatch.refl (hP : ∀ a, P a a) (hN : ∀ f, N f f) (es : List Expr) :
    AllMatch P N es es := by
  match es with
  | [] => exact .nil
  | e :: es => exact .cons (Matches.refl hP hN e) (AllMatch.refl hP hN es)

end

theorem AllMatch.isEmpty_eq {es es' : List Expr} (h : AllMatch P N es es') :
    es.isEmpty = es'.isEmpty := by
  cases h <;> rfl

end Calculator.Expr
