import Calculator.Proofs.Builtin.Dispatch
import Calculator.Proofs.Decimal.Shortest
import Calculator.Proofs.Parse.Leaves
import Calculator.Proofs.Parse.Places
import Calculator.Proofs.Text.Quoted

/-!
# An outline tells the tree

A line of an outline is the heading of a node: a word for what the node is, and what else there is
to know about it apart from its place and the trees below it (`Expr.Heading`). The heading says how
many trees are below the node, so the lines are the nodes in preorder and no two lists of trees of
one length have the same lines. What is left is that a line tells its heading
(`Expr.Heading.eq_of_line_eq`): this needs that numbers and quoted texts are written in one way
each, that names have no blank in them, and that no line has a line break in it.

The last two hold of names that were read from a source, and so does that numbers are not NaN. Trees
of sources therefore have the same outline just when they are the same but for their places
(`Expr.dump_eq_iff`).
-/

namespace Calculator

/-! ## Marks that end a part -/

/-- A mark that stands in neither of two texts ends both at one place. -/
theorem append_mark_inj {α : Type} [DecidableEq α] {mark : α} {xs ys rest rest' : List α}
    (hx : mark ∉ xs) (hy : mark ∉ ys) (h : xs ++ mark :: rest = ys ++ mark :: rest') :
    xs = ys ∧ rest = rest' := by
  have htake {zs tail : List α} (hz : mark ∉ zs) :
      (zs ++ mark :: tail).takeWhile (· ≠ mark) = zs := by
    rw [List.takeWhile_append_of_pos fun c hc => decide_eq_true (ne_of_mem_of_not_mem hc hz)]
    simp
  have hxs : xs = ys := by rw [← htake hx, h, htake hy]
  subst hxs
  exact ⟨rfl, (List.cons.inj (List.append_cancel_left h)).2⟩

/-! ## Names -/

theorem Builtin.isWordChar_of_isName {name : String} (h : isName name = true) :
    ∀ c ∈ name.toList, Token.isWordChar c = true := by
  have hfunctions : ∀ f ∈ functions, f.name.toList.all Token.isWordChar = true := by decide +kernel
  have haliases : ∀ entry ∈ aliases, entry.1.toList.all Token.isWordChar = true := by decide +kernel
  have hstyles : ∀ style ∈ Style.all, style.name.toList.all Token.isWordChar = true := by
    decide +kernel
  rcases (find?_isSome_iff name).1 h with ⟨f, hf, rfl⟩ | ⟨entry, hentry, rfl⟩ | ⟨style, hstyle, rfl⟩
  · exact List.all_eq_true.1 (hfunctions f hf)
  · exact List.all_eq_true.1 (haliases entry hentry)
  · exact List.all_eq_true.1 (hstyles style hstyle)

theorem Token.IsWord.isWordChar {name : String} (h : IsWord name) :
    ∀ c ∈ name.toList, Token.isWordChar c = true := by
  obtain ⟨c, cs, hname, hc, hcs⟩ := h
  rw [hname, List.forall_mem_cons]
  refine ⟨?_, hcs⟩
  simp only [isWordStart, Token.isWordChar, Char.isAlphanum, Bool.or_eq_true] at hc ⊢
  exact hc.imp_left .inl

namespace Expr

/-! ## Headings -/

/-- What a node is, apart from its place and the trees below it. -/
inductive Heading where
  | number (value : Number)
  | text (value : String)
  | name (id : String)
  | binary (op : BinaryOp)
  | unary (op : UnaryOp)
  | call (function : String) (count : Nat)
  | assign (target : String)
  | sequence (count : Nat)

def heading : Expr → Heading
  | .number value _ => .number value
  | .text value _ => .text value
  | .name id _ => .name id
  | .binary op _ _ _ => .binary op
  | .unary op _ _ => .unary op
  | .call function args _ => .call function args.length
  | .assign target _ _ => .assign target
  | .sequence statements _ => .sequence statements.length

namespace Heading

/-- The first word of a line. -/
def keyword : Heading → String
  | .number _ => "Number"
  | .text _ => "String"
  | .name _ => "Variable"
  | .binary _ => "Binary"
  | .unary _ => "Unary"
  | .call .. => "Call"
  | .assign _ => "Assign"
  | .sequence _ => "Sequence"

/-- The rest of a line. -/
def detail : Heading → String
  | .number value => Decimal.shortest value
  | .text value => Text.quoted value
  | .name id => id
  | .binary op => op.symbol.toString
  | .unary op => op.symbol.toString
  | .call function count => function ++ " (" ++ count.repr ++ " args)"
  | .assign target => target
  | .sequence count => "(" ++ count.repr ++ " statements)"

/-- The line of a node, without its indentation. -/
def line (h : Heading) : String := h.keyword ++ " " ++ h.detail

/-- The number of trees below the node. -/
def arity : Heading → Nat
  | .number _ | .text _ | .name _ => 0
  | .unary _ | .assign _ => 1
  | .binary _ => 2
  | .call _ count | .sequence count => count

/-- What is written in the heading can stand in a source. -/
def Lexed : Heading → Prop
  | .number value => (TokenKind.number value).Lexed
  | .name id => (TokenKind.identifier id).Lexed
  | .call function _ => (TokenKind.function function).Lexed
  | .assign target => (TokenKind.identifier target).Lexed
  | .text _ | .binary _ | .unary _ | .sequence _ => True

end Heading

theorem length_children (e : Expr) : e.children.length = e.heading.arity := by
  cases e <;> rfl

theorem BuiltOf.heading {e : Expr} (h : e.BuiltOf TokenKind.Lexed) :
    e.heading.Lexed ∧ AllBuiltOf TokenKind.Lexed e.children := by
  cases e <;> simp_all [BuiltOf, AllBuiltOf, Expr.heading, children, Heading.Lexed]

/-- **The lines of a tree** are its heading and then the lines of the trees below it. -/
theorem outline_eq (depth : Nat) (e : Expr) :
    e.outline depth = outlineLine depth e.heading.line :: outlineAll (depth + 1) e.children := by
  cases e <;> simp [outline, outlineAll, heading, children, Heading.line, Heading.keyword,
    Heading.detail, toString, String.append_assoc]
  case sequence => congr 1

theorem allSameButSpans_cons {e e' : Expr} {es es' : List Expr}
    (h : AllSameButSpans (e :: es) (e' :: es')) : e.SameButSpans e' ∧ AllSameButSpans es es' := by
  cases h with
  | cons he hes => exact ⟨he, hes⟩

/-- Trees with one heading are the same if those below are. -/
theorem sameButSpans_of_heading {e e' : Expr} (hheading : e.heading = e'.heading)
    (hchildren : AllSameButSpans e.children e'.children) : e.SameButSpans e' := by
  cases e <;> cases e' <;> simp_all only [heading, children, reduceCtorEq, Heading.number.injEq,
    Heading.text.injEq, Heading.name.injEq, Heading.binary.injEq, Heading.unary.injEq,
    Heading.call.injEq, Heading.assign.injEq, Heading.sequence.injEq]
  case number.number => exact .number trivial
  case text.text => exact .text trivial
  case name.name => exact .name trivial
  case binary.binary =>
    obtain ⟨hleft, hrest⟩ := allSameButSpans_cons hchildren
    exact .binary hleft (allSameButSpans_cons hrest).1 trivial
  case unary.unary => exact .unary (allSameButSpans_cons hchildren).1 trivial
  case call.call => exact .call rfl hchildren trivial
  case assign.assign => exact .assign (allSameButSpans_cons hchildren).1 trivial
  case sequence.sequence => exact .sequence hchildren trivial

/-! ## Lines -/

namespace Heading

theorem toList_line (h : Heading) : h.line.toList = h.keyword.toList ++ ' ' :: h.detail.toList := by
  simp [line]

theorem blank_not_mem_keyword (h : Heading) : ' ' ∉ h.keyword.toList := by
  cases h <;> simp [keyword]

theorem toList_detail_call (function : String) (count : Nat) : (call function count).detail.toList
    = function.toList ++ ' ' :: '(' :: (Decimal.digits count ++ " args)".toList) := by
  simp [detail, Decimal.digits]

theorem toList_detail_sequence (count : Nat) :
    (sequence count).detail.toList = '(' :: (Decimal.digits count ++ " statements)".toList) := by
  simp [detail, Decimal.digits]

theorem digits_injective : Function.Injective Decimal.digits :=
  Function.LeftInverse.injective Decimal.digitsValue_digits

/-- Names from a source are on one line and have no blank in them. -/
theorem not_mem_name {name : String}
    (h : (TokenKind.identifier name).Lexed ∨ (TokenKind.function name).Lexed) {c : Char}
    (hc : Token.isWordChar c = false) : c ∉ name.toList := by
  intro hmem
  have hword : Token.isWordChar c = true := by
    rcases h with h | h
    · exact h.1.isWordChar c hmem
    · exact Builtin.isWordChar_of_isName h c hmem
  rw [hc] at hword
  cases hword

theorem newline_not_mem_digits (k : Nat) : '\n' ∉ Nat.toDigits 10 k :=
  Decimal.not_mem_digits (Decimal.isDigits_digits k) rfl

theorem newline_not_mem_line {h : Heading} (hh : h.Lexed) : '\n' ∉ h.line.toList := by
  have hkeyword : '\n' ∉ h.keyword.toList := by cases h <;> simp [keyword]
  have hdetail : '\n' ∉ h.detail.toList := by
    cases h with
    | number value => exact Decimal.newline_not_mem_shortest value
    | text value => exact Text.newline_not_mem_quoted value
    | name id => exact not_mem_name (.inl hh) rfl
    | binary op => cases op <;> simp [detail, BinaryOp.symbol]
    | unary op => cases op <;> simp [detail, UnaryOp.symbol]
    | call function count =>
      have hname : '\n' ∉ function.toList := not_mem_name (.inr hh) rfl
      simp [detail, hname, newline_not_mem_digits]
    | assign target => exact not_mem_name (.inl hh) rfl
    | sequence count => simp [detail, newline_not_mem_digits]
  rw [toList_line]
  simp [hkeyword, hdetail]

/-- **A line tells its heading.** -/
theorem eq_of_line_eq {h h' : Heading} (hh : h.Lexed) (hh' : h'.Lexed) (hline : h.line = h'.line) :
    h = h' := by
  have hparts := congrArg String.toList hline
  rw [toList_line, toList_line] at hparts
  obtain ⟨hkeyword, hdetail⟩ :=
    append_mark_inj h.blank_not_mem_keyword h'.blank_not_mem_keyword hparts
  have hdetail' := String.toList_injective hdetail
  cases h <;> cases h' <;> simp only [keyword, String.toList_inj, String.reduceEq] at hkeyword
  case number.number => rw [Decimal.shortest_injective hh hh' hdetail']
  case text.text => rw [Text.quoted_injective hdetail']
  case name.name => exact congrArg name hdetail'
  case binary.binary op op' => cases op <;> cases op' <;> simp_all [detail, BinaryOp.symbol]
  case unary.unary op op' => cases op <;> cases op' <;> simp_all [detail, UnaryOp.symbol]
  case call.call function count function' count' =>
    rw [toList_detail_call, toList_detail_call] at hdetail
    obtain ⟨hfunction, hcount⟩ :=
      append_mark_inj (not_mem_name (.inr hh) rfl) (not_mem_name (.inr hh') rfl) hdetail
    rw [List.cons_inj_right, List.append_cancel_right_eq] at hcount
    rw [String.toList_injective hfunction, digits_injective hcount]
  case assign.assign => exact congrArg assign hdetail'
  case sequence.sequence =>
    rw [toList_detail_sequence, toList_detail_sequence, List.cons_inj_right,
      List.append_cancel_right_eq] at hdetail
    rw [digits_injective hdetail]

end Heading

/-! ## Preorder -/

/-- Lines as text, each with its end. -/
def linesText (lines : List String) : List Char := lines.flatMap fun l => l.toList ++ ['\n']

theorem toList_dump (e : Expr) : e.dump.toList = linesText (e.outline 0) := by
  rw [dump, linesText]
  induction e.outline 0 with
  | nil => rfl
  | cons l ls ih => simp_all [String.join_cons]

theorem newline_not_mem_outlineLine {depth : Nat} {h : Heading} (hh : h.Lexed) :
    '\n' ∉ List.replicate (2 * depth) ' ' ++ h.line.toList := by
  simp [Heading.newline_not_mem_line hh]

theorem linesText_outline (depth : Nat) (e : Expr) (rest : List Char) :
    linesText (e.outline depth) ++ rest = (List.replicate (2 * depth) ' ' ++ e.heading.line.toList)
      ++ '\n' :: (linesText (outlineAll (depth + 1) e.children) ++ rest) := by
  simp [outline_eq, linesText, outlineLine]

mutual

/-- The text of a tree determines the tree and where its text ends. -/
theorem outline_cancel {e e' : Expr} (he : e.BuiltOf TokenKind.Lexed)
    (he' : e'.BuiltOf TokenKind.Lexed) {depth : Nat} {rest rest' : List Char}
    (h : linesText (e.outline depth) ++ rest = linesText (e'.outline depth) ++ rest') :
    e.SameButSpans e' ∧ rest = rest' := by
  rw [linesText_outline, linesText_outline] at h
  obtain ⟨hproper, hchildren⟩ := he.heading
  obtain ⟨hproper', hchildren'⟩ := he'.heading
  obtain ⟨hfirst, hbelow⟩ := append_mark_inj (newline_not_mem_outlineLine hproper)
    (newline_not_mem_outlineLine hproper') h
  have hheading := Heading.eq_of_line_eq hproper hproper'
    (String.toList_injective (List.append_cancel_left hfirst))
  have hlength : e.children.length = e'.children.length := by
    rw [length_children, length_children, hheading]
  obtain ⟨hsame, hrest⟩ := outlineAll_cancel hchildren hchildren' hlength hbelow
  exact ⟨sameButSpans_of_heading hheading hsame, hrest⟩
termination_by 2 * e.nodes.length
decreasing_by
  rw [nodes_eq e, List.length_cons]
  omega

theorem outlineAll_cancel {es es' : List Expr} (hes : AllBuiltOf TokenKind.Lexed es)
    (hes' : AllBuiltOf TokenKind.Lexed es') (hlength : es.length = es'.length) {depth : Nat}
    {rest rest' : List Char}
    (h : linesText (outlineAll depth es) ++ rest = linesText (outlineAll depth es') ++ rest') :
    AllSameButSpans es es' ∧ rest = rest' := by
  match es, es' with
  | [], [] => exact ⟨.nil, h⟩
  | e :: es, e' :: es' =>
    have happend (e : Expr) (es : List Expr) (rest : List Char) :
        linesText (outlineAll depth (e :: es)) ++ rest
          = linesText (e.outline depth) ++ (linesText (outlineAll depth es) ++ rest) := by
      simp [outlineAll, linesText]
    rw [happend, happend] at h
    obtain ⟨hsame, h⟩ := outline_cancel hes.1 hes'.1 h
    obtain ⟨hall, hrest⟩ := outlineAll_cancel hes.2 hes'.2 (Nat.succ.inj hlength) h
    exact ⟨.cons hsame hall, hrest⟩
termination_by 2 * (nodesAll es).length + 1
decreasing_by all_goals
  rw [nodesAll, List.length_append, nodes_eq e, List.length_cons]
  omega

end

mutual

theorem outline_of_sameButSpans {e e' : Expr} (h : e.SameButSpans e') (depth : Nat) :
    e.outline depth = e'.outline depth := by
  match h with
  | .number _ | .text _ | .name _ => rfl
  | .binary hleft hright _ =>
    rw [outline, outline, outline_of_sameButSpans hleft, outline_of_sameButSpans hright]
  | .unary hoperand _ => rw [outline, outline, outline_of_sameButSpans hoperand]
  | .call hname hargs _ =>
    rw [outline, outline, outlineAll_of_sameButSpans hargs, AllSameButSpans.length_eq hargs, hname]
  | .assign hvalue _ => rw [outline, outline, outline_of_sameButSpans hvalue]
  | .sequence hstatements _ =>
    rw [outline, outline, outlineAll_of_sameButSpans hstatements,
      AllSameButSpans.length_eq hstatements]

theorem outlineAll_of_sameButSpans {es es' : List Expr} (h : AllSameButSpans es es')
    (depth : Nat) : outlineAll depth es = outlineAll depth es' := by
  match h with
  | .nil => rfl
  | .cons he hes =>
    rw [outlineAll, outlineAll, outline_of_sameButSpans he, outlineAll_of_sameButSpans hes]

end

/-- **The outline of a source tells its tree**: two trees have one outline just when they are the
same but for their places. -/
theorem dump_eq_iff {source source' : String} {e e' : Expr} (h : parse source = .ok e)
    (h' : parse source' = .ok e') : e.dump = e'.dump ↔ e.SameButSpans e' := by
  constructor
  · intro hdump
    have hlexed : e.BuiltOf TokenKind.Lexed := builtOf_of_parse (fun _ => id) h
    have hlexed' : e'.BuiltOf TokenKind.Lexed := builtOf_of_parse (fun _ => id) h'
    have htext := congrArg String.toList hdump
    rw [toList_dump, toList_dump, ← List.append_nil (linesText (e.outline 0)),
      ← List.append_nil (linesText (e'.outline 0))] at htext
    exact (outline_cancel hlexed hlexed' htext).1
  · intro hsame
    rw [dump, dump, outline_of_sameButSpans hsame]

/-- A text that looks like the lines of an outline, and a number that is not exact. -/
theorem dump_eq_iff_spaced :
    ∃ e e', parse "x=0.1-(-2)!;max(x,\"1\\n  Number 2\")" = .ok e
      ∧ parse " x = 0.1 - ( - 2 )! \n max(x, \"1\\n  Number 2\") # greater" = .ok e'
      ∧ e.dump = e'.dump ∧ e.SameButSpans e' := by
  have hdump : (parse "x=0.1-(-2)!;max(x,\"1\\n  Number 2\")").toOption.map dump
      = (parse
          " x = 0.1 - ( - 2 )! \n max(x, \"1\\n  Number 2\") # greater").toOption.map dump := by
    decide +kernel
  have hok : (parse "x=0.1-(-2)!;max(x,\"1\\n  Number 2\")").isOk = true := by decide +kernel
  cases hparse : parse "x=0.1-(-2)!;max(x,\"1\\n  Number 2\")" with
  | error fault => rw [hparse] at hok; cases hok
  | ok e =>
    rw [hparse] at hdump
    cases hparse' : parse " x = 0.1 - ( - 2 )! \n max(x, \"1\\n  Number 2\") # greater" with
    | error fault => rw [hparse'] at hdump; cases hdump
    | ok e' =>
      rw [hparse'] at hdump
      have hsame : e.dump = e'.dump := Option.some.inj hdump
      exact ⟨e, e', rfl, rfl, hsame, (dump_eq_iff hparse hparse').1 hsame⟩

end Expr

end Calculator
