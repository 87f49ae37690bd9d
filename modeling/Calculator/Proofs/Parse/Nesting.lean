import Calculator.Proofs.Parse.Accepts
import Calculator.Proofs.Token.Standing

/-!
# Spans nest as trees do

Every rule makes the span of its tree in its own way: from its first token to its last, from one
operand to the other, and not at all where parentheses leave no tree behind. What holds of all of
them is said of a tree in a source by `Expr.Nests`.

It is carried through the grammar by two bounds (`Spanned`): a tree starts no earlier than the
tokens it is read from, and stops before the tokens that are left. So what is read later stands
later, and the spans of neighbours cannot meet, whatever tokens between them are part of no span.
-/

namespace Calculator

namespace Expr

/-! ## Trees that nest -/

/-- What the token of a leaf is. -/
def leaf? : Expr → Option TokenKind
  | .number value _ => some (.number value)
  | .text value _ => some (.text value)
  | .name id _ => some (.identifier id)
  | _ => none

/-- The span stands in the source. It contains those of the children, which are disjoint and in
order. The text of a leaf is that of a token of the source, and by itself it is read as that token
and nothing else. -/
structure Nests (source : String) (e : Expr) : Prop where
  standing : e.span.StandsIn source
  contained : ∀ c ∈ e.children, e.span.start ≤ c.span.start ∧ c.span.stop ≤ e.span.stop
  ordered : e.children.Pairwise fun a b => a.span.stop ≤ b.span.start
  leaf : ∀ kind ∈ e.leaf?, ∃ t ∈ tokenize source, t.kind = kind ∧ t.span = e.span
    ∧ t.StandsIn source
    ∧ tokenize t.lexeme = [⟨kind, t.lexeme, ⟨0, t.lexeme.utf8ByteSize⟩⟩,
      ⟨.finish, "", .single t.lexeme.utf8ByteSize⟩]

/-- Of a tree that is no leaf the children account for all but the root. -/
theorem nests_of_children {source : String} {e : Expr} (hleaf : e.leaf? = none)
    (hstanding : e.span.StandsIn source)
    (hcontained : ∀ c ∈ e.children, e.span.start ≤ c.span.start ∧ c.span.stop ≤ e.span.stop)
    (hordered : e.children.Pairwise fun a b => a.span.stop ≤ b.span.start)
    (hnodes : ∀ x ∈ nodesAll e.children, x.Nests source) : ∀ x ∈ e.nodes, x.Nests source := by
  rw [nodes_eq]
  refine List.forall_mem_cons.2 ⟨⟨hstanding, hcontained, hordered, ?_⟩, hnodes⟩
  simp [hleaf]

theorem nests_of_child {source : String} {e x : Expr} (hleaf : x.leaf? = none)
    (hchildren : x.children = [e]) (hstanding : x.span.StandsIn source)
    (hcontained : x.span.start ≤ e.span.start ∧ e.span.stop ≤ x.span.stop)
    (hnodes : ∀ y ∈ e.nodes, y.Nests source) : ∀ y ∈ x.nodes, y.Nests source := by
  refine nests_of_children hleaf hstanding ?_ ?_ ?_
  · rw [hchildren]
    exact List.forall_mem_singleton.2 hcontained
  · rw [hchildren]
    exact List.pairwise_singleton _ _
  · simpa [hchildren, nodesAll] using hnodes

end Expr

/-! ## Trees that are read -/

/-- Every tree in `e` nests. It starts where the tokens `ts` do or later, and stops before those of
`rest`. -/
structure Spanned (source : String) (ts : List Token) (e : Expr) (rest : List Token) : Prop where
  first : ∀ lower, (∀ t ∈ ts, lower ≤ t.span.start) → lower ≤ e.span.start
  last : ∀ t ∈ rest, e.span.stop ≤ t.span.start
  nodes : ∀ x ∈ e.nodes, x.Nests source

/-- The same of several trees, which are in order. -/
structure AllSpanned (source : String) (ts : List Token) (es : List Expr) (rest : List Token) :
    Prop where
  first : ∀ lower, (∀ t ∈ ts, lower ≤ t.span.start) → ∀ e ∈ es, lower ≤ e.span.start
  last : ∀ t ∈ rest, ∀ e ∈ es, e.span.stop ≤ t.span.start
  ordered : es.Pairwise fun a b => a.span.stop ≤ b.span.start
  nodes : ∀ x ∈ Expr.nodesAll es, x.Nests source

section

variable {source : String} {ts us rest : List Token} {t : Token} {e : Expr}

theorem Spanned.standing (h : Spanned source ts e rest) : e.span.StandsIn source :=
  (h.nodes e e.self_mem_nodes).standing

/-- What is read later stands later. -/
theorem Spanned.before {e' : Expr} (h : Spanned source ts e (t :: us))
    (h' : Spanned source us e' rest) : e.span.stop ≤ e'.span.start :=
  h'.first _ fun u hu => h.last u (List.mem_cons_of_mem _ hu)

/-- More tokens may stand before a tree. -/
theorem Spanned.skip (h : Spanned source us e rest) (hsuffix : us <:+ ts) :
    Spanned source ts e rest :=
  ⟨fun lower hlower => h.first lower fun u hu => hlower u (hsuffix.subset hu), h.last, h.nodes⟩

/-- More tokens may stand behind a tree. -/
theorem Spanned.drop (h : Spanned source ts e us) (hsuffix : rest <:+ us) :
    Spanned source ts e rest :=
  ⟨h.first, fun u hu => h.last u (hsuffix.subset hu), h.nodes⟩

theorem AllSpanned.skip {es : List Expr} (h : AllSpanned source us es rest) (hsuffix : us <:+ ts) :
    AllSpanned source ts es rest :=
  ⟨fun lower hlower => h.first lower fun u hu => hlower u (hsuffix.subset hu), h.last, h.ordered,
    h.nodes⟩

/-! ### One token -/

theorem spanned_leaf {kind : TokenKind} (hts : t :: rest <:+ tokenize source) (ht : t.kind = kind)
    (hlast : kind.isLast = false) (hleaf : e.leaf? = some kind) (hspan : e.span = t.span)
    (hchildren : e.children = []) : Spanned source (t :: rest) e rest := by
  have hmem : t ∈ tokenize source := hts.subset List.mem_cons_self
  rw [← ht] at hlast
  have hfinish := TokenKind.ne_finish_of_isLast hlast
  have hnests : e.Nests source := by
    refine ⟨hspan ▸ Token.span_standsIn hmem hfinish, by simp [hchildren], by simp [hchildren], ?_⟩
    rw [hleaf]
    rintro kind' ⟨⟩
    refine ⟨t, hmem, ht, hspan.symm, Token.standsIn_of_mem hmem hfinish, ?_⟩
    rw [tokenize_lexeme hmem hlast, ht]
  refine ⟨fun lower hlower => ?_, fun u hu => ?_, ?_⟩
  · rw [hspan]
    exact hlower t List.mem_cons_self
  · rw [hspan]
    exact Token.stop_le_of_suffix hts u hu
  · rw [e.nodes_eq, hchildren]
    exact List.forall_mem_cons.2 ⟨hnests, List.forall_mem_nil _⟩

/-! ### A token and a tree -/

/-- A tree over another one that starts with a token before it. -/
theorem spanned_after {x : Expr} (hts : t :: us <:+ tokenize source) (hfinish : t.kind ≠ .finish)
    (hsuffix : ts <:+ us) (hrest : rest <:+ us) (h : Spanned source ts e rest)
    (hleaf : x.leaf? = none) (hspan : x.span = t.span.cover e.span) (hchildren : x.children = [e]) :
    Spanned source (t :: us) x rest := by
  have hstop := Token.stop_le_of_suffix hts
  have hstanding := (Token.span_standsIn (hts.subset List.mem_cons_self) hfinish).cover h.standing
  refine ⟨fun lower hlower => ?_, fun u hu => ?_, ?_⟩
  · rw [hspan]
    have hfirst := h.first lower fun u hu =>
      hlower u (List.mem_cons_of_mem _ (hsuffix.subset hu))
    exact Nat.le_min.2 ⟨hlower t List.mem_cons_self, hfirst⟩
  · rw [hspan]
    exact Nat.max_le.2 ⟨hstop u (hrest.subset hu), h.last u hu⟩
  · refine Expr.nests_of_child hleaf hchildren (hspan ▸ hstanding) ?_ h.nodes
    rw [hspan]
    exact ⟨Nat.min_le_right _ _, Nat.le_max_right _ _⟩

/-- A tree over another one that stops with a token behind it. -/
theorem spanned_before {x : Expr} (hts : t :: rest <:+ tokenize source) (hfinish : t.kind ≠ .finish)
    (h : Spanned source ts e (t :: rest)) (hleaf : x.leaf? = none)
    (hspan : x.span = e.span.cover t.span) (hchildren : x.children = [e])
    (hsuffix : t :: rest <:+ ts) : Spanned source ts x rest := by
  have hstop := Token.stop_le_of_suffix hts
  have hstanding := h.standing.cover (Token.span_standsIn (hts.subset List.mem_cons_self) hfinish)
  refine ⟨fun lower hlower => ?_, fun u hu => ?_, ?_⟩
  · rw [hspan]
    exact Nat.le_min.2 ⟨h.first lower hlower, hlower t (hsuffix.subset List.mem_cons_self)⟩
  · rw [hspan]
    exact Nat.max_le.2 ⟨h.last u (List.mem_cons_of_mem _ hu), hstop u hu⟩
  · refine Expr.nests_of_child hleaf hchildren (hspan ▸ hstanding) ?_ h.nodes
    rw [hspan]
    exact ⟨Nat.min_le_left _ _, Nat.le_max_left _ _⟩

/-! ### Several trees -/

theorem spanned_binary {op : BinaryOp} {left right : Expr} {sign : Token}
    (hleft : Spanned source ts left (sign :: us)) (hright : Spanned source us right rest)
    (hus : us <:+ ts) (hrest : rest <:+ us) :
    Spanned source ts (.binary op left right (left.span.cover right.span)) rest := by
  have hfar := hleft.drop (hrest.trans (List.suffix_cons sign us))
  refine ⟨fun lower hlower => ?_, fun u hu => ?_, ?_⟩
  · exact Nat.le_min.2 ⟨hleft.first lower hlower, (hright.skip hus).first lower hlower⟩
  · exact Nat.max_le.2 ⟨hfar.last u hu, hright.last u hu⟩
  · refine Expr.nests_of_children rfl (hleft.standing.cover hright.standing) ?_ ?_ ?_
    · refine List.forall_mem_cons.2 ⟨?_, List.forall_mem_singleton.2 ?_⟩
      · exact ⟨Nat.min_le_left _ _, Nat.le_max_left _ _⟩
      · exact ⟨Nat.min_le_right _ _, Nat.le_max_right _ _⟩
    · exact List.pairwise_pair.2 (hleft.before hright)
    · simp only [Expr.children, Expr.nodesAll, List.append_nil]
      exact List.forall_mem_append.2 ⟨hleft.nodes, hright.nodes⟩

theorem allSpanned_nil : AllSpanned source ts [] rest :=
  ⟨fun _ _ => List.forall_mem_nil _, fun _ _ => List.forall_mem_nil _, .nil, List.forall_mem_nil _⟩

theorem Spanned.single (h : Spanned source ts e rest) : AllSpanned source ts [e] rest :=
  ⟨fun lower hlower => List.forall_mem_singleton.2 (h.first lower hlower),
    fun u hu => List.forall_mem_singleton.2 (h.last u hu), List.pairwise_singleton _ _,
    by simpa [Expr.nodesAll] using h.nodes⟩

/-- A tree, a token and more trees. -/
theorem Spanned.cons {es : List Expr} (h : Spanned source ts e (t :: us))
    (h' : AllSpanned source us es rest) (hus : us <:+ ts) (hrest : rest <:+ us) :
    AllSpanned source ts (e :: es) rest where
  first lower hlower :=
    List.forall_mem_cons.2 ⟨h.first lower hlower, (h'.skip hus).first lower hlower⟩
  last u hu := by
    have hfar := h.drop (hrest.trans (List.suffix_cons t us))
    exact List.forall_mem_cons.2 ⟨hfar.last u hu, h'.last u hu⟩
  ordered := by
    refine List.pairwise_cons.2 ⟨h'.first _ fun u hu => ?_, h'.ordered⟩
    exact h.last u (List.mem_cons_of_mem _ hu)
  nodes := List.forall_mem_append.2 ⟨h.nodes, h'.nodes⟩

/-- The arguments of a call stand between the name of the function and the closing parenthesis. -/
theorem spanned_call {name : String} {args : List Expr} {closing : Token}
    (hts : t :: us <:+ tokenize source) (hfinish : t.kind ≠ .finish) (hsuffix : ts <:+ us)
    (hclosing : closing.kind ≠ .finish) (hrest : closing :: rest <:+ us)
    (h : AllSpanned source ts args (closing :: rest)) :
    Spanned source (t :: us) (.call name args (t.span.cover closing.span)) rest := by
  have hstop := Token.stop_le_of_suffix hts
  have hmem : closing ∈ us := hrest.subset List.mem_cons_self
  have hclosingSuffix : closing :: rest <:+ tokenize source :=
    (hrest.trans (List.suffix_cons t us)).trans hts
  have hname := Token.span_standsIn (hts.subset List.mem_cons_self) hfinish
  have hend := Token.span_standsIn (hclosingSuffix.subset List.mem_cons_self) hclosing
  refine ⟨fun lower hlower => ?_, fun u hu => ?_, ?_⟩
  · exact Nat.le_min.2 ⟨hlower t List.mem_cons_self, hlower closing (List.mem_cons_of_mem _ hmem)⟩
  · have hu' : u ∈ us := hrest.subset (List.mem_cons_of_mem _ hu)
    exact Nat.max_le.2 ⟨hstop u hu', Token.stop_le_of_suffix hclosingSuffix u hu⟩
  · refine Expr.nests_of_children rfl (hname.cover hend) (fun arg harg => ?_) h.ordered h.nodes
    have hfirst := h.first t.span.stop (fun u hu => hstop u (hsuffix.subset hu)) arg harg
    have hlast := h.last closing List.mem_cons_self arg harg
    have hopens : t.span.start < t.span.stop := hname.nonempty
    have hcloses : closing.span.start < closing.span.stop := hend.nonempty
    constructor
    · show min t.span.start closing.span.start ≤ arg.span.start
      omega
    · show arg.span.stop ≤ max t.span.stop closing.span.stop
      omega

end

/-! ## Derivations -/

namespace Grammar

open Calculator.Parser (Tier)

variable {source : String}

mutual

theorem Expression.spanned {n : Nat} {ts rest : List Token} {e : Expr} :
    Expression n ts e rest → ts <:+ tokenize source → Spanned source ts e rest
  | .assign htarget _ hvalue, hts => by
    have hts' := (List.suffix_cons _ _).trans ((List.suffix_cons _ _).trans hts)
    exact spanned_after hts (by simp [htarget]) (List.suffix_cons _ _)
      (suffix_of_tail hvalue.suffix) (hvalue.spanned hts') rfl rfl rfl
  | .sum h, hts => h.spanned hts

theorem Chain.spanned {tier : Tier} {k n : Nat} {ts rest : List Token} {e : Expr} :
    Chain tier k n ts e rest → ts <:+ tokenize source → Spanned source ts e rest
  | .first h, hts => h.spanned hts
  | .next hleft _ hright, hts => by
    have hus := (List.suffix_cons _ _).trans hleft.suffix
    exact spanned_binary (hleft.spanned hts) (hright.spanned (hus.trans hts)) hus hright.suffix

theorem Operand.spanned {tier : Tier} {n : Nat} {ts rest : List Token} {e : Expr} :
    Operand tier n ts e rest → ts <:+ tokenize source → Spanned source ts e rest
  | .product h, hts => h.spanned hts
  | .factor h, hts => h.spanned hts

theorem Factor.spanned {n : Nat} {ts rest : List Token} {e : Expr} :
    Factor n ts e rest → ts <:+ tokenize source → Spanned source ts e rest
  | .plain h, hts => h.spanned hts
  | .factorial h hbang, hts =>
    spanned_before (h.suffix.trans hts) (by simp [hbang]) (h.spanned hts) rfl rfl rfl h.suffix

theorem Power.spanned {n : Nat} {ts rest : List Token} {e : Expr} :
    Power n ts e rest → ts <:+ tokenize source → Spanned source ts e rest
  | .plain h, hts => h.spanned hts
  | .raised hbase _ hexponent, hts => by
    have hus := (List.suffix_cons _ _).trans hbase.suffix
    exact spanned_binary (hbase.spanned hts) (hexponent.spanned (hus.trans hts)) hus
      hexponent.suffix

theorem Atom.spanned {n : Nat} {ts rest : List Token} {e : Expr} :
    Atom n ts e rest → ts <:+ tokenize source → Spanned source ts e rest
  | .number h, hts => spanned_leaf hts h rfl rfl rfl rfl
  | .text h, hts => spanned_leaf hts h rfl rfl rfl rfl
  | .name h, hts => spanned_leaf hts h rfl rfl rfl rfl
  | .call hfunction _ hargs hclosing, hts => by
    have hts' := (List.suffix_cons _ _).trans ((List.suffix_cons _ _).trans hts)
    exact spanned_call hts (by simp [hfunction]) (List.suffix_cons _ _) (by simp [hclosing])
      (suffix_of_tail hargs.suffix) (hargs.spanned hts')
  | .group _ h _, hts => by
    -- parentheses belong to no span, and the bounds hold from outside all the more
    have hinner := h.spanned ((List.suffix_cons _ _).trans hts)
    exact (hinner.skip (List.suffix_cons _ _)).drop (List.suffix_cons _ _)
  | .negated hminus h, hts =>
    spanned_after hts (by simp [hminus]) List.suffix_rfl h.suffix
      (h.spanned ((List.suffix_cons _ _).trans hts)) rfl rfl rfl

theorem Arguments.spanned {n : Nat} {ts rest : List Token} {args : List Expr} :
    Arguments n ts args rest → ts <:+ tokenize source → AllSpanned source ts args rest
  | .none, _ => allSpanned_nil
  | .some h, hts => h.spanned hts

theorem Listed.spanned {n : Nat} {ts rest : List Token} {args : List Expr} :
    Listed n ts args rest → ts <:+ tokenize source → AllSpanned source ts args rest
  | .last h, hts => (h.spanned hts).single
  | .more h _ hrest, hts => by
    have hus := (List.suffix_cons _ _).trans h.suffix
    exact (h.spanned hts).cons (hrest.spanned (hus.trans hts)) hus hrest.suffix

end

theorem Series.spanned {n : Nat} {ts rest : List Token} {es : List Expr} (h : Series n ts es rest)
    (hts : ts <:+ tokenize source) : AllSpanned source ts es rest := by
  induction h with
  | last h => exact (h.spanned hts).single
  | more h _ hseparators hrest ih =>
    have hus := (List.suffix_cons _ _).trans h.suffix
    have hvs := hseparators.suffix
    have hlater := (ih (hvs.trans (hus.trans hts))).skip hvs
    exact (h.spanned hts).cons hlater hus (hrest.suffix.trans hvs)

theorem Program.spanned {n : Nat} {ts rest : List Token} {es : List Expr} (h : Program n ts es rest)
    (hts : ts <:+ tokenize source) : ∃ us, AllSpanned source ts es us := by
  cases h with
  | empty => exact ⟨[], allSpanned_nil⟩
  | @series _ _ us vs _ _ hbefore h _ =>
    exact ⟨vs, (h.spanned (hbefore.suffix.trans hts)).skip hbefore.suffix⟩

end Grammar

/-! ## Programs -/

namespace Expr

/-- The span of several statements contains each of them. -/
theorem contained_in_statements {source : String} {first : Expr} {rest : List Expr}
    (hordered : (first :: rest).Pairwise fun a b => a.span.stop ≤ b.span.start)
    (hstanding : ∀ e ∈ first :: rest, e.span.StandsIn source) :
    ∀ e ∈ first :: rest, (first.span.cover (rest.getLastD first).span).start ≤ e.span.start
      ∧ e.span.stop ≤ (first.span.cover (rest.getLastD first).span).stop := by
  intro e he
  have hfirst := (hstanding first List.mem_cons_self).nonempty
  constructor
  · refine Nat.le_trans (Nat.min_le_left _ _) ?_
    rcases List.mem_cons.1 he with rfl | hrest
    · exact Nat.le_refl _
    · exact Nat.le_trans (Nat.le_of_lt hfirst) ((List.pairwise_cons.1 hordered).1 e hrest)
  · -- the last statement, or one before it
    obtain ⟨init, last, hsplit⟩ := List.eq_nil_or_concat (first :: rest) |>.resolve_left (by simp)
    have hlast : rest.getLastD first = last := by
      have hgetLast := congrArg List.getLast? hsplit
      rw [List.getLast?_cons, List.concat_eq_append, List.getLast?_concat] at hgetLast
      simpa [List.getLastD_eq_getLast?] using hgetLast
    rw [hlast]
    refine Nat.le_trans ?_ (Nat.le_max_right _ _)
    rw [hsplit, List.concat_eq_append] at he hordered hstanding
    rcases List.mem_append.1 he with hinit | hmem
    · have hnext := (List.pairwise_append.1 hordered).2.2 e hinit last (List.mem_singleton_self _)
      have hnonempty := (hstanding last (by simp)).nonempty
      exact Nat.le_trans hnext (Nat.le_of_lt hnonempty)
    · rw [List.mem_singleton.1 hmem]

theorem nests_ofStatements {source : String} {ts rest es : List _}
    (h : AllSpanned source ts es rest) :
    ofStatements es = .sequence [] ⟨0, 0⟩ ∨ ∀ x ∈ (ofStatements es).nodes, x.Nests source := by
  have hstanding : ∀ e ∈ es, e.span.StandsIn source := fun e he =>
    (h.nodes e (mem_nodesAll.2 ⟨e, he, e.self_mem_nodes⟩)).standing
  match es with
  | [] => exact .inl rfl
  | [e] => exact .inr (by simpa [nodesAll, ofStatements] using h.nodes)
  | first :: second :: more =>
    right
    refine nests_of_children rfl ?_ (contained_in_statements h.ordered hstanding) h.ordered h.nodes
    exact (hstanding first List.mem_cons_self).cover (hstanding _ List.getLastD_mem_cons)

/-- **The spans of a tree nest.** Except for the empty program, every tree in the tree of a source
has a span that covers at least one character and starts and stops between characters of the source;
it contains the spans of its children, which are disjoint and in the order of the source; and the
text under a leaf is read as exactly the token that the leaf is. -/
theorem parse_spans_nest {source : String} {e : Expr} (h : parse source = .ok e) :
    e = .sequence [] ⟨0, 0⟩ ∨ ∀ x ∈ e.nodes, x.Nests source := by
  obtain ⟨n, es, finish, hderived, -, -, -, rfl⟩ := derivable_of_parse h
  obtain ⟨rest, hspanned⟩ := hderived.spanned List.suffix_rfl
  exact nests_ofStatements hspanned

/-- Parentheses, a comment and characters of two bytes stand between and in the nodes. -/
theorem parse_spans_nest_text :
    ∃ e, parse "max(((x)), \"ü\" /* ß */)!; 7" = .ok e
      ∧ e.nodes.map span = [⟨0, 29⟩, ⟨0, 26⟩, ⟨0, 25⟩, ⟨6, 7⟩, ⟨11, 15⟩, ⟨28, 29⟩]
      ∧ ∀ x ∈ e.nodes, x.Nests "max(((x)), \"ü\" /* ß */)!; 7" := by
  have hspans : (parse "max(((x)), \"ü\" /* ß */)!; 7").toOption.map (fun e => e.nodes.map span)
      = some [⟨0, 29⟩, ⟨0, 26⟩, ⟨0, 25⟩, ⟨6, 7⟩, ⟨11, 15⟩, ⟨28, 29⟩] := by decide +kernel
  cases hparse : parse "max(((x)), \"ü\" /* ß */)!; 7" with
  | error fault => rw [hparse] at hspans; cases hspans
  | ok e =>
    rw [hparse] at hspans
    have hnodes := Option.some.inj hspans
    refine ⟨e, rfl, hnodes, (parse_spans_nest hparse).resolve_left ?_⟩
    rintro rfl
    cases hnodes

end Expr

end Calculator
