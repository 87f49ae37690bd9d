import Calculator.Proofs.Parse.Height
import Calculator.Proofs.Token.Join

/-!
# The tree of a program behind another

A derivation reads a first part of the tokens and looks at no others: it stays one when what follows
is replaced, and when the tokens that it reads stand elsewhere (`Grammar.Moves`). So two programs
with a separator between them are a program (`Grammar.Program.append`), and it uses no more levels
than they do.

With the tokens of two sources and a newline between them, this gives the tree of the whole: it has
the statements of the first source, and then those of the second, further on (`Expr.parse_join`).
-/

namespace Calculator.Grammar

open Calculator.Parser (Tier)

/-! ## Moving a derivation -/

section

variable {α β γ : Type} {X : List Token → α → List Token → Prop}
  {Y : List Token → β → List Token → Prop} {Z : List Token → γ → List Token → Prop}
  {f : Nat → α → α} {g : Nat → β → β} {s : Nat → γ → γ} {ts us rest : List Token}
  {a : α} {b : β} {c : γ}

/-- What `X` reads may be shifted, with what it gives, and what is left may be replaced. -/
def Moves (X : List Token → α → List Token → Prop) (f : Nat → α → α) (ts : List Token) (a : α)
    (rest : List Token) : Prop :=
  ∃ read, ts = read ++ rest ∧ ∀ k rest', X (read.map (Token.shift k) ++ rest') (f k a) rest'

theorem Moves.map (h : Moves X f ts a rest)
    (hmap : ∀ k ts' rest', X ts' (f k a) rest' → Z ts' (s k c) rest') : Moves Z s ts c rest := by
  obtain ⟨read, hread, hX⟩ := h
  exact ⟨read, hread, fun k rest' => hmap k _ rest' (hX k rest')⟩

/-- Two parts, with tokens between them. -/
theorem Moves.join (between : List Token) (h : Moves X f ts a (between ++ us))
    (h' : Moves Y g us b rest)
    (hjoin : ∀ k ts' us' rest', X ts' (f k a) (between.map (Token.shift k) ++ us') →
      Y us' (g k b) rest' → Z ts' (s k c) rest') : Moves Z s ts c rest := by
  obtain ⟨read, rfl, hX⟩ := h
  obtain ⟨read', rfl, hY⟩ := h'
  refine ⟨read ++ (between ++ read'), by simp, fun k rest' => hjoin k _ _ rest' ?_ (hY k rest')⟩
  rw [List.map_append, List.map_append, List.append_assoc, List.append_assoc]
  exact hX k _

/-- A part between tokens. -/
theorem Moves.within (before after : List Token) (h : Moves X f ts a (after ++ rest))
    (hwithin : ∀ k ts' rest', X ts' (f k a) (after.map (Token.shift k) ++ rest') →
      Z (before.map (Token.shift k) ++ ts') (s k c) rest') : Moves Z s (before ++ ts) c rest := by
  obtain ⟨read, rfl, hX⟩ := h
  refine ⟨before ++ (read ++ after), by simp, fun k rest' => ?_⟩
  rw [List.map_append, List.map_append, List.append_assoc, List.append_assoc]
  exact hwithin k _ rest' (hX k _)

end

mutual

theorem Expression.moves {n : Nat} {ts rest : List Token} {e : Expr} :
    Expression n ts e rest → Moves (Expression n) Expr.shift ts e rest
  | @Expression.assign _ target equal _ _ _ _ htarget hequal hvalue =>
    Moves.within [target, equal] [] hvalue.moves fun k _ _ h => by
      rw [Expr.shift, Span.shift_cover, ← Expr.span_shift]
      exact .assign htarget hequal h
  | .sum h => h.moves.map fun _ _ _ => .sum

theorem Chain.moves {tier : Tier} {c n : Nat} {ts rest : List Token} {e : Expr} :
    Chain tier c n ts e rest → Moves (Chain tier c n) Expr.shift ts e rest
  | .first h => h.moves.map fun _ _ _ => .first
  | @Chain.next _ _ _ _ _ _ _ _ _ sign _ hleft hsign hright =>
    Moves.join [sign] hleft.moves hright.moves fun k _ _ _ hl hr => by
      rw [Expr.shift, Span.shift_cover, ← Expr.span_shift, ← Expr.span_shift]
      exact .next hl hsign hr

theorem Operand.moves {tier : Tier} {n : Nat} {ts rest : List Token} {e : Expr} :
    Operand tier n ts e rest → Moves (Operand tier n) Expr.shift ts e rest
  | .product h => h.moves.map fun _ _ _ => .product
  | .factor h => h.moves.map fun _ _ _ => .factor

theorem Factor.moves {n : Nat} {ts rest : List Token} {e : Expr} :
    Factor n ts e rest → Moves (Factor n) Expr.shift ts e rest
  | .plain h => h.moves.map fun _ _ _ => .plain
  | @Factor.factorial _ _ _ _ bang h hbang =>
    Moves.within [] [bang] h.moves fun k _ _ h => by
      rw [Expr.shift, Span.shift_cover, ← Expr.span_shift]
      exact .factorial h hbang

theorem Power.moves {n : Nat} {ts rest : List Token} {e : Expr} :
    Power n ts e rest → Moves (Power n) Expr.shift ts e rest
  | .plain h => h.moves.map fun _ _ _ => .plain
  | @Power.raised _ _ _ _ _ _ _ caret hbase hcaret hexponent =>
    Moves.join [caret] hbase.moves hexponent.moves fun k _ _ _ hb he => by
      rw [Expr.shift, Span.shift_cover, ← Expr.span_shift, ← Expr.span_shift]
      exact .raised hb hcaret he

theorem Atom.moves {n : Nat} {ts rest : List Token} {e : Expr} :
    Atom n ts e rest → Moves (Atom n) Expr.shift ts e rest
  | .number h => ⟨[_], rfl, fun _ _ => .number h⟩
  | .text h => ⟨[_], rfl, fun _ _ => .text h⟩
  | .name h => ⟨[_], rfl, fun _ _ => .name h⟩
  | @Atom.call _ function opening closing _ _ _ _ hfunction hopening hargs hclosing =>
    Moves.within [function, opening] [closing] hargs.moves fun k _ _ h => by
      rw [Expr.shift, Span.shift_cover]
      exact @Atom.call _ (function.shift k) (opening.shift k) (closing.shift k) _ _ _ _ hfunction
        hopening h hclosing
  | @Atom.group _ opening closing _ _ _ hopening h hclosing =>
    Moves.within [opening] [closing] h.moves fun _ _ _ h => .group hopening h hclosing
  | @Atom.negated _ minus _ _ _ hminus h =>
    Moves.within [minus] [] h.moves fun k _ _ h => by
      rw [Expr.shift, Span.shift_cover, ← Expr.span_shift]
      exact .negated hminus h

theorem Arguments.moves {n : Nat} {ts rest : List Token} {args : List Expr} :
    Arguments n ts args rest → Moves (Arguments n) Expr.shiftAll ts args rest
  | .none => ⟨[], rfl, fun _ _ => .none⟩
  | .some h => h.moves.map fun _ _ _ => .some

theorem Listed.moves {n : Nat} {ts rest : List Token} {args : List Expr} :
    Listed n ts args rest → Moves (Listed n) Expr.shiftAll ts args rest
  | .last h => h.moves.map fun _ _ _ => .last
  | @Listed.more _ _ _ _ _ _ _ comma h hcomma hrest =>
    Moves.join [comma] h.moves hrest.moves fun _ _ _ _ he hes => .more he hcomma hes

end

theorem Separators.moves {ts rest : List Token} (h : Separators ts rest) :
    Moves (fun ts (_ : Unit) => Separators ts) (fun _ => id) ts () rest := by
  induction h with
  | none => exact ⟨[], rfl, fun _ _ => .none⟩
  | @more t _ _ ht _ ih => exact Moves.within [t] [] ih fun _ _ _ h => .more ht h

theorem Series.moves {n : Nat} {ts rest : List Token} {es : List Expr} (h : Series n ts es rest) :
    Moves (Series n) Expr.shiftAll ts es rest := by
  induction h with
  | last h => exact h.moves.map fun _ _ _ => .last
  | @more n m _ us _ _ _ _ t h ht hseparators _ ih =>
    have hrest : Moves (fun ts es rest => ∃ us, Separators ts us ∧ Series m us es rest)
        Expr.shiftAll us _ _ :=
      Moves.join [] hseparators.moves ih fun _ _ us' _ hs hes => ⟨us', hs, hes⟩
    exact Moves.join [t] h.moves hrest fun _ _ _ _ he ⟨_, hs, hes⟩ => .more he ht hs hes

theorem Program.moves {n : Nat} {ts rest : List Token} {es : List Expr}
    (h : Program n ts es rest) : Moves (Program n) Expr.shiftAll ts es rest := by
  cases h with
  | empty h => exact h.moves.map fun _ _ _ => .empty
  | @series _ _ us _ _ _ hbefore h hafter =>
    have hrest : Moves (fun us es rest => ∃ vs, Series n us es vs ∧ Separators vs rest)
        Expr.shiftAll us es rest :=
      Moves.join [] h.moves hafter.moves fun _ _ vs _ hes hs => ⟨vs, hes, hs⟩
    exact Moves.join [] hbefore.moves hrest fun _ _ _ _ hs ⟨_, hes, hs'⟩ => .series hs hes hs'

/-- What follows a program may be replaced. -/
theorem Program.replace {n : Nat} {read rest : List Token} {es : List Expr}
    (h : Program n (read ++ rest) es rest) (rest' : List Token) :
    Program n (read ++ rest') es rest' := by
  obtain ⟨read', hread, hmoved⟩ := h.moves
  have hprogram := hmoved 0 rest'
  rw [Expr.shiftAll_zero, ← (List.append_cancel_right hread)] at hprogram
  rw [List.map_congr_left (g := id) fun t _ => t.shift_zero, List.map_id] at hprogram
  exact hprogram

/-- A program further on. -/
theorem Program.shift {n : Nat} {ts rest : List Token} {es : List Expr} (h : Program n ts es rest)
    (k : Nat) :
    Program n (ts.map (Token.shift k)) (Expr.shiftAll k es) (rest.map (Token.shift k)) := by
  obtain ⟨read, rfl, hmoved⟩ := h.moves
  rw [List.map_append]
  exact hmoved k _

/-! ## Programs in turn -/

theorem Separators.trans {ts us rest : List Token} (h : Separators ts us)
    (h' : Separators us rest) : Separators ts rest := by
  induction h with
  | none => exact h'
  | more ht _ ih => exact .more ht (ih h')

/-- With a separator behind them there is a first one among them. -/
theorem Separators.first {ts us rest : List Token} {t : Token} (h : Separators ts (t :: us))
    (ht : Separator t.kind) (h' : Separators us rest) :
    ∃ t' ts', ts = t' :: ts' ∧ Separator t'.kind ∧ Separators ts' rest := by
  cases h with
  | none => exact ⟨t, us, rfl, ht, h'⟩
  | more ht' hmore => exact ⟨_, _, rfl, ht', hmore.trans (.more ht h')⟩

/-- Statements, separators and more statements. -/
theorem Series.append {n m : Nat} {ts us vs rest : List Token} {es es' : List Expr} {t : Token}
    (h : Series n ts es (t :: us)) (ht : Separator t.kind) (hbetween : Separators us vs)
    (h' : Series m vs es' rest) : Series (max n m) ts (es ++ es') rest := by
  generalize hleft : t :: us = left at h
  induction h with
  | last h =>
    subst hleft
    exact .more h ht hbetween h'
  | more h ht' hseparators _ ih =>
    rw [Nat.max_assoc]
    exact .more h ht' hseparators (ih hleft)

/-- **Two programs with a separator between them are a program.** -/
theorem Program.append {n m : Nat} {ts us rest : List Token} {es es' : List Expr} {t : Token}
    (h : Program n ts es (t :: us)) (ht : Separator t.kind)
    (h' : Program m us es' rest) : Program (max n m) ts (es ++ es') rest := by
  cases h with
  | empty h =>
    rw [Nat.zero_max]
    cases h' with
    | empty h' => exact .empty (h.trans (.more ht h'))
    | series hbefore h' hafter => exact .series (h.trans (.more ht hbefore)) h' hafter
  | series hbefore h hafter =>
    cases h' with
    | empty h' =>
      rw [Nat.max_zero, List.append_nil]
      exact .series hbefore h (hafter.trans (.more ht h'))
    | series hbetween h' hafter' =>
      obtain ⟨t', us', rfl, ht', hbetween'⟩ := hafter.first ht hbetween
      exact .series hbefore (h.append ht' hbetween' h') hafter'

end Calculator.Grammar

namespace Calculator.Expr

open Calculator.Grammar (Program Separator)

/-! ## Sources -/

/-- The tree of a source is that of its statements. -/
theorem ofStatements_of_parse {source : String} {e : Expr} (h : parse source = .ok e) :
    ofStatements e.statements = e := by
  obtain ⟨_, es, _, hderived, -, -, -, rfl⟩ := derivable_of_parse h
  rw [hderived.statements_ofStatements]

/-- **Two sources with a newline between them are a source**, with the statements of the first and
then those of the second, further on. -/
theorem parse_join {a b : String} {ea eb : Expr} (ha : parse a = .ok ea) (hb : parse b = .ok eb)
    (hopen : endsInComment a = false) :
    ∃ e, parse (a ++ "\n" ++ b) = .ok e
      ∧ e.statements = ea.statements ++ shiftAll (a.utf8ByteSize + 1) eb.statements := by
  obtain ⟨n, es, finish, hderived, hfinish, haccepted, hn, rfl⟩ := derivable_of_parse ha
  obtain ⟨m, es', finish', hderived', hfinish', haccepted', hm, rfl⟩ := derivable_of_parse hb
  rw [hderived.statements_ofStatements, hderived'.statements_ofStatements]
  obtain ⟨body, hbody⟩ := hderived.suffix
  have htokens := tokenize_join (b := b) hbody.symm hfinish hopen
  have hnewline : Separator (newlineAt a.utf8ByteSize).kind := .newline
  rw [← hbody] at hderived
  have hjoined := (hderived.replace _).append hnewline (hderived'.shift (a.utf8ByteSize + 1))
  rw [← htokens] at hjoined
  have hcalls : ∀ e ∈ es ++ shiftAll (a.utf8ByteSize + 1) es', e.CallsAccepted := by
    intro e he
    rcases List.mem_append.1 he with he | he
    · exact haccepted e he
    · exact callsAccepted_shiftAll haccepted' e he
  exact ⟨_, parse_of_fits hjoined hfinish' hcalls (Nat.max_le.2 ⟨hn, hm⟩),
    hjoined.statements_ofStatements⟩

end Calculator.Expr
