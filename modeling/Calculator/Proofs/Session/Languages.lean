import Calculator.Proofs.Localized.Evaluator
import Calculator.Proofs.Session.Coupling

/-!
# Languages are for words

A session speaks one of two languages, and says what is wrong with a source in it. The language goes
with the source through lexer, parser and evaluator (`Localized.run`): tokens that are no words
carry a message in it, the parser compares such tokens and copies their messages, and every notice
is made in it. It decides nothing else. Sources that are run one after the other in two sessions
that differ only in their language come to the same at every step: the same result, or the same
fault at the same place in other words, with a piece of advice in both or in neither; and the
sessions still differ only in their language (`Session.responses_sameButLanguage`).

A run with the language in it is a run without one whose fault is put into words at the end
(`Localized.run_eq`), and two of these go side by side, with `Coupling.same` as the relation. It
relates the languages too: running a source does not change them.
-/

namespace Calculator

/-! ## What a session answers -/

namespace Localized

/-- What a source comes to in a session, an evaluation or a notice, and the session that is left. -/
def respond (source : String) (session : Session) : Option (Except Notice Evaluation × Session) :=
  (run source session).map fun
    | .ok evaluation session => (.ok evaluation, session)
    | .error notice session => (.error notice, session)

/-- What several sources come to when they are run one after the other. -/
def responses (session : Session) :
    List String → Option (List (Except Notice Evaluation × Session))
  | [] => some []
  | source :: sources => do
    let response ← respond source session
    let rest ← responses response.2 sources
    return response :: rest

end Localized

/-- Sessions that differ at most in their language. -/
structure Session.SameButLanguage (s t : Session) : Prop where
  bindings : s.bindings = t.bindings
  places : s.places = t.places
  console : s.console = t.console

theorem Session.SameButLanguage.toDesk {s t : Session} (h : s.SameButLanguage t) :
    s.toDesk = t.toDesk := by
  cases hs : s.toDesk
  cases ht : t.toDesk
  have hplaces := h.places
  have hconsole := h.console
  rw [hs, ht] at hplaces hconsole
  cases hplaces
  cases hconsole
  rfl

/-! ## The same in other words -/

/-- Two notices of the same kind about the same place, with a piece of advice in both or in none. -/
structure Notice.SameButWords (m n : Notice) : Prop where
  kind : m.kind = n.kind
  span : m.span = n.span
  advice : m.advice.isSome = n.advice.isSome

theorem Fault.notice_sameButWords (fault : Fault) (l m : Language) :
    (fault.notice l).SameButWords (fault.notice m) where
  kind := rfl
  span := rfl
  advice := by
    unfold notice
    cases fault.advice <;> rfl

/-- One evaluation, or one fault in the words of two languages. -/
inductive WordedIn (l m : Language) :
    Except Notice Evaluation → Except Notice Evaluation → Prop
  | done (x : Evaluation) : WordedIn l m (.ok x) (.ok x)
  | failed (fault : Fault) : WordedIn l m (.error (fault.notice l)) (.error (fault.notice m))

/-- What sessions with the languages `l` and `m` answer, if nothing but these makes a difference. -/
structure ResponsesAlike (l m : Language) (x y : Except Notice Evaluation × Session) : Prop where
  worded : WordedIn l m x.1 y.1
  sessions : x.2.SameButLanguage y.2
  left : x.2.language = l
  right : y.2.language = m

namespace Localized

/-- One source in two sessions that differ at most in their languages, which are `l` and `m`. -/
theorem respond_alike (source : String) {s t : Session} (h : s.SameButLanguage t) {l m : Language}
    (hs : s.language = l) (ht : t.language = m) :
    ∃ x y, respond source s = some x ∧ respond source t = some y ∧ ResponsesAlike l m x y := by
  have hruns := Coupling.run_alike (Coupling.same_lawful fun a b => a = l ∧ b = m) (fun _ => rfl)
    source s t ⟨h.toDesk, h.bindings, hs, ht⟩
  unfold respond
  rw [run_eq, run_eq, hs, ht]
  cases hrun : Session.run source s with
  | ok x s' =>
    cases hrun' : Session.run source t with
    | error g t' => rw [hrun, hrun'] at hruns; exact hruns.elim
    | ok y t' =>
      rw [hrun, hrun'] at hruns
      obtain ⟨hxy, hdesk, hbindings, hl, hm⟩ := hruns
      cases Coupling.evaluation_eq_of_same hxy
      exact ⟨_, _, rfl, rfl, .done x,
        ⟨hbindings, congrArg Desk.places hdesk, congrArg Desk.console hdesk⟩, hl, hm⟩
  | error f s' =>
    cases hrun' : Session.run source t with
    | ok y t' => rw [hrun, hrun'] at hruns; exact hruns.elim
    | error g t' =>
      rw [hrun, hrun'] at hruns
      obtain ⟨hfg, hdesk, hbindings, hl, hm⟩ := hruns
      cases hfg.eq
      exact ⟨_, _, rfl, rfl, .failed f,
        ⟨hbindings, congrArg Desk.places hdesk, congrArg Desk.console hdesk⟩, hl, hm⟩

theorem responses_alike (sources : List String) {s t : Session} (h : s.SameButLanguage t)
    {l m : Language} (hs : s.language = l) (ht : t.language = m) :
    ∃ xs ys, responses s sources = some xs ∧ responses t sources = some ys
      ∧ xs.length = sources.length ∧ List.Forall₂ (ResponsesAlike l m) xs ys := by
  induction sources generalizing s t with
  | nil => exact ⟨[], [], rfl, rfl, rfl, .nil⟩
  | cons source sources ih =>
    obtain ⟨x, y, hx, hy, hxy⟩ := respond_alike source h hs ht
    obtain ⟨xs, ys, hxs, hys, hlength, hrest⟩ := ih hxy.sessions hxy.left hxy.right
    refine ⟨x :: xs, y :: ys, ?_, ?_, by simp [hlength], .cons hxy hrest⟩
    · simp [responses, hx, hxs]
    · simp [responses, hy, hys]

end Localized

namespace Session

/-- **Languages are for words.** Let two sessions differ at most in their languages, and run the
same sources in both, one after the other. Each source comes to the same: to one evaluation, or to
one fault that each session tells in its own language, of the same kind, at the same place and with
advice in both or in neither. After each of them variables, places and console are the same, and the
languages are what they were. -/
theorem responses_sameButLanguage (sources : List String) {s t : Session}
    (h : s.SameButLanguage t) :
    ∃ xs ys, Localized.responses s sources = some xs ∧ Localized.responses t sources = some ys
      ∧ xs.length = sources.length
      ∧ List.Forall₂ (fun x y =>
          (match x.1, y.1 with
            | .ok a, .ok b => a.value = b.value ∧ a.isAssignment = b.isAssignment
            | .error m, .error n => m.SameButWords n
                ∧ ∃ fault : Fault, m = fault.notice s.language ∧ n = fault.notice t.language
            | _, _ => False)
          ∧ x.2.SameButLanguage y.2
          ∧ x.2.language = s.language ∧ y.2.language = t.language)
        xs ys := by
  obtain ⟨xs, ys, hxs, hys, hlength, halike⟩ := Localized.responses_alike sources h rfl rfl
  refine ⟨xs, ys, hxs, hys, hlength, halike.imp ?_⟩
  rintro ⟨x, s'⟩ ⟨y, t'⟩ ⟨hworded, hsessions, hl, hm⟩
  refine ⟨?_, hsessions, hl, hm⟩
  cases hworded with
  | done a => exact ⟨rfl, rfl⟩
  | failed fault => exact ⟨fault.notice_sameButWords _ _, fault, rfl, rfl⟩

/-- The second source fails after it has printed a line, the third for a token that is no word. -/
theorem responses_sameButLanguage_undefined :
    SameButLanguage { language := .en } { language := .pt }
      ∧ ∃ s₁ s₂ s₃ t₁ t₂ t₃ m₂ m₃ n₂ n₃,
        Localized.responses { language := .en } ["x = 2", "print(x); x + y", "(x + @"]
          = some [(.ok ⟨.number 2, true⟩, s₁), (.error m₂, s₂), (.error m₃, s₃)]
        ∧ Localized.responses { language := .pt } ["x = 2", "print(x); x + y", "(x + @"]
          = some [(.ok ⟨.number 2, true⟩, t₁), (.error n₂, t₂), (.error n₃, t₃)]
        ∧ m₂.message = "Variable not defined: y" ∧ n₂.message = "Variável não definida: y"
        ∧ m₂.SameButWords n₂ ∧ s₂.console.lines = ["2.000000"] ∧ s₂.SameButLanguage t₂
        ∧ m₃.message = "Unknown character: @" ∧ n₃.message = "Caractere não reconhecido: @"
        ∧ m₃.SameButWords n₃ ∧ s₃.SameButLanguage t₃ := by
  have hsame : SameButLanguage { language := .en } { language := .pt } := ⟨rfl, rfl, rfl⟩
  have hfirst (language : Language) : run "x = 2" { language }
      = .ok ⟨.number 2, true⟩
        { language, bindings := ⟨[{ name := "x", value := .number 2 }]⟩ } :=
    eq_ok_of_done? (by cases language <;> decide +kernel)
  have hsecond (language : Language) : run "print(x); x + y"
      { language, bindings := ⟨[{ name := "x", value := .number 2 }]⟩ }
        = .error ⟨.undefinedVariable "y", ⟨14, 15⟩, none⟩
          { language, bindings := ⟨[{ name := "x", value := .number 2 }]⟩
            console := ⟨#[.line "2.000000"]⟩ } :=
    eq_error_of_fault? (by cases language <;> decide +kernel)
  have hthird (language : Language) : run "(x + @"
      { language, bindings := ⟨[{ name := "x", value := .number 2 }]⟩
        console := ⟨#[.line "2.000000"]⟩ }
        = .error ⟨.unknownCharacter '@', ⟨5, 6⟩, none⟩
          { language, bindings := ⟨[{ name := "x", value := .number 2 }]⟩
            console := ⟨#[.line "2.000000"]⟩ } :=
    eq_error_of_fault? (by cases language <;> decide +kernel)
  obtain ⟨xs, ys, hxs, hys, -, hresponses⟩ :=
    responses_sameButLanguage ["x = 2", "print(x); x + y", "(x + @"] hsame
  simp only [Localized.responses, Localized.respond, Localized.run_eq, hfirst, hsecond, hthird,
    Localized.wordedIn, Option.map_some, Option.bind_eq_bind, Option.bind_some] at hxs hys ⊢
  cases hxs
  cases hys
  obtain ⟨-, hresponses⟩ := List.forall₂_cons.1 hresponses
  obtain ⟨hsecond, hresponses⟩ := List.forall₂_cons.1 hresponses
  obtain ⟨hthird, -⟩ := List.forall₂_cons.1 hresponses
  exact ⟨hsame, _, _, _, _, _, _, _, _, _, _, rfl, rfl, rfl, rfl, hsecond.1.1, rfl, hsecond.2.1,
    rfl, rfl, hthird.1.1, hthird.2.1⟩

end Session

end Calculator
