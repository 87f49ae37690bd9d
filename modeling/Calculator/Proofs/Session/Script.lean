import Calculator.Proofs.Parse.Refinement
import Calculator.Proofs.Session.Evaluation
import Calculator.Proofs.Text.Blank
import Calculator.Proofs.Token.Tiling
import Calculator.Script

/-!
# A script is a dialogue

A script takes shortcuts. It leaves out lines that are blank or nothing but a comment, as far as the
first characters of the trimmed line tell, and it keeps a list of the lines that failed. The plain
way is the `dialogue`: every line goes to `Session.answer` as it stands, and every answer is written
to the console, up to the first line that exits. Both come to the same
(`Session.runScript_eq_dialogue`).

What makes the shortcuts safe:

* `answer_trim`: a line is answered as its trimmed text is.
* `run_trivia`: a text of blanks and comments is a program without statements, which leaves the
  session as it is. A line has no newline in it, so nothing can stand behind a comment that it
  starts with.
* `answer_idle`: so a line that is left out would have been answered with nothing. In particular it
  is no command, whatever words stand in the comment.
-/

namespace Calculator

/-! ## Nothing but trivia -/

theorem tokenize_trivia {source : String} (h : Trivia source.toList []) :
    ∃ t, tokenize source = [t] ∧ t.kind = .finish := by
  have hskip : (Cursor.skipTrivia 0 source.toList).rest = [] := by
    have happend := Cursor.skipTrivia_append h 0
    rw [List.append_nil] at happend
    rw [happend]
    rfl
  have hfinish : (Cursor.ofSource source).next.1.kind = .finish := by
    simp only [Cursor.next, Cursor.ofSource, hskip]
    rfl
  exact ⟨_, Cursor.tokens_of_last (by rw [hfinish]; rfl), hfinish⟩

theorem parse_trivia {source : String} (h : Trivia source.toList []) :
    Expr.parse source = .ok (.sequence [] ⟨0, 0⟩) := by
  obtain ⟨t, htokens, hfinish⟩ := tokenize_trivia h
  have htake : Tokens.take? (·.isSeparator = true) [t] = none := by
    rw [Tokens.take?, hfinish]
    rfl
  rw [Expr.parse_eq_tokens, htokens, Tokens.parse, Tokens.statements, Tokens.skipSeparators, htake]
  simp [Tokens.atEnd, Tokens.endFault?, hfinish, bind, Except.bind, Expr.ofStatements]

namespace Session

/-- Trivia does nothing. -/
theorem run_trivia {source : String} (h : Trivia source.toList []) (session : Session) :
    run source session = .ok .silent session := by
  rw [run_of_parse (parse_trivia h)]
  rfl

/-! ## Lines that are left out -/

/-- Without dumps, a program is read and evaluated. -/
theorem execute_eq_run {options : Options} (htokens : options.dumpTokens = false)
    (htree : options.dumpTree = false) (source : String) : execute options source = run source := by
  unfold execute
  rw [htokens, htree]
  rfl

/-- Blanks at the ends of a line do not matter. -/
theorem answer_trim (options : Options) (line : String) (session : Session) :
    session.answer options (Text.trim line) = session.answer options line := by
  unfold answer
  rw [Text.words_trim, Text.trim_trim]

/-- The words that commands start with. -/
def commandWords : List String := ["exit", "quit", "help", "vars", "reset", "clear", "set"]

/-- A line is a program unless its first word is that of a command. -/
theorem answer_of_not_command (options : Options) {line word : String} {rest : List String}
    (hwords : Text.words line = word :: rest) (hword : word ∉ commandWords) (session : Session) :
    session.answer options line = session.runLine options (Text.trim line) := by
  unfold answer
  rw [hwords]
  dsimp only
  split
  case h_1 => contradiction
  case h_10 => rfl
  all_goals
    rename_i heq
    cases heq
    exact absurd (by decide) hword

theorem isIdle_cases {line : String} (h : isIdle line = true) :
    line.toList = [] ∨ ∃ cs, line.toList = '#' :: cs ∨ line.toList = '/' :: '/' :: cs := by
  unfold isIdle at h
  split at h
  case h_1 heq => exact .inl heq
  case h_2 cs heq => exact .inr ⟨cs, .inl heq⟩
  case h_3 cs heq => exact .inr ⟨cs, .inr heq⟩
  case h_4 => contradiction

theorem trivia_of_isIdle {line : String} (h : isIdle line = true) (hline : '\n' ∉ line.toList) :
    Trivia line.toList [] := by
  have hend : ∀ c ∈ ([] : List Char).head?, c = '\n' := by simp
  rcases isIdle_cases h with hempty | ⟨cs, hcs | hcs⟩
  · rw [hempty]
    exact .none []
  · rw [hcs] at hline ⊢
    exact Trivia.line (.inl rfl) (fun hmem => hline (by simp [hmem])) hend
  · rw [hcs] at hline ⊢
    exact Trivia.line (.inr rfl) (fun hmem => hline (by simp [hmem])) hend

/-- A line that is left out has no words, or its first word is no command's. -/
theorem words_of_isIdle {line : String} (h : isIdle line = true) :
    Text.words line = [] ∨ ∃ word rest, Text.words line = word :: rest ∧ word ∉ commandWords := by
  have hstart : ∀ w ∈ commandWords, w.toList.head? ≠ some '#' ∧ w.toList.head? ≠ some '/' := by
    decide
  rcases isIdle_cases h with hempty | ⟨cs, hcs | hcs⟩
  · left
    rw [Text.words, hempty]
    rfl
  · right
    obtain ⟨word, rest, hwords, hhead⟩ := Text.words_of_head hcs (by decide)
    exact ⟨word, rest, hwords, fun hmem => (hstart word hmem).1 hhead⟩
  · right
    obtain ⟨word, rest, hwords, hhead⟩ := Text.words_of_head hcs (by decide)
    exact ⟨word, rest, hwords, fun hmem => (hstart word hmem).2 hhead⟩

variable {options : Options}

/-- **A line that a script leaves out would be answered with nothing**, and would change nothing. -/
theorem answer_idle (htokens : options.dumpTokens = false) (htree : options.dumpTree = false)
    {line : String} (hline : '\n' ∉ line.toList) (h : isIdle (Text.trim line) = true)
    (session : Session) : session.answer options line = (.nothing, session) := by
  rw [← answer_trim]
  rcases words_of_isIdle h with hnone | ⟨word, rest, hwords, hword⟩
  · unfold answer
    rw [hnone]
  · have hnewline : '\n' ∉ (Text.trim line).toList := by
      rw [Text.toList_trim]
      exact fun hmem => hline (Text.mem_of_mem_trimChars hmem)
    rw [answer_of_not_command options hwords hword, Text.trim_trim, runLine,
      execute_eq_run htokens htree, run_trivia (trivia_of_isIdle h hnewline)]
    rfl

end Session

/-! ## Dialogues -/

namespace Reply

def isExit : Reply → Bool
  | .exit _ => true
  | _ => false

/-- What went wrong, if anything did. -/
def notice? : Reply → Option Notice
  | .failure notice => some notice
  | _ => none

end Reply

namespace Session

/-- Writes an answer to the console. A failure is reported elsewhere. -/
def deliver (session : Session) : Reply → Session
  | .nothing | .failure _ => session
  | .text text | .exit text => session.mapConsole (·.writeLine text)

/-- Answers every line and delivers the answer, up to the first line that exits: the answers, and
the session that is left. -/
def dialogue (options : Options) (session : Session) : List String → List Reply × Session
  | [] => ([], session)
  | line :: rest =>
    let (reply, session) := session.answer options line
    if reply.isExit then ([reply], session.deliver reply)
    else
      let (replies, session) := dialogue options (session.deliver reply) rest
      (reply :: replies, session)

section Step

variable {options : Options} {session session' : Session} {line : String} {reply : Reply}
  (hanswer : session.answer options line = (reply, session')) (rest : List String)

include hanswer

theorem dialogue_of_exit (hexit : reply.isExit = true) :
    session.dialogue options (line :: rest) = ([reply], session'.deliver reply) := by
  unfold dialogue
  rw [hanswer]
  exact if_pos hexit

theorem dialogue_of_more (hexit : ¬reply.isExit = true) :
    session.dialogue options (line :: rest)
      = (reply :: ((session'.deliver reply).dialogue options rest).1,
        ((session'.deliver reply).dialogue options rest).2) := by
  conv_lhs => unfold dialogue
  rw [hanswer]
  exact if_neg hexit

end Step

/-- The failures among the answers to lines, the first of which has a number. -/
def failuresFrom (number : Nat) (answers : List (String × Reply)) : List LineFailure :=
  (answers.zipIdx number).filterMap fun ((line, reply), number) =>
    reply.notice?.map fun notice => ⟨number, Text.trim line, notice⟩

theorem failuresFrom_cons (number : Nat) (line : String) (reply : Reply)
    (answers : List (String × Reply)) :
    failuresFrom number ((line, reply) :: answers)
      = failuresFrom number [(line, reply)] ++ failuresFrom (number + 1) answers := by
  unfold failuresFrom
  rw [List.zipIdx_cons, ← List.singleton_append, List.filterMap_append]
  rfl

theorem le_of_mem_failuresFrom {number : Nat} {answers : List (String × Reply)}
    {failure : LineFailure} (h : failure ∈ failuresFrom number answers) :
    number ≤ failure.number := by
  obtain ⟨⟨⟨line, reply⟩, n⟩, hmem, hfailure⟩ := List.mem_filterMap.1 h
  obtain ⟨notice, -, rfl⟩ := Option.map_eq_some_iff.1 hfailure
  exact List.le_snd_of_mem_zipIdx hmem

/-- Failures are listed in the order of the lines. -/
theorem failuresFrom_increasing (number : Nat) (answers : List (String × Reply)) :
    (failuresFrom number answers).Pairwise (·.number < ·.number) := by
  induction answers generalizing number with
  | nil => exact .nil
  | cons answer answers ih =>
    obtain ⟨line, reply⟩ := answer
    rw [failuresFrom_cons, List.pairwise_append]
    refine ⟨?_, ih (number + 1), fun a ha b hb => ?_⟩
    · cases reply <;> simp [failuresFrom, Reply.notice?]
    · have hnumber : a.number = number := by
        cases reply <;> simp_all [failuresFrom, Reply.notice?]
      have hle := le_of_mem_failuresFrom hb
      omega

/-! ### A script line by line -/

/-- One line of a script: it is answered and the answer delivered, left out or not. -/
theorem runLines_cons (htokens : options.dumpTokens = false) (htree : options.dumpTree = false)
    {line : String} (hline : '\n' ∉ line.toList) (number : Nat) (rest : List String)
    (session : Session) :
    session.runLines options number (line :: rest)
      = match session.answer options line with
        | (reply, session) =>
          if reply.isExit then (⟨[], true⟩, session.deliver reply)
          else
            match (session.deliver reply).runLines options (number + 1) rest with
            | (run, final) =>
              ({ run with failures := failuresFrom number [(line, reply)] ++ run.failures },
                final) := by
  rw [runLines]
  dsimp only
  by_cases hidle : isIdle (Text.trim line) = true
  · rw [if_pos hidle, answer_idle htokens htree hline hidle]
    rfl
  · rw [if_neg hidle, answer_trim]
    cases session.answer options line with
    | mk reply session' => cases reply <;> rfl

/-- **Left out or answered, the lines come to the same.** -/
theorem runLines_eq_dialogue (htokens : options.dumpTokens = false)
    (htree : options.dumpTree = false) {lines : List String}
    (hlines : ∀ line ∈ lines, '\n' ∉ line.toList) (number : Nat) (session : Session) :
    session.runLines options number lines
      = (⟨failuresFrom number (lines.zip (session.dialogue options lines).1),
          (session.dialogue options lines).1.any Reply.isExit⟩,
        (session.dialogue options lines).2) := by
  induction lines generalizing number session with
  | nil => rfl
  | cons line rest ih =>
    obtain ⟨hline, hrest⟩ := List.forall_mem_cons.1 hlines
    rw [runLines_cons htokens htree hline]
    cases hanswer : session.answer options line with
    | mk reply session' =>
      dsimp only
      by_cases hexit : reply.isExit = true
      · have hnotice : failuresFrom number [(line, reply)] = [] := by
          cases reply <;> first | rfl | cases hexit
        rw [if_pos hexit, dialogue_of_exit hanswer rest hexit]
        simp [hnotice, hexit]
      · rw [if_neg hexit, dialogue_of_more hanswer rest hexit, ih hrest]
        simp only [List.zip_cons_cons, List.any_cons, hexit, Bool.false_or]
        rw [← failuresFrom_cons]

/-! ### Where a dialogue ends -/

theorem length_dialogue {lines : List String} {session : Session}
    (h : (session.dialogue options lines).1.any Reply.isExit = false) :
    (session.dialogue options lines).1.length = lines.length := by
  induction lines generalizing session with
  | nil => rfl
  | cons line rest ih =>
    cases hanswer : session.answer options line with
    | mk reply session' =>
      by_cases hexit : reply.isExit = true
      · rw [dialogue_of_exit hanswer rest hexit] at h
        simp [hexit] at h
      · rw [dialogue_of_more hanswer rest hexit] at h ⊢
        simp only [List.any_cons, Bool.or_eq_false_iff] at h
        rw [List.length_cons, ih h.2, List.length_cons]

/-- After an exit there may be any lines: the answers are the same, and answer the same lines. -/
theorem dialogue_of_take {lines others : List String} {session : Session}
    (h : (session.dialogue options lines).1.any Reply.isExit = true)
    (hothers : lines.take (session.dialogue options lines).1.length <+: others) :
    session.dialogue options others = session.dialogue options lines
      ∧ others.zip (session.dialogue options lines).1
        = lines.zip (session.dialogue options lines).1 := by
  induction lines generalizing session others with
  | nil => cases h
  | cons line rest ih =>
    cases hanswer : session.answer options line with
    | mk reply session' =>
      by_cases hexit : reply.isExit = true
      · rw [dialogue_of_exit hanswer rest hexit] at hothers ⊢
        obtain ⟨later, rfl⟩ := hothers
        exact ⟨dialogue_of_exit hanswer later hexit, by simp⟩
      · rw [dialogue_of_more hanswer rest hexit] at h hothers ⊢
        simp only [List.any_cons, hexit, Bool.false_or] at h
        obtain ⟨later, rfl⟩ := hothers
        obtain ⟨hsame, hzip⟩ := ih h (List.prefix_append _ later)
        simp only [List.length_cons, List.take_succ_cons, List.cons_append, List.zip_cons_cons]
        rw [dialogue_of_more hanswer _ hexit, hsame, hzip]
        exact ⟨rfl, rfl⟩

/-- **A script is a dialogue.** With dumps off, a script leaves the session that answering all its
lines leaves, blank ones and comments included, up to the first that exits. It has exited if one of
the answers was to exit, and then the lines behind that one might as well be any others; else every
line was answered. Its failures are the lines that were answered with one, trimmed, with their
numbers and notices, in the order of the numbers. -/
theorem runScript_eq_dialogue (options : Options) (htokens : options.dumpTokens = false)
    (htree : options.dumpTree = false) (source : String) (session : Session) :
    (session.runScript options source).2 = (session.dialogue options (Text.lines source)).2
      ∧ ((session.runScript options source).1.exited = true
        ↔ ∃ reply ∈ (session.dialogue options (Text.lines source)).1, reply.isExit = true)
      ∧ (session.runScript options source).1.failures
        = failuresFrom 1
          ((Text.lines source).zip (session.dialogue options (Text.lines source)).1)
      ∧ (session.runScript options source).1.failures.Pairwise (·.number < ·.number)
      ∧ ((session.runScript options source).1.exited = false →
        (session.dialogue options (Text.lines source)).1.length = (Text.lines source).length)
      ∧ ((session.runScript options source).1.exited = true → ∀ other,
        (Text.lines source).take (session.dialogue options (Text.lines source)).1.length
            <+: Text.lines other →
          session.runScript options other = session.runScript options source) := by
  have hscript (text : String) : session.runScript options text
      = (⟨failuresFrom 1 ((Text.lines text).zip (session.dialogue options (Text.lines text)).1),
          (session.dialogue options (Text.lines text)).1.any Reply.isExit⟩,
        (session.dialogue options (Text.lines text)).2) :=
    runLines_eq_dialogue htokens htree (fun _ hline => Text.newline_not_mem_of_lines hline) 1
      session
  rw [hscript]
  refine ⟨rfl, List.any_eq_true, rfl, failuresFrom_increasing _ _, length_dialogue,
    fun hexited other hother => ?_⟩
  obtain ⟨hsame, hzip⟩ := dialogue_of_take hexited hother
  rw [hscript, hsame, hzip]

/-- The second line is left out and the third one fails. What stands behind `exit` is not read. -/
theorem runScript_eq_dialogue_exit :
    (({} : Session).dialogue {} ["x = 1", "\t# exit", "x / 0", "exit", "x = 2"]).1.map Reply.isExit
        = [false, false, false, true]
      ∧ (({} : Session).runScript {} "x = 1\n\t# exit\nx / 0\nexit\nx = 2").1.exited = true
      ∧ (({} : Session).runScript {} "x = 1\n\t# exit\nx / 0\nexit\nx = 2").1.failures.map
          (fun failure => (failure.number, failure.source)) = [(3, "x / 0")]
      ∧ ({} : Session).runScript {} "x = 1\n\t# exit\nx / 0\nexit\ny\nexit"
        = ({} : Session).runScript {} "x = 1\n\t# exit\nx / 0\nexit\nx = 2" := by
  have hlines : Text.lines "x = 1\n\t# exit\nx / 0\nexit\nx = 2"
      = ["x = 1", "\t# exit", "x / 0", "exit", "x = 2"] := by decide +kernel
  have hreplies : (({} : Session).dialogue {}
      ["x = 1", "\t# exit", "x / 0", "exit", "x = 2"]).1.map Reply.isExit
        = [false, false, false, true] := by decide +kernel
  have hfailed : (failuresFrom 1 (["x = 1", "\t# exit", "x / 0", "exit", "x = 2"].zip
      (({} : Session).dialogue {} ["x = 1", "\t# exit", "x / 0", "exit", "x = 2"]).1)).map
        (fun failure => (failure.number, failure.source)) = [(3, "x / 0")] := by decide +kernel
  obtain ⟨-, hexited, hfailures, -, -, hlater⟩ :=
    runScript_eq_dialogue {} rfl rfl "x = 1\n\t# exit\nx / 0\nexit\nx = 2" {}
  rw [hlines] at hexited hfailures hlater
  have hexit : (({} : Session).runScript {} "x = 1\n\t# exit\nx / 0\nexit\nx = 2").1.exited
      = true := by
    have hmem : true ∈ (({} : Session).dialogue {}
        ["x = 1", "\t# exit", "x / 0", "exit", "x = 2"]).1.map Reply.isExit := by
      rw [hreplies]
      decide
    exact hexited.2 (List.mem_map.1 hmem)
  have hlength := congrArg List.length hreplies
  rw [List.length_map] at hlength
  refine ⟨hreplies, hexit, by rw [hfailures, hfailed], hlater hexit _ ?_⟩
  rw [hlength]
  decide +kernel

end Session

end Calculator
