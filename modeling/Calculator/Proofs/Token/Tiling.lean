import Calculator.Proofs.Token.Join

/-!
# Tokens tile their source

Between two tokens stand blanks and comments only, and as many of them as there are. `Trivia` says
what they are without saying how they are skipped: a comment of a line goes up to the newline, which
is not part of it, or to the end of the text, and a comment in blocks through the first `*/` behind
its start, or to the end of the text if there is none. `Trivia.Maximal` says that no longer run of
them starts at the same place.

`Tiling` puts tokens and gaps together: a text is a gap, a token, a gap, a token and so on, up to
the end of the text or the first fault. The tokens of a source are a tiling of it
(`Cursor.tokens_tiling`), and where each token stands follows from that (`tokenize_tiles`).
-/

namespace Calculator

/-! ## Trivia -/

/-- The characters that may stand anywhere between tokens. -/
def blanks : List Char := [' ', '\t', '\r']

/-- What a comment that may go over several lines starts with. -/
def blockStart : List Char := ['/', '*']

/-- What such a comment ends with. -/
def blockEnd : List Char := ['*', '/']

/-- `gap` is a run of blanks and comments, in a text that goes on with `rest`. -/
inductive Trivia : (gap rest : List Char) → Prop
  | none (rest : List Char) : Trivia [] rest
  | blank {c : Char} {gap rest : List Char} (hc : c ∈ blanks) (h : Trivia gap rest) :
      Trivia (c :: gap) rest
  /-- A comment up to the end of the line. It is the last of its run: the newline is a token. -/
  | line {mark text rest : List Char} (hmark : mark = ['#'] ∨ mark = ['/', '/'])
      (htext : '\n' ∉ text) (hrest : ∀ c ∈ rest.head?, c = '\n') : Trivia (mark ++ text) rest
  /-- A comment up to the first end of a block. -/
  | block {text gap rest : List Char} (htext : ¬blockEnd <:+: text) (h : Trivia gap rest) :
      Trivia (blockStart ++ text ++ blockEnd ++ gap) rest
  /-- A comment that is not closed. -/
  | openBlock {text : List Char} (htext : ¬blockEnd <:+: text) : Trivia (blockStart ++ text) []

/-- A run of blanks and comments, and no longer one starts where it does. -/
def Trivia.Maximal (gap rest : List Char) : Prop :=
  Trivia gap rest ∧ ∀ gap' rest', gap' ++ rest' = gap ++ rest → Trivia gap' rest' →
    gap'.length ≤ gap.length

theorem not_blockEnd_infix_cons {c : Char} {text cs : List Char}
    (hc : ∀ rest, c = '*' → cs ≠ '/' :: rest) (hfirst : text <+: cs)
    (h : ¬blockEnd <:+: text) : ¬blockEnd <:+: c :: text := by
  rw [List.infix_cons_iff]
  rintro (hstart | hlater)
  · obtain ⟨hstar, hslash⟩ := List.cons_prefix_cons.1 hstart
    obtain ⟨rest, hrest⟩ := hslash.trans hfirst
    exact hc rest hstar.symm (by rw [← hrest]; rfl)
  · exact h hlater

namespace Cursor

/-! ### What is skipped -/

theorem skipLine_trivia (offset : Nat) {mark : List Char} (hmark : mark = ['#'] ∨ mark = ['/', '/'])
    (cs : List Char) :
    ∃ text, Passes offset cs text (skipLine offset cs)
      ∧ Trivia (mark ++ text) (skipLine offset cs).rest := by
  refine ⟨cs.takeWhile (· ≠ '\n'), ⟨List.takeWhile_append_dropWhile.symm, rfl⟩, ?_⟩
  refine .line hmark (fun hmem => ?_) fun c hc => ?_
  · simpa using List.all_eq_true.1 List.all_takeWhile _ hmem
  · have hstop := List.head?_dropWhile_not (fun c : Char => decide (c ≠ '\n')) cs
    simp only [skipLine, Option.mem_def] at hc
    rw [hc] at hstop
    simpa using hstop

mutual

/-- What is skipped is trivia. -/
theorem skipTrivia_trivia (offset : Nat) (cs : List Char) :
    ∃ gap, Passes offset cs gap (skipTrivia offset cs)
      ∧ Trivia gap (skipTrivia offset cs).rest := by
  unfold skipTrivia
  split
  case h_1 cs | h_2 cs | h_3 cs =>
    obtain ⟨gap, hpasses, htrivia⟩ := skipTrivia_trivia (offset + 1) cs
    exact ⟨_, hpasses.cons _, .blank (by decide) htrivia⟩
  case h_4 cs =>
    obtain ⟨text, hpasses, htrivia⟩ := skipLine_trivia (offset + 1) (.inl rfl) cs
    exact ⟨_, hpasses.cons '#', htrivia⟩
  case h_5 cs =>
    obtain ⟨text, hpasses, htrivia⟩ := skipLine_trivia (offset + 2) (.inr rfl) cs
    exact ⟨_, Passes.cons '/' (hpasses.cons '/'), htrivia⟩
  case h_6 cs =>
    obtain ⟨passed, hpasses, hblock⟩ := skipBlock_trivia (offset + 2) cs
    refine ⟨_, Passes.cons '/' (hpasses.cons '*'), ?_⟩
    rcases hblock with ⟨text, gap, rfl, htext, htrivia⟩ | ⟨htext, hrest⟩
    · simpa [blockStart] using Trivia.block htext htrivia
    · rw [hrest]
      exact .openBlock htext
  case h_7 => exact ⟨[], ⟨rfl, rfl⟩, .none _⟩

/-- From inside a block, the text up to its first end is skipped and trivia behind it, or all. -/
theorem skipBlock_trivia (offset : Nat) (cs : List Char) :
    ∃ passed, Passes offset cs passed (skipBlock offset cs)
      ∧ ((∃ text gap, passed = text ++ blockEnd ++ gap ∧ ¬blockEnd <:+: text
          ∧ Trivia gap (skipBlock offset cs).rest)
        ∨ ¬blockEnd <:+: passed ∧ (skipBlock offset cs).rest = []) := by
  unfold skipBlock
  split
  case h_1 => exact ⟨[], ⟨rfl, rfl⟩, .inr ⟨by decide, rfl⟩⟩
  case h_2 cs =>
    obtain ⟨gap, hpasses, htrivia⟩ := skipTrivia_trivia (offset + 2) cs
    exact ⟨_, Passes.cons '*' (hpasses.cons '/'), .inl ⟨[], gap, rfl, by decide, htrivia⟩⟩
  case h_3 c cs hclose =>
    obtain ⟨passed, hpasses, hblock⟩ := skipBlock_trivia (offset + c.utf8Size) cs
    have hfirst : passed <+: cs := ⟨_, hpasses.1.symm⟩
    refine ⟨_, hpasses.cons c, ?_⟩
    rcases hblock with ⟨text, gap, rfl, htext, htrivia⟩ | ⟨htext, hrest⟩
    · rw [List.append_assoc] at hfirst
      have htext' := not_blockEnd_infix_cons hclose ((List.prefix_append _ _).trans hfirst) htext
      exact .inl ⟨c :: text, gap, rfl, htext', htrivia⟩
    · exact .inr ⟨not_blockEnd_infix_cons hclose hfirst htext, hrest⟩

end

/-! ### All of it is skipped -/

theorem skipLine_of_line {text rest : List Char} (htext : '\n' ∉ text)
    (hrest : ∀ c ∈ rest.head?, c = '\n') (offset : Nat) :
    skipLine offset (text ++ rest) = ⟨offset + byteLength text, rest⟩ := by
  have hall : ∀ c ∈ text, decide (c ≠ '\n') = true :=
    fun c hc => decide_eq_true fun heq => htext (heq ▸ hc)
  have hnone : rest.takeWhile (fun c => decide (c ≠ '\n')) = []
      ∧ rest.dropWhile (fun c => decide (c ≠ '\n')) = rest := by
    cases rest with
    | nil => exact ⟨rfl, rfl⟩
    | cons c rest =>
      have hc : c = '\n' := hrest c rfl
      simp [hc]
  unfold skipLine
  rw [List.takeWhile_append_of_pos hall, List.dropWhile_append_of_pos hall, hnone.1, hnone.2,
    List.append_nil]

/-- Nothing is skipped before a newline or at the end. -/
theorem skipTrivia_of_head {rest : List Char} (hrest : ∀ c ∈ rest.head?, c = '\n')
    (offset : Nat) : skipTrivia offset rest = ⟨offset, rest⟩ := by
  cases rest with
  | nil => rfl
  | cons c rest =>
    cases hrest c rfl
    rfl

/-- Inside a block only its end is looked for. -/
theorem skipBlock_append {text cs : List Char} (htext : ¬blockEnd <:+: text)
    (hcs : ∀ rest, cs ≠ '/' :: rest) (offset : Nat) :
    skipBlock offset (text ++ cs) = skipBlock (offset + byteLength text) cs := by
  induction text generalizing offset with
  | nil => rfl
  | cons c text ih =>
    rw [List.infix_cons_iff, not_or] at htext
    rw [List.cons_append, skipBlock, ih htext.2, byteLength, Nat.add_assoc]
    rintro rest rfl hslash
    cases text with
    | nil => exact hcs rest hslash
    | cons d text =>
      cases (List.cons.inj hslash).1
      exact htext.1 ⟨text, rfl⟩

/-- Trivia is skipped, and then what follows it. -/
theorem skipTrivia_append {gap rest : List Char} (h : Trivia gap rest) (offset : Nat) :
    skipTrivia offset (gap ++ rest) = skipTrivia (offset + byteLength gap) rest := by
  induction h generalizing offset with
  | none rest => rfl
  | @blank c gap rest hc _ ih =>
    have hskip : skipTrivia offset (c :: (gap ++ rest)) = skipTrivia (offset + 1) (gap ++ rest)
        ∧ c.utf8Size = 1 := by
      simp only [blanks, List.mem_cons, List.not_mem_nil, or_false] at hc
      rcases hc with rfl | rfl | rfl <;> exact ⟨rfl, rfl⟩
    rw [List.cons_append, hskip.1, ih, byteLength, hskip.2, Nat.add_assoc]
  | @line mark text rest hmark htext hrest =>
    have hskip : skipTrivia offset (mark ++ (text ++ rest))
        = skipLine (offset + byteLength mark) (text ++ rest) := by
      rcases hmark with rfl | rfl <;> rfl
    rw [List.append_assoc, hskip, skipLine_of_line htext hrest, skipTrivia_of_head hrest,
      byteLength_append, Nat.add_assoc]
  | @block text gap rest htext _ ih =>
    have hstart (cs : List Char) :
        skipTrivia offset (blockStart ++ cs) = skipBlock (offset + 2) cs := rfl
    have hend (position : Nat) (cs : List Char) :
        skipBlock position (blockEnd ++ cs) = skipTrivia (position + 2) cs := rfl
    have hnoSlash : ∀ cs, blockEnd ++ (gap ++ rest) ≠ '/' :: cs := by simp [blockEnd]
    simp only [List.append_assoc, byteLength_append]
    rw [hstart, skipBlock_append htext hnoSlash, hend, ih]
    simp only [show byteLength blockStart = 2 from rfl, show byteLength blockEnd = 2 from rfl,
      Nat.add_assoc]
  | @openBlock text htext =>
    have hstart (cs : List Char) :
        skipTrivia offset (blockStart ++ cs) = skipBlock (offset + 2) cs := rfl
    rw [List.append_assoc, hstart, skipBlock_append htext (by simp), byteLength_append,
      show byteLength blockStart = 2 from rfl, Nat.add_assoc]
    rfl

/-- **What is skipped is a maximal run of trivia.** -/
theorem skipTrivia_maximal (offset : Nat) (cs : List Char) :
    ∃ gap, Passes offset cs gap (skipTrivia offset cs)
      ∧ Trivia.Maximal gap (skipTrivia offset cs).rest := by
  obtain ⟨gap, hpasses, htrivia⟩ := skipTrivia_trivia offset cs
  refine ⟨gap, hpasses, htrivia, fun gap' rest' heq htrivia' => ?_⟩
  rw [← hpasses.1] at heq
  -- skipping goes through the other run and leaves a part of what follows it
  have hskip := skipTrivia_append htrivia' offset
  rw [heq] at hskip
  obtain ⟨passed, hpassed, -⟩ := skipTrivia_spec (offset + byteLength gap') rest'
  rw [← hskip] at hpassed
  have hlength := congrArg List.length hpasses.1
  have hlength' := congrArg List.length heq
  have hpassed' := congrArg List.length hpassed
  simp only [List.length_append] at hlength hlength' hpassed'
  omega

end Cursor

/-! ## Tilings -/

/-- The tokens of a text `cs` that stands behind `before`, with maximal gaps between them. The last
token is the end of the text, or a fault behind which there may be anything. -/
inductive Tiling : (before cs : List Char) → List Token → Prop
  | finish {before gap : List Char} (hgap : Trivia.Maximal gap []) :
      Tiling before gap [⟨.finish, "", .single (byteLength (before ++ gap))⟩]
  | fault {before gap lexeme rest : List Char} {cause : Cause}
      (hgap : Trivia.Maximal gap (lexeme ++ rest)) (hlexeme : lexeme ≠ []) :
      Tiling before (gap ++ lexeme ++ rest) [⟨.fault cause, String.ofList lexeme,
        ⟨byteLength (before ++ gap), byteLength (before ++ gap ++ lexeme)⟩⟩]
  | more {before gap lexeme rest : List Char} {kind : TokenKind} {tokens : List Token}
      (hkind : kind.isLast = false) (hgap : Trivia.Maximal gap (lexeme ++ rest))
      (hlexeme : lexeme ≠ []) (h : Tiling (before ++ gap ++ lexeme) rest tokens) :
      Tiling before (gap ++ lexeme ++ rest) (⟨kind, String.ofList lexeme,
        ⟨byteLength (before ++ gap), byteLength (before ++ gap ++ lexeme)⟩⟩ :: tokens)

namespace Cursor

/-- A token takes the characters of its lexeme. The end of the text, and only it, takes none. -/
theorem readAt_spec (start : Cursor) :
    ∃ lexeme, start.rest = lexeme ++ start.readAt.2.rest
      ∧ start.readAt.2.offset = start.offset + byteLength lexeme
      ∧ (start.readAt.1 = ⟨.finish, "", .single start.offset⟩ ∧ lexeme = [] ∧ start.rest = []
        ∨ ∃ kind ≠ .finish, lexeme ≠ [] ∧ start.readAt.1
          = ⟨kind, String.ofList lexeme, ⟨start.offset, start.offset + byteLength lexeme⟩⟩) := by
  refine ⟨(Token.scan start.rest).lexeme, (Token.scan_append start.rest).symm, rfl, ?_⟩
  cases hrest : start.rest with
  | nil =>
    left
    refine ⟨?_, rfl, rfl⟩
    simp only [readAt, hrest]
    rfl
  | cons c cs =>
    right
    have hlexeme := Token.scan_lexeme_ne_nil c cs
    refine ⟨(Token.scan (c :: cs)).kind, fun hfinish => ?_, hlexeme, ?_⟩
    · cases Token.eq_nil_of_scan_finish hfinish
    · simp only [readAt, hrest]
      rw [if_neg (by simpa using hlexeme)]

/-- **The tokens from a cursor on are a tiling of the text there.** -/
theorem tokens_tiling (cursor : Cursor) {before : List Char}
    (h : cursor.offset = byteLength before) : Tiling before cursor.rest cursor.tokens := by
  obtain ⟨gap, ⟨hgap, hoffset⟩, hmaximal⟩ := skipTrivia_maximal cursor.offset cursor.rest
  obtain ⟨lexeme, hlexeme, hafter, hkind⟩ := readAt_spec (skipTrivia cursor.offset cursor.rest)
  have hstart : (skipTrivia cursor.offset cursor.rest).offset = byteLength (before ++ gap) := by
    rw [hoffset, h, byteLength_append]
  rw [hstart, ← byteLength_append] at hafter hkind
  rw [← next_eq_readAt] at hlexeme hafter hkind
  rcases hkind with ⟨hnext, -, hend⟩ | ⟨kind, hfinish, hne, hnext⟩
  · rw [tokens_of_last (by rw [hnext]; rfl), hnext, hgap, hend, List.append_nil]
    rw [hend] at hmaximal
    exact .finish hmaximal
  · have hrest : cursor.rest = gap ++ lexeme ++ cursor.next.2.rest := by
      rw [List.append_assoc, ← hlexeme]
      exact hgap
    rw [hlexeme] at hmaximal
    cases hlast : kind.isLast with
    | true =>
      rw [tokens_of_last (by rw [hnext]; exact hlast), hnext, hrest]
      cases kind with
      | fault cause => exact .fault hmaximal hne
      | finish => exact absurd rfl hfinish
      | _ => cases hlast
    | false =>
      have hmore : cursor.next.1.kind.isLast = false := by rw [hnext]; exact hlast
      have hless := cursor.next_rest_lt hmore
      rw [tokens_of_more hmore]
      have htiling := tokens_tiling cursor.next.2 hafter
      conv => enter [2]; rw [hrest]
      rw [hnext]
      exact .more hlast hmaximal hne htiling
termination_by cursor.rest.length

end Cursor

/-! ## Where the tokens stand -/

theorem byteLength_pos {cs : List Char} (h : cs ≠ []) : 0 < byteLength cs := by
  cases cs with
  | nil => contradiction
  | cons c cs => exact Nat.add_pos_left c.utf8Size_pos _

/-- The end of the last of several tokens, or else `start`. -/
def endOf (start : Nat) (tokens : List Token) : Nat :=
  (tokens.getLast?.map (·.span.stop)).getD start

theorem endOf_cons (start : Nat) (t : Token) (tokens : List Token) :
    endOf start (t :: tokens) = endOf t.span.stop tokens := by
  unfold endOf
  rw [List.getLast?_cons]
  cases tokens.getLast? <;> rfl

namespace Tiling

variable {before cs : List Char} {tokens : List Token}

theorem start_le (h : Tiling before cs tokens) :
    ∀ t ∈ tokens, byteLength before ≤ t.span.start := by
  induction h with
  | finish | fault => simp [Span.single, byteLength_append]
  | more _ _ _ _ ih =>
    refine List.forall_mem_cons.2 ⟨by simp [byteLength_append], fun t ht => ?_⟩
    have hle := ih t ht
    simp only [byteLength_append] at hle
    omega

theorem ordered (h : Tiling before cs tokens) :
    tokens.Pairwise fun a b => a.span.start < b.span.start ∧ a.span.stop ≤ b.span.start := by
  induction h with
  | finish | fault => exact List.pairwise_singleton _ _
  | more _ _ hlexeme htokens ih =>
    refine List.pairwise_cons.2 ⟨fun t ht => ?_, ih⟩
    have hle := htokens.start_le t ht
    have hpos := byteLength_pos hlexeme
    refine ⟨?_, hle⟩
    dsimp only
    rw [byteLength_append] at hle
    omega

theorem placed (h : Tiling before cs tokens) : ∀ t ∈ tokens, t.kind ≠ .finish →
    t.lexeme ≠ "" ∧ ∃ first rest, before ++ cs = first ++ t.lexeme.toList ++ rest
      ∧ t.span = ⟨byteLength first, byteLength (first ++ t.lexeme.toList)⟩ := by
  have hne {lexeme : List Char} (hlexeme : lexeme ≠ []) : String.ofList lexeme ≠ "" := by
    intro heq
    exact hlexeme (by rw [← String.toList_ofList (l := lexeme), heq]; rfl)
  induction h with
  | finish => simp
  | @fault before gap lexeme rest cause _ hlexeme =>
    rintro t ht -
    cases List.mem_singleton.1 ht
    exact ⟨hne hlexeme, before ++ gap, rest, by simp, by simp⟩
  | @more before gap lexeme rest kind tokens _ _ hlexeme _ ih =>
    refine List.forall_mem_cons.2 ⟨fun _ => ?_, fun t ht hkind => ?_⟩
    · exact ⟨hne hlexeme, before ++ gap, rest, by simp, by simp⟩
    · obtain ⟨hnonempty, first, rest', hsplit, hspan⟩ := ih t ht hkind
      exact ⟨hnonempty, first, rest', by rw [← hsplit]; simp, hspan⟩

theorem finished (h : Tiling before cs tokens) : ∀ t ∈ tokens, t.kind = .finish →
    t.lexeme = "" ∧ t.span = .single (byteLength (before ++ cs)) := by
  induction h with
  | finish => simp
  | fault => simp
  | more hkind _ _ _ ih =>
    refine List.forall_mem_cons.2 ⟨fun hfinish => ?_, fun t ht hfinish => ?_⟩
    · dsimp only at hfinish
      rw [hfinish] at hkind
      cases hkind
    · simpa using ih t ht hfinish

theorem ended (h : Tiling before cs tokens) : ∃ body last, tokens = body ++ [last]
    ∧ last.kind.isLast = true ∧ ∀ t ∈ body, t.kind.isLast = false := by
  induction h with
  | finish | fault => exact ⟨[], _, rfl, rfl, List.forall_mem_nil _⟩
  | more hkind _ _ _ ih =>
    obtain ⟨body, last, rfl, hlast, hbody⟩ := ih
    exact ⟨_ :: body, last, rfl, hlast, List.forall_mem_cons.2 ⟨hkind, hbody⟩⟩

theorem gaps (h : Tiling before cs tokens) : ∀ body t after, tokens = body ++ t :: after →
    ∃ first gap rest, before ++ cs = first ++ gap ++ rest
      ∧ byteLength first = endOf (byteLength before) body
      ∧ byteLength (first ++ gap) = t.span.start ∧ Trivia.Maximal gap rest := by
  induction h with
  | @finish before gap hgap =>
    intro body t after htokens
    cases body with
    | nil =>
      cases htokens
      exact ⟨before, gap, [], by simp, rfl, rfl, hgap⟩
    | cons u body => simp at htokens
  | @fault before gap lexeme rest cause hgap _ =>
    intro body t after htokens
    cases body with
    | nil =>
      cases htokens
      exact ⟨before, gap, lexeme ++ rest, by simp, rfl, rfl, hgap⟩
    | cons u body => simp at htokens
  | @more before gap lexeme rest kind tokens _ hgap _ _ ih =>
    intro body t after htokens
    cases body with
    | nil =>
      cases htokens
      exact ⟨before, gap, lexeme ++ rest, by simp, rfl, rfl, hgap⟩
    | cons u body =>
      obtain ⟨rfl, htail⟩ := List.cons.inj htokens
      obtain ⟨first, gap', rest', hsplit, hfirst, hstart, hmaximal⟩ := ih body t after htail
      refine ⟨first, gap', rest', by rw [← hsplit]; simp, ?_, hstart, hmaximal⟩
      rw [endOf_cons]
      exact hfirst

end Tiling

/-- The token stands in the source: its lexeme is the text of its span, which starts and stops
between characters. -/
def Token.StandsIn (source : String) (t : Token) : Prop :=
  ∃ before after, source = before ++ t.lexeme ++ after
    ∧ t.span = ⟨before.utf8ByteSize, (before ++ t.lexeme).utf8ByteSize⟩

/-- The bytes from `start` to `stop` of the source are a maximal run of trivia. -/
def IsGap (source : String) (start stop : Nat) : Prop :=
  ∃ before gap after, source = before ++ gap ++ after
    ∧ before.utf8ByteSize = start ∧ (before ++ gap).utf8ByteSize = stop
    ∧ Trivia.Maximal gap.toList after.toList

/-- The tokens are in order and do not overlap. Each but the end of the source takes at least one
character and stands in the source, the end is behind its last byte, and before each token there is
a maximal run of trivia. The last token, and no other, is the end or a fault. -/
structure Tile (source : String) (tokens : List Token) : Prop where
  ordered : tokens.Pairwise fun a b => a.span.start < b.span.start ∧ a.span.stop ≤ b.span.start
  standing : ∀ t ∈ tokens, t.kind ≠ .finish → t.lexeme ≠ "" ∧ t.StandsIn source
  finished : ∀ t ∈ tokens, t.kind = .finish →
    t.lexeme = "" ∧ t.span = ⟨source.utf8ByteSize, source.utf8ByteSize + 1⟩
  ended : ∃ body last, tokens = body ++ [last]
    ∧ (last.kind = .finish ∨ ∃ cause, last.kind = .fault cause)
    ∧ ∀ t ∈ body, t.kind ≠ .finish ∧ ∀ cause, t.kind ≠ .fault cause
  gaps : ∀ body t after, tokens = body ++ t :: after → IsGap source (endOf 0 body) t.span.start

theorem TokenKind.isLast_iff (kind : TokenKind) :
    kind.isLast = true ↔ kind = .finish ∨ ∃ cause, kind = .fault cause := by
  cases kind <;> simp [isLast]

theorem utf8ByteSize_eq_byteLength (s : String) : s.utf8ByteSize = byteLength s.toList := by
  rw [← utf8ByteSize_ofList, String.ofList_toList]

/-- **The tokens of a source tile it.** -/
theorem tokenize_tiles (source : String) : Tile source (tokenize source) := by
  have htiling : Tiling [] source.toList (tokenize source) :=
    (Cursor.ofSource source).tokens_tiling rfl
  refine ⟨htiling.ordered, fun t ht hkind => ?_, fun t ht hkind => ?_, ?_,
    fun body t after htokens => ?_⟩
  · obtain ⟨hlexeme, first, rest, hsplit, hspan⟩ := htiling.placed t ht hkind
    refine ⟨hlexeme, String.ofList first, String.ofList rest, ?_, ?_⟩
    · rw [← String.toList_inj]
      simpa using hsplit
    · rw [hspan]
      simp [utf8ByteSize_eq_byteLength]
  · rw [utf8ByteSize_eq_byteLength]
    exact htiling.finished t ht hkind
  · obtain ⟨body, last, htokens, hlast, hbody⟩ := htiling.ended
    refine ⟨body, last, htokens, (TokenKind.isLast_iff _).1 hlast, fun t ht => ?_⟩
    have hmore : ¬ (t.kind = .finish ∨ ∃ cause, t.kind = .fault cause) := by
      rw [← TokenKind.isLast_iff, hbody t ht]
      exact Bool.false_ne_true
    exact ⟨fun h => hmore (.inl h), fun cause h => hmore (.inr ⟨cause, h⟩)⟩
  · obtain ⟨first, gap, rest, hsplit, hfirst, hstart, hgap⟩ := htiling.gaps body t after htokens
    refine ⟨String.ofList first, String.ofList gap, String.ofList rest, ?_, ?_, ?_, ?_⟩
    · rw [← String.toList_inj]
      simpa using hsplit
    · rw [utf8ByteSize_ofList]
      exact hfirst
    · simpa [utf8ByteSize_eq_byteLength] using hstart
    · simpa using hgap

end Calculator
