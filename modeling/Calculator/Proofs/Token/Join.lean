import Calculator.Proofs.Shift
import Calculator.Proofs.Token.Loops
import Calculator.Token.Scan

/-!
# Tokens of a text behind another

Two texts with a newline between them: no token and no comment goes across the newline, unless the
first text ends inside a comment from `/*` that is not closed (`endsInComment`). The tokens of the
whole are those of the first text without its end, the newline, and those of the second text further
on (`tokenize_join`).

For that, scanning a token looks at nothing behind a character that no token goes across, such as
the newline (`Token.Stops`, `Token.scan_before`), skipping stops at the newline
(`Cursor.skipTrivia_before`), and where a token stands does not depend on what it is
(`Cursor.tokens_shift`).
-/

namespace Calculator

theorem takeWhile_append_stop {p : Char → Bool} {x : Char} (hx : p x = false) (cs ds : List Char) :
    (cs ++ x :: ds).takeWhile p = cs.takeWhile p := by
  induction cs with
  | nil => simp [hx]
  | cons c cs ih => simp only [List.cons_append, List.takeWhile_cons, ih]

theorem dropWhile_append_stop {p : Char → Bool} {x : Char} (hx : p x = false) (cs ds : List Char) :
    (cs ++ x :: ds).dropWhile p = cs.dropWhile p ++ x :: ds := by
  induction cs with
  | nil => simp [hx]
  | cons c cs ih =>
    simp only [List.cons_append, List.dropWhile_cons, ih]
    split <;> rfl

theorem append_ne_cons {a x : Char} (ha : a ≠ x) {cs : List Char} (h : ∀ rest, cs ≠ a :: rest)
    (ds rest : List Char) : cs ++ x :: ds ≠ a :: rest := by
  intro heq
  cases cs with
  | nil => exact ha (List.cons.inj heq).1.symm
  | cons c cs => exact h cs (by rw [(List.cons.inj heq).1])

/-- A character completes no pair of others. -/
theorem append_ne_pair {a b x : Char} (ha : a ≠ x) (hb : b ≠ x) {cs : List Char}
    (h : ∀ rest, cs ≠ a :: b :: rest) (ds rest : List Char) :
    cs ++ x :: ds ≠ a :: b :: rest := by
  intro heq
  cases cs with
  | nil => exact ha (List.cons.inj heq).1.symm
  | cons c cs =>
    obtain ⟨rfl, hrest⟩ := List.cons.inj heq
    exact append_ne_cons hb (fun rest hcs => h rest (by rw [hcs])) ds rest hrest

theorem byteLength_append (cs ds : List Char) :
    byteLength (cs ++ ds) = byteLength cs + byteLength ds := by
  induction cs with
  | nil => simp [byteLength]
  | cons c cs ih => rw [List.cons_append, byteLength, byteLength, ih, Nat.add_assoc]

/-- The newline at a place. -/
def newlineAt (position : Nat) : Token := ⟨.newline, "\n", .single position⟩

/-! ## One token -/

namespace Token

/-- The character ends every number and every name: it is no part of one. -/
structure Stops (x : Char) : Prop where
  word : isWordChar x = false
  point : x ≠ '.'

theorem stops_newline : Stops '\n' := ⟨by decide, by decide⟩

namespace Stops

variable {x : Char}

theorem digit (h : Stops x) : Char.isDigit x = false := by
  have hword := h.word
  simp only [isWordChar, Char.isAlphanum, Bool.or_eq_false_iff] at hword
  exact hword.1.2

theorem ne (h : Stops x) {c : Char} (hc : isWordChar c = true) : c ≠ x := by
  rintro rfl
  rw [h.word] at hc
  cases hc

end Stops

/-- The same token, with more text behind it. -/
def Scanned.before (scanned : Scanned) (ds : List Char) : Scanned :=
  { scanned with rest := scanned.rest ++ ds }

/-- A text that is closed does not go beyond its end. -/
theorem scanText_before {content : List Char} {length : Nat} {taken cs : List Char}
    (ds : List Char) (h : (scanText content length taken cs).kind.isLast = false) :
    scanText content length taken (cs ++ ds) = (scanText content length taken cs).before ds := by
  fun_induction scanText content length taken cs with
  | case1 => cases h
  | case2 => rfl
  | case3 => cases h
  | case4 => cases h
  | case5 content length taken c cs read length' taken' hlength ih =>
    rw [← ih h]
    simp only [List.cons_append, scanText]
    rw [if_neg hlength]
  | case6 => cases h
  | case7 content length taken c cs hquote hslash hescape length' taken' hlength ih =>
    have hc : c ≠ '\\' := by
      intro hc
      cases cs with
      | nil => exact hslash hc rfl
      | cons d cs => exact hescape d cs hc rfl
    rw [← ih h, List.cons_append, scanText]
    · rw [if_neg hlength]
    · exact hquote
    · exact fun h _ => hc h
    · exact fun _ _ h _ => hc h

section

variable {x : Char} (hx : Stops x) (cs ds : List Char)

include hx

theorem scanRadix_before (radix : Radix) (mark : List Char) :
    scanRadix radix mark (cs ++ x :: ds) = (scanRadix radix mark cs).before (x :: ds) := by
  simp only [scanRadix_eq, Scanned.before, takeWhile_append_stop hx.word,
    dropWhile_append_stop hx.word]

theorem scanDecimal_before :
    scanDecimal (cs ++ x :: ds) = (scanDecimal cs).before (x :: ds) := by
  have hstop := hx.digit
  simp only [scanDecimal, takeWhile_append_stop hstop, dropWhile_append_stop hstop]
  cases hrest : cs.dropWhile Char.isDigit with
  | nil => simp [hx.point, Scanned.before]
  | cons c rest =>
    by_cases hpoint : c = '.'
    · subst hpoint
      simp only [List.cons_append, takeWhile_append_stop hstop, dropWhile_append_stop hstop]
      split <;> rfl
    · simp [hpoint, Scanned.before]

theorem scanNumber_before :
    scanNumber (cs ++ x :: ds) = (scanNumber cs).before (x :: ds) := by
  fun_cases scanNumber cs with
  | case1 cs => exact scanRadix_before hx cs ds _ _
  | case2 cs => exact scanRadix_before hx cs ds _ _
  | case3 cs => exact scanRadix_before hx cs ds _ _
  | case4 cs => exact scanRadix_before hx cs ds _ _
  | case5 _ hx₁ hX hb hB =>
    have hzero : '0' ≠ x := hx.ne (by decide)
    rw [← scanDecimal_before hx, scanNumber]
    · exact append_ne_pair hzero (hx.ne (by decide)) hx₁ ds
    · exact append_ne_pair hzero (hx.ne (by decide)) hX ds
    · exact append_ne_pair hzero (hx.ne (by decide)) hb ds
    · exact append_ne_pair hzero (hx.ne (by decide)) hB ds

/-- A token is read without looking behind a character that stops it. -/
theorem scan_before {cs : List Char} (h : (scan cs).kind.isLast = false) :
    scan (cs ++ x :: ds) = (scan cs).before (x :: ds) := by
  revert h
  fun_cases scan cs
  case case1 =>
    intro h
    cases h
  case case15 cs => exact scanText_before (x :: ds)
  case case16 c cs _ _ _ _ _ _ _ _ _ _ _ _ _ _ hdigit =>
    intro _
    rw [List.cons_append, scan, if_pos hdigit]
    · exact scanNumber_before hx (c :: cs) ds
    all_goals assumption
  case case17 c cs _ _ _ _ _ _ _ _ _ _ _ _ _ _ hdigit hword _ =>
    intro _
    rw [List.cons_append, scan, if_neg hdigit, if_pos hword]
    · simp only [takeWhile_append_stop hx.word, dropWhile_append_stop hx.word]
      rfl
    all_goals assumption
  case case18 =>
    intro h
    cases h
  all_goals
    intro _
    rfl

end

theorem scanText_ne_finish (content : List Char) (length : Nat) (taken cs : List Char) :
    (scanText content length taken cs).kind ≠ .finish := by
  fun_induction scanText content length taken cs <;> simp_all

theorem scanRadix_ne_finish (radix : Radix) (mark cs : List Char) :
    (scanRadix radix mark cs).kind ≠ .finish := by
  simp only [scanRadix]
  split <;> simp

theorem scanDecimal_ne_finish (cs : List Char) : (scanDecimal cs).kind ≠ .finish := by
  simp only [scanDecimal]
  split
  · split <;> simp
  · simp

theorem scanNumber_ne_finish (cs : List Char) : (scanNumber cs).kind ≠ .finish := by
  unfold scanNumber
  split
  · exact scanRadix_ne_finish _ _ _
  · exact scanRadix_ne_finish _ _ _
  · exact scanRadix_ne_finish _ _ _
  · exact scanRadix_ne_finish _ _ _
  · exact scanDecimal_ne_finish _

/-- Only where there is no text is its end. -/
theorem eq_nil_of_scan_finish {cs : List Char} (h : (scan cs).kind = .finish) : cs = [] := by
  revert h
  unfold scan
  split
  case h_1 => intro _; rfl
  case h_15 => intro h; exact absurd h (scanText_ne_finish _ _ _ _)
  case h_16 =>
    split
    · intro h; exact absurd h (scanNumber_ne_finish _)
    · split
      · simp only [nameKind]
        split <;> simp
      · simp
  all_goals simp

end Token

/-! ## Between tokens -/

namespace Cursor

/-- The cursor with more text behind what is left. -/
def before (cursor : Cursor) (ds : List Char) : Cursor :=
  { cursor with rest := cursor.rest ++ ds }

mutual

/-- What may be skipped at the head of the text goes into a comment that is not closed. -/
def opensComment : List Char → Bool
  | ' ' :: cs | '\t' :: cs | '\r' :: cs => opensComment cs
  | '#' :: _ | '/' :: '/' :: _ => false
  | '/' :: '*' :: cs => staysOpen cs
  | _ => false

/-- The comment that the text starts in is not closed, or another one after it is not. -/
def staysOpen : List Char → Bool
  | [] => true
  | '*' :: '/' :: cs => opensComment cs
  | _ :: cs => staysOpen cs

end

variable (ds : List Char)

theorem skipLine_before (offset : Nat) (cs : List Char) :
    skipLine offset (cs ++ '\n' :: ds) = (skipLine offset cs).before ('\n' :: ds) := by
  have hstop : (fun c : Char => decide (c ≠ '\n')) '\n' = false := by decide
  rw [skipLine, takeWhile_append_stop hstop, dropWhile_append_stop hstop]
  rfl

mutual

/-- Skipping stops before the newline, unless a comment is open there. -/
theorem skipTrivia_before (offset : Nat) (cs : List Char) (h : opensComment cs = false) :
    skipTrivia offset (cs ++ '\n' :: ds) = (skipTrivia offset cs).before ('\n' :: ds) := by
  unfold opensComment at h
  split at h
  case h_1 cs | h_2 cs | h_3 cs => exact skipTrivia_before (offset + 1) cs h
  case h_4 cs => exact skipLine_before ds (offset + 1) cs
  case h_5 cs => exact skipLine_before ds (offset + 2) cs
  case h_6 cs => exact skipBlock_before (offset + 2) cs h
  case h_7 hspace htab hreturn hhash hline hblock =>
    rw [skipTrivia.eq_7 offset cs hspace htab hreturn hhash hline hblock, skipTrivia]
    · rfl
    · exact append_ne_cons (by decide) hspace ds
    · exact append_ne_cons (by decide) htab ds
    · exact append_ne_cons (by decide) hreturn ds
    · exact append_ne_cons (by decide) hhash ds
    · exact append_ne_pair (by decide) (by decide) hline ds
    · exact append_ne_pair (by decide) (by decide) hblock ds

theorem skipBlock_before (offset : Nat) (cs : List Char) (h : staysOpen cs = false) :
    skipBlock offset (cs ++ '\n' :: ds) = (skipBlock offset cs).before ('\n' :: ds) := by
  unfold staysOpen at h
  split at h
  case h_1 => cases h
  case h_2 cs => exact skipTrivia_before (offset + 2) cs h
  case h_3 c cs hclose =>
    rw [skipBlock.eq_3 offset c cs hclose, ← skipBlock_before (offset + c.utf8Size) cs h,
      List.cons_append, skipBlock]
    intro rest hstar
    exact append_ne_cons (by decide) (fun rest => hclose rest hstar) ds rest

end

mutual

theorem rest_skipTrivia (offset : Nat) (cs : List Char) (h : opensComment cs = true) :
    (skipTrivia offset cs).rest = [] := by
  unfold opensComment at h
  split at h
  case h_1 cs | h_2 cs | h_3 cs => exact rest_skipTrivia (offset + 1) cs h
  case h_6 cs => exact rest_skipBlock (offset + 2) cs h
  all_goals cases h

theorem rest_skipBlock (offset : Nat) (cs : List Char) (h : staysOpen cs = true) :
    (skipBlock offset cs).rest = [] := by
  unfold staysOpen at h
  split at h
  case h_1 => rfl
  case h_2 cs => exact rest_skipTrivia (offset + 2) cs h
  case h_3 c cs hclose =>
    rw [skipBlock.eq_3 offset c cs hclose]
    exact rest_skipBlock (offset + c.utf8Size) cs h

end

/-! ## Further on -/

/-- The cursor `k` bytes further on, before the same text. -/
def shift (k : Nat) (cursor : Cursor) : Cursor := ⟨cursor.offset + k, cursor.rest⟩

theorem skipLine_shift (k offset : Nat) (cs : List Char) :
    skipLine (offset + k) cs = (skipLine offset cs).shift k := by
  simp only [skipLine, shift, Nat.add_right_comm]

mutual

theorem skipTrivia_shift (k offset : Nat) (cs : List Char) :
    skipTrivia (offset + k) cs = (skipTrivia offset cs).shift k := by
  unfold skipTrivia
  split
  case h_1 | h_2 | h_3 => rw [Nat.add_right_comm]; exact skipTrivia_shift k (offset + 1) _
  case h_4 => rw [Nat.add_right_comm]; exact skipLine_shift k (offset + 1) _
  case h_5 => rw [Nat.add_right_comm]; exact skipLine_shift k (offset + 2) _
  case h_6 => rw [Nat.add_right_comm]; exact skipBlock_shift k (offset + 2) _
  case h_7 => rfl

theorem skipBlock_shift (k offset : Nat) (cs : List Char) :
    skipBlock (offset + k) cs = (skipBlock offset cs).shift k := by
  unfold skipBlock
  split
  case h_1 => rfl
  case h_2 => rw [Nat.add_right_comm]; exact skipTrivia_shift k (offset + 2) _
  case h_3 => rw [Nat.add_right_comm]; exact skipBlock_shift k _ _

end

/-! ## Tokens in turn -/

theorem tokens_of_last {cursor : Cursor} (h : cursor.next.1.kind.isLast = true) :
    cursor.tokens = [cursor.next.1] := by
  rw [tokens, dif_pos h]

theorem tokens_of_more {cursor : Cursor} (h : cursor.next.1.kind.isLast = false) :
    cursor.tokens = cursor.next.1 :: cursor.next.2.tokens := by
  rw [tokens, dif_neg (by simp [h])]

/-- Reads a token where one starts. -/
def readAt (start : Cursor) : Token × Cursor :=
  let scanned := Token.scan start.rest
  let stop := start.offset + byteLength scanned.lexeme
  let span := if scanned.lexeme.isEmpty then .single start.offset else ⟨start.offset, stop⟩
  (⟨scanned.kind, String.ofList scanned.lexeme, span⟩, ⟨stop, scanned.rest⟩)

theorem next_eq_readAt (cursor : Cursor) :
    cursor.next = readAt (skipTrivia cursor.offset cursor.rest) := rfl

theorem readAt_shift (k : Nat) (start : Cursor) :
    readAt (start.shift k) = ((readAt start).1.shift k, (readAt start).2.shift k) := by
  simp only [readAt, shift, Token.shift, apply_ite (Span.shift k), Span.shift_single]
  simp only [Span.shift, Nat.add_right_comm]
  rfl

theorem next_shift (k : Nat) (cursor : Cursor) :
    (cursor.shift k).next = (cursor.next.1.shift k, cursor.next.2.shift k) := by
  rw [next_eq_readAt, next_eq_readAt, ← readAt_shift, ← skipTrivia_shift]
  rfl

/-- The tokens of a text that stands further on are the same, further on. -/
theorem tokens_shift (k : Nat) (cursor : Cursor) :
    (cursor.shift k).tokens = cursor.tokens.map (Token.shift k) := by
  fun_induction tokens cursor with
  | case1 cursor hlast =>
    rw [tokens_of_last (by rw [next_shift]; exact hlast), next_shift]
    rfl
  | case2 cursor hlast ih =>
    rw [tokens_of_more (by rw [next_shift]; exact Bool.eq_false_iff.2 hlast), next_shift, ih]
    rfl

/-- A token that is not the last is read as if nothing followed the text. -/
theorem next_before {cursor : Cursor} (h : cursor.next.1.kind.isLast = false) :
    (cursor.before ('\n' :: ds)).next = (cursor.next.1, cursor.next.2.before ('\n' :: ds)) := by
  have hopen : opensComment cursor.rest = false := by
    cases hopen : opensComment cursor.rest with
    | false => rfl
    | true =>
      rw [next_eq_readAt, readAt, rest_skipTrivia _ _ hopen] at h
      cases h
  have hscan : (Token.scan (skipTrivia cursor.offset cursor.rest).rest).kind.isLast = false := h
  have hskip : skipTrivia (cursor.before ('\n' :: ds)).offset (cursor.before ('\n' :: ds)).rest
      = (skipTrivia cursor.offset cursor.rest).before ('\n' :: ds) :=
    skipTrivia_before ds _ _ hopen
  rw [next_eq_readAt, next_eq_readAt, hskip]
  generalize skipTrivia cursor.offset cursor.rest = start at hscan
  rw [readAt, before, Token.scan_before Token.stops_newline ds hscan]
  rfl

/-- At the end of a text that is not in a comment the newline is read. -/
theorem next_before_of_finish {cursor : Cursor} (h : cursor.next.1.kind = .finish)
    (hopen : opensComment cursor.rest = false) :
    (cursor.before ('\n' :: ds)).next
      = (newlineAt (cursor.offset + byteLength cursor.rest),
          ⟨cursor.offset + byteLength cursor.rest + 1, ds⟩) := by
  obtain ⟨passed, hpassed, hoffset⟩ := skipTrivia_spec cursor.offset cursor.rest
  have hrest : (skipTrivia cursor.offset cursor.rest).rest = [] := Token.eq_nil_of_scan_finish h
  rw [hrest, List.append_nil] at hpassed
  have hskip : skipTrivia (cursor.before ('\n' :: ds)).offset (cursor.before ('\n' :: ds)).rest
      = ⟨cursor.offset + byteLength cursor.rest, '\n' :: ds⟩ := by
    refine (skipTrivia_before ds cursor.offset cursor.rest hopen).trans ?_
    rw [before, hrest, hoffset, ← hpassed]
    rfl
  rw [next_eq_readAt, hskip]
  rfl

/-- The text ends inside a comment from `/*` that is not closed. -/
def endsInComment (cursor : Cursor) : Bool :=
  if _ : cursor.next.1.kind.isLast then opensComment cursor.rest
  else endsInComment cursor.next.2
termination_by cursor.rest.length
decreasing_by exact next_rest_lt cursor (by simp_all)

/-- The end of the text stays where it is. -/
theorem end_next (cursor : Cursor) :
    cursor.next.2.offset + byteLength cursor.next.2.rest
      = cursor.offset + byteLength cursor.rest := by
  obtain ⟨passed, hpassed, hoffset⟩ := skipTrivia_spec cursor.offset cursor.rest
  have hskipped := congrArg byteLength hpassed
  have hscanned := congrArg byteLength
    (Token.scan_append (skipTrivia cursor.offset cursor.rest).rest)
  rw [byteLength_append] at hskipped hscanned
  simp only [next]
  omega

/-- **No token and no comment goes across the newline.** -/
theorem tokens_before {cursor : Cursor} {body : List Token} {finish : Token}
    (htokens : cursor.tokens = body ++ [finish]) (hfinish : finish.kind = .finish)
    (hopen : cursor.endsInComment = false) :
    (cursor.before ('\n' :: ds)).tokens
      = body ++ newlineAt (cursor.offset + byteLength cursor.rest)
          :: tokens ⟨cursor.offset + byteLength cursor.rest + 1, ds⟩ := by
  fun_induction endsInComment cursor generalizing body with
  | case1 cursor hlast =>
    rw [tokens_of_last hlast] at htokens
    have hsplit : [] ++ [cursor.next.1] = body ++ [finish] := htokens
    obtain ⟨rfl, hnext⟩ := List.append_inj' hsplit rfl
    cases hnext
    have hnewline := next_before_of_finish ds hfinish hopen
    rw [tokens_of_more (by rw [hnewline]; rfl), hnewline]
    rfl
  | case2 cursor hlast ih =>
    have hmore := Bool.eq_false_iff.2 hlast
    rw [tokens_of_more hmore] at htokens
    cases body with
    | nil =>
      obtain ⟨hnext, -⟩ := List.cons.inj htokens
      rw [hnext, hfinish] at hmore
      cases hmore
    | cons t body =>
      obtain ⟨rfl, hrest⟩ := List.cons.inj htokens
      have hbefore := next_before ds hmore
      rw [tokens_of_more (by rw [hbefore]; exact hmore), hbefore, ih hrest hopen, end_next]
      rfl

end Cursor

/-- The source ends inside a comment from `/*` that is not closed. -/
def endsInComment (source : String) : Bool := (Cursor.ofSource source).endsInComment

example : endsInComment "1 /* a */ /* b" = true := by decide +kernel

example : endsInComment "\"/*\" # /*" = false := by decide +kernel

theorem utf8ByteSize_ofList (cs : List Char) :
    (String.ofList cs).utf8ByteSize = byteLength cs := by
  induction cs with
  | nil => rfl
  | cons c cs ih =>
    have hcons : String.ofList (c :: cs) = String.singleton c ++ String.ofList cs := by
      rw [← String.toList_inj]
      simp
    rw [hcons, String.utf8ByteSize_append, String.utf8ByteSize_singleton, ih, byteLength]

/-- The tokens of two sources with a newline between them. -/
theorem tokenize_join {a b : String} {body : List Token} {finish : Token}
    (htokens : tokenize a = body ++ [finish]) (hfinish : finish.kind = .finish)
    (hopen : endsInComment a = false) :
    tokenize (a ++ "\n" ++ b)
      = body ++ newlineAt a.utf8ByteSize
          :: (tokenize b).map (Token.shift (a.utf8ByteSize + 1)) := by
  have hjoin := Cursor.tokens_before b.toList htokens hfinish hopen
  have hsource : Cursor.ofSource (a ++ "\n" ++ b)
      = (Cursor.ofSource a).before ('\n' :: b.toList) := by
    simp [Cursor.ofSource, Cursor.before]
  have hsize : (Cursor.ofSource a).offset + byteLength (Cursor.ofSource a).rest
      = a.utf8ByteSize := by
    rw [Cursor.ofSource, Nat.zero_add, ← utf8ByteSize_ofList, String.ofList_toList]
  have hsecond : (⟨a.utf8ByteSize + 1, b.toList⟩ : Cursor)
      = (Cursor.ofSource b).shift (a.utf8ByteSize + 1) := by
    rw [Cursor.ofSource, Cursor.shift, Nat.zero_add]
  rw [tokenize, hsource, hjoin, hsize, hsecond, Cursor.tokens_shift]
  rfl

end Calculator
