import Calculator.Proofs.Parse.Refinement

/-!
# The parser one move at a time

The rules of the parser call each other and come to a result all at once. Here is the same parser as
a machine that makes one move in a step: it advances by a token, goes back to a checkpoint, opens a
level or gives levels back. What is still to be done when a called rule returns stands on a stack of
frames.

A level is charged in two ways. `nested` charges one and gives it back when what it calls returns; a
chain charges one for each of its operators and gives back all of them at its end. Both remember the
count of open levels from before and write it back, in success and in failure. `State.charges`
counts the charges themselves, and the count that the parser keeps is always theirs
(`State.Balanced`).

Every step consumes input or has less left to do (`State.measure`), going back included: the tokens
that are ahead at an identifier which may be assigned to are those from the identifier on.
-/

namespace Calculator.Machine

open Calculator.Parser (Checkpoint Tier tooDeep)

/-! ## States -/

/-- What is called one level deeper. -/
inductive Inner where
  | assignment
  | power
  | atom

/-- What the parser does next. -/
inductive Point where
  | nested (inner : Inner)
  | assignment
  /-- Behind an identifier: an assignment follows, or the identifier is read again. -/
  | target (name : String) (span : Span) (back : Checkpoint)
  | chain (tier : Tier)
  /-- Behind an operand of a chain that began at `depth` and has charged for `count` operators. -/
  | tail (tier : Tier) (left : Expr) (depth count : Nat)
  /-- Behind an operator of a chain, before it is charged for. -/
  | operator (tier : Tier) (op : BinaryOp) (left : Expr) (span : Span) (depth count : Nat)
  | factor
  | power
  | atom
  | functionCall (name : String) (span : Span)
  /-- Behind the name of a function. -/
  | opening (name : String) (span : Span)
  /-- Behind the parenthesis that opens a list of arguments. -/
  | listed (name : String) (span : Span)
  | argument (name : String) (span : Span) (read : List Expr)
  | closing (name : String) (span : Span) (read : List Expr)
  | statements (read : List Expr)
  | separators (read : List Expr)
  | finish (read : List Expr)

namespace Point

/-- An expression is an assignment or a sum, one level deeper. -/
@[simp]
def expression : Point := .nested .assignment

@[simp]
def inner : Inner → Point
  | .assignment => .assignment
  | .power => .power
  | .atom => .atom

/-- What the operators of a tier stand between. -/
@[simp]
def operand : Tier → Point
  | .sum => .chain .product
  | .product => .factor

end Point

/-- What waits for a result. -/
inductive Frame where
  | nested (depth : Nat)
  | assigned (name : String) (span : Span)
  | first (tier : Tier) (depth : Nat)
  | next (tier : Tier) (op : BinaryOp) (left : Expr) (depth count : Nat)
  | factor
  | power
  | raised (base : Expr)
  | group
  | negated (span : Span)
  | argument (name : String) (span : Span) (read : List Expr)
  | statement (read : List Expr)

/-- A state of the machine. -/
inductive State where
  | reading (point : Point) (parser : Parser) (stack : List Frame)
  | returning (result : Except Fault Expr) (parser : Parser) (stack : List Frame)

/-! ## Steps -/

/-- The step from a point. -/
def Point.step (p : Parser) (stack : List Frame) : Point → State
  | .nested inner =>
    if p.depth < maxNesting then
      .reading (.inner inner) (p.withDepth (p.depth + 1)) (.nested p.depth :: stack)
    else .returning (.error (tooDeep p.current.span)) p stack
  | .assignment =>
    match p.current.kind with
    | .identifier name => .reading (.target name p.current.span p.checkpoint) p.advance stack
    | _ => .reading (.chain .sum) p stack
  | .target name span back =>
    if p.current.kind = .equal then .reading .expression p.advance (.assigned name span :: stack)
    else .reading (.chain .sum) (p.restore back) stack
  | .chain tier => .reading (.operand tier) p (.first tier p.depth :: stack)
  | .tail tier left depth count =>
    match tier.op? p.current.kind with
    | some op => .reading (.operator tier op left p.current.span depth count) p.advance stack
    | none => .returning (.ok left) (p.withDepth depth) stack
  | .operator tier op left span depth count =>
    if p.depth < maxNesting then
      .reading (.operand tier) (p.withDepth (p.depth + 1))
        (.next tier op left depth (count + 1) :: stack)
    else .returning (.error (tooDeep span)) (p.withDepth depth) stack
  | .factor => .reading .power p (.factor :: stack)
  | .power => .reading .atom p (.power :: stack)
  | .atom =>
    match p.current.kind with
    | .number value => .returning (.ok (.number value p.current.span)) p.advance stack
    | .text value => .returning (.ok (.text value p.current.span)) p.advance stack
    | .identifier id =>
      if p.advance.current.kind = .opening then
        .returning (.error { cause := .unknownFunction id, span := p.current.span }) p.advance stack
      else .returning (.ok (.name id p.current.span)) p.advance stack
    | .function name => .reading (.functionCall name p.current.span) p stack
    | .opening => .reading .expression p.advance (.group :: stack)
    | .minus => .reading (.nested .atom) p.advance (.negated p.current.span :: stack)
    | .fault cause => .returning (.error { cause, span := p.current.span }) p stack
    | .finish =>
      .returning (.error { cause := .unexpectedEnd, span := .single p.previousEnd }) p stack
    | .newline | .semicolon =>
      .returning (.error { cause := .invalidExpression, span := p.current.span }) p stack
    | _ =>
      .returning (.error { cause := .unexpectedToken p.current.lexeme, span := p.current.span }) p
        stack
  | .functionCall name span => .reading (.opening name span) p.advance stack
  | .opening name span =>
    if p.current.kind = .opening then .reading (.listed name span) p.advance stack
    else .returning (.error (p.missing (.missingOpeningAfter name))) p stack
  | .listed name span =>
    if p.current.kind = .closing then .reading (.closing name span []) p stack
    else .reading (.argument name span []) p stack
  | .argument name span read => .reading .expression p (.argument name span read :: stack)
  | .closing name span read =>
    if p.current.kind = .closing then
      let whole := span.cover p.current.span
      match Builtin.find? name with
      | some builtin =>
        if builtin.arity.accepts read.length then
          .returning (.ok (.call name read whole)) p.advance stack
        else
          .returning (.error { cause := .wrongArgumentCount name builtin.arity, span := whole })
            p.advance stack
      | none => .returning (.ok (.call name read whole)) p.advance stack
    else .returning (.error (p.missing (.missingClosingAfterArguments name))) p stack
  | .statements read => .reading (.separators read) p stack
  | .separators read =>
    if p.current.kind.isSeparator then .reading (.separators read) p.advance stack
    else if p.current.kind = .finish then .reading (.finish read) p stack
    else .reading .expression p (.statement read :: stack)
  | .finish read =>
    match p.endFault? with
    | some fault => .returning (.error fault) p stack
    | none => .returning (.ok (.ofStatements read)) p stack

namespace Frame

/-- The count of open levels that a frame writes back. -/
@[simp]
def saved? : Frame → Option Nat
  | .nested depth | .first _ depth | .next _ _ _ depth _ => some depth
  | _ => none

/-- Where a failure leaves the parser that passes through the frame. -/
def fail (p : Parser) (frame : Frame) : Parser :=
  match frame.saved? with
  | some depth => p.withDepth depth
  | none => p

/-- How the frame goes on with a tree. -/
def proceed (e : Expr) (p : Parser) (stack : List Frame) : Frame → State
  | .nested depth => .returning (.ok e) (p.withDepth depth) stack
  | .assigned name span => .returning (.ok (.assign name e (span.cover e.span))) p stack
  | .first tier depth => .reading (.tail tier e depth 0) p stack
  | .next tier op left depth count =>
    .reading (.tail tier (.binary op left e (left.span.cover e.span)) depth count) p stack
  | .factor =>
    if p.current.kind = .bang then
      .returning (.ok (.unary .factorial e (e.span.cover p.current.span))) p.advance stack
    else .returning (.ok e) p stack
  | .power =>
    if p.current.kind = .caret then .reading (.nested .power) p.advance (.raised e :: stack)
    else .returning (.ok e) p stack
  | .raised base => .returning (.ok (.binary .power base e (base.span.cover e.span))) p stack
  | .group =>
    if p.current.kind = .closing then .returning (.ok e) p.advance stack
    else
      .returning (.error { p.missing .missingClosing with advice := some .matchingParentheses }) p
        stack
  | .negated span => .returning (.ok (.unary .negate e (span.cover e.span))) p stack
  | .argument name span read =>
    if p.current.kind = .comma then .reading (.argument name span (read ++ [e])) p.advance stack
    else .reading (.closing name span (read ++ [e])) p stack
  | .statement read =>
    if p.current.kind.isSeparator then .reading (.statements (read ++ [e])) p.advance stack
    else .reading (.finish (read ++ [e])) p stack

end Frame

namespace State

/-- One step; none if the result has been returned to nothing that waits for it. -/
def step : State → Option State
  | .reading point p stack => some (point.step p stack)
  | .returning _ _ [] => none
  | .returning (.ok e) p (frame :: stack) => some (frame.proceed e p stack)
  | .returning (.error fault) p (frame :: stack) =>
    some (.returning (.error fault) (frame.fail p) stack)

/-- Any number of steps. -/
abbrev Run : State → State → Prop := Relation.ReflTransGen fun s t => s.step = some t

@[simp]
def parser : State → Parser
  | .reading _ p _ | .returning _ p _ => p

@[simp]
def stack : State → List Frame
  | .reading _ _ stack | .returning _ _ stack => stack

end State

/-! ## Charges -/

/-- The levels that are charged where the parser is within a rule. -/
@[simp]
def Point.charges : Point → Nat
  | .tail _ _ _ count | .operator _ _ _ _ _ count => count
  | _ => 0

/-- The levels that a rule has charged which waits for a result. -/
@[simp]
def Frame.charges : Frame → Nat
  | .nested _ => 1
  | .next _ _ _ _ count => count
  | _ => 0

@[simp]
def stackCharges : List Frame → Nat
  | [] => 0
  | frame :: stack => stackCharges stack + frame.charges

/-- The levels that are charged and not given back. -/
@[simp]
def State.charges : State → Nat
  | .reading point _ stack => stackCharges stack + point.charges
  | .returning _ _ stack => stackCharges stack

/-- What the frames write back is the count from before their charges, when `base` levels are open
below the stack. -/
@[simp]
def SavedAll (base : Nat) : List Frame → Prop
  | [] => True
  | frame :: stack =>
    (∀ depth ∈ frame.saved?, depth = base + stackCharges stack) ∧ SavedAll base stack

/-- What a point has to know: the count to write back, or the way back to an identifier. -/
@[simp]
def Point.Fits (base : Nat) (p : Parser) (stack : List Frame) : Point → Prop
  | .tail _ _ depth _ | .operator _ _ _ _ depth _ => depth = base + stackCharges stack
  | .target _ _ back => p.tokens <:+ (p.restore back).tokens
  | _ => True

namespace State

@[simp]
def Fits (base : Nat) : State → Prop
  | .reading point p stack => point.Fits base p stack
  | .returning .. => True

/-- The parser's count is that of the open charges, and so is every count to be written back. -/
structure Balanced (base : Nat) (s : State) : Prop where
  depth : s.parser.depth = base + s.charges
  bounded : s.parser.depth ≤ maxNesting
  saved : SavedAll base s.stack
  fits : s.Fits base

/-! ## What is left to do -/

/-- The tokens that are still to be read, and those that will be read again. -/
@[simp]
def ahead : State → List Token
  | .reading (.target _ _ back) p _ => (p.restore back).tokens
  | .reading _ p _ | .returning _ p _ => p.tokens

end State

/-- A bound on the steps from a point until it returns or a token is read. -/
@[simp]
def Point.weight : Point → Nat
  | .tail .. | .opening .. | .closing .. | .finish _ => 1
  | .functionCall .. => 2
  | .atom => 3
  | .power => 5
  | .factor => 7
  | .chain .product | .operator .product .. => 10
  | .chain .sum | .operator .sum .. => 13
  | .target .. => 14
  | .assignment => 15
  | .nested .assignment => 17
  | .nested .power => 7
  | .nested .atom => 5
  | .argument .. | .separators _ => 20
  | .listed .. | .statements _ => 21

@[simp]
def Frame.weight : Frame → Nat
  | .first .. | .next .. | .argument .. | .statement _ => 2
  | _ => 1

@[simp]
def stackWeight : List Frame → Nat
  | [] => 0
  | frame :: stack => stackWeight stack + frame.weight

namespace State

@[simp]
def weight : State → Nat
  | .reading point _ stack => stackWeight stack + point.weight
  | .returning _ _ stack => stackWeight stack

/-- Bounds the steps that are left. -/
def measure (s : State) : Nat := 21 * s.ahead.length + s.weight

/-- What every step keeps, and what it uses up. -/
structure Moves (base : Nat) (s t : State) : Prop where
  balanced : t.Balanced base
  ahead : t.ahead <:+ s.ahead
  measure : t.measure < s.measure

theorem Balanced.tokens_suffix {base : Nat} {s : State} (h : s.Balanced base) :
    s.parser.tokens <:+ s.ahead := by
  obtain ⟨-, -, -, hfits⟩ := h
  match s with
  | .returning .. => exact List.suffix_rfl
  | .reading point p stack =>
    cases point with
    | target => exact hfits
    | _ => exact List.suffix_rfl

/-! ## Moves -/

section

variable {base : Nat} {s t : State} (hs : s.Balanced base) (hsaved : SavedAll base t.stack)
  (hfits : t.Fits base)

include hs hsaved hfits

/-- The parser may go anywhere, if nothing more is ahead there. -/
theorem Balanced.keep (hdepth : t.parser.depth = s.parser.depth) (hahead : t.ahead <:+ s.ahead)
    (hcharges : t.charges = s.charges) (hweight : t.weight < s.weight) : Moves base s t where
  balanced := by
    refine ⟨?_, ?_, hsaved, hfits⟩
    · rw [hdepth, hcharges, hs.depth]
    · rw [hdepth]
      exact hs.bounded
  ahead := hahead
  measure := by
    have hle := hahead.length_le
    rw [measure, measure]
    omega

/-- The parser advances by a token. -/
theorem Balanced.consume (hlast : s.parser.current.kind.isLast = false)
    (hparser : t.parser = s.parser.advance) (hahead : t.ahead = s.parser.advance.tokens)
    (hcharges : t.charges = s.charges) (hweight : t.weight < s.weight + 21) : Moves base s t where
  balanced := by
    refine ⟨?_, ?_, hsaved, hfits⟩
    · rw [hparser, Parser.depth_advance, hcharges, hs.depth]
    · rw [hparser, Parser.depth_advance]
      exact hs.bounded
  ahead := by
    rw [hahead]
    exact s.parser.tokens_advance_suffix.trans hs.tokens_suffix
  measure := by
    have hless := Parser.length_tokens_advance_lt hlast
    have hle := hs.tokens_suffix.length_le
    rw [measure, measure, hahead]
    omega

/-- The parser opens a level. -/
theorem Balanced.charge (hfree : s.parser.depth < maxNesting)
    (hparser : t.parser = s.parser.withDepth (s.parser.depth + 1)) (hahead : t.ahead = s.ahead)
    (hcharges : t.charges = s.charges + 1) (hweight : t.weight < s.weight) : Moves base s t where
  balanced := by
    refine ⟨?_, ?_, hsaved, hfits⟩
    · rw [hparser, Parser.depth_withDepth, hcharges, hs.depth, Nat.add_assoc]
    · rw [hparser, Parser.depth_withDepth]
      exact hfree
  ahead := hahead ▸ List.suffix_rfl
  measure := by
    rw [measure, measure, hahead]
    omega

/-- The parser gives back what was charged since a count was taken. -/
theorem Balanced.giveBack {depth : Nat} (hdepth : depth = base + t.charges)
    (hparser : t.parser = s.parser.withDepth depth) (hahead : t.ahead = s.ahead)
    (hcharges : t.charges ≤ s.charges) (hweight : t.weight < s.weight) : Moves base s t where
  balanced := by
    have hbounded := hs.bounded
    rw [hs.depth] at hbounded
    refine ⟨?_, ?_, hsaved, hfits⟩
    · rw [hparser, Parser.depth_withDepth, hdepth]
    · rw [hparser, Parser.depth_withDepth, hdepth]
      omega
  ahead := hahead ▸ List.suffix_rfl
  measure := by
    rw [measure, measure, hahead]
    omega

end

end State

/-! ## Steps -/

theorem SavedAll.push {base : Nat} {stack : List Frame} (h : SavedAll base stack) {frame : Frame}
    (hframe : frame.saved? = none) : SavedAll base (frame :: stack) := by
  rw [SavedAll, hframe]
  exact ⟨fun _ hmem => (Option.not_mem_none _ hmem).elim, h⟩

theorem Point.step_moves {base : Nat} {point : Point} {p : Parser} {stack : List Frame}
    (h : (State.reading point p stack).Balanced base) :
    State.Moves base (.reading point p stack) (point.step p stack) := by
  have hsaved : SavedAll base stack := h.saved
  have hdepth : p.depth = base + (stackCharges stack + point.charges) := h.depth
  have hfits : point.Fits base p stack := h.fits
  have hsame : p.tokens <:+ p.tokens := List.suffix_rfl
  cases point with
  | nested inner =>
    rw [step]
    split
    case isTrue hfree =>
      have hbelow : SavedAll base (.nested p.depth :: stack) := by simpa [hdepth] using hsaved
      cases inner <;> exact h.charge hbelow trivial hfree rfl rfl (by simp) (by simp)
    case isFalse => cases inner <;> exact h.keep hsaved trivial rfl hsame rfl (by simp)
  | assignment =>
    rw [step]
    split
    case h_1 name hname =>
      -- What lies ahead is what is read after going back.
      have hback : (p.advance.restore p.checkpoint).tokens = p.tokens :=
        congrArg Parser.tokens p.restore_checkpoint
      refine h.keep hsaved ?_ p.depth_advance ?_ rfl (by simp)
      · rw [State.Fits, Point.Fits, hback]
        exact p.tokens_advance_suffix
      · rw [State.ahead, hback]
        exact hsame
    case h_2 => exact h.keep hsaved trivial rfl hsame rfl (by simp)
  | target name span back =>
    rw [step]
    split
    case isTrue hequal =>
      exact h.consume (hsaved.push rfl) trivial (Parser.isLast_of_eq hequal rfl) rfl rfl (by simp)
        (by simp)
    case isFalse => exact h.keep hsaved trivial rfl List.suffix_rfl rfl (by simp)
  | chain tier =>
    rw [step]
    have hbelow : SavedAll base (.first tier p.depth :: stack) := by simpa [hdepth] using hsaved
    cases tier <;> exact h.keep hbelow trivial rfl hsame (by simp) (by simp)
  | tail tier left depth count =>
    rw [step]
    split
    case h_1 op hop =>
      cases tier <;>
        exact h.consume hsaved hfits (Parser.isLast_of_op? hop) rfl rfl rfl (by simp)
    case h_2 => exact h.giveBack hsaved trivial hfits rfl rfl (by simp) (by simp)
  | operator tier op left span depth count =>
    rw [step]
    split
    case isTrue hfree =>
      have hbelow : SavedAll base (.next tier op left depth (count + 1) :: stack) :=
        ⟨by simpa using hfits, hsaved⟩
      cases tier <;> exact h.charge hbelow trivial hfree rfl rfl (by simp; omega) (by simp)
    case isFalse => cases tier <;> exact h.giveBack hsaved trivial hfits rfl rfl (by simp) (by simp)
  | factor =>
    rw [step]
    exact h.keep (hsaved.push rfl) trivial rfl hsame (by simp) (by simp)
  | power =>
    rw [step]
    exact h.keep (hsaved.push rfl) trivial rfl hsame (by simp) (by simp)
  | atom =>
    rw [step]
    split
    case h_1 hkind | h_2 hkind =>
      exact h.consume hsaved trivial (Parser.isLast_of_eq hkind rfl) rfl rfl rfl (by simp; omega)
    case h_3 hkind =>
      have hlast := Parser.isLast_of_eq hkind rfl
      split <;> exact h.consume hsaved trivial hlast rfl rfl rfl (by simp; omega)
    case h_4 => exact h.keep hsaved trivial rfl hsame rfl (by simp)
    case h_5 hkind | h_6 hkind =>
      exact h.consume (hsaved.push rfl) trivial (Parser.isLast_of_eq hkind rfl) rfl rfl (by simp)
        (by simp)
    all_goals exact h.keep hsaved trivial rfl hsame rfl (by simp)
  | functionCall name span =>
    rw [step]
    exact h.keep hsaved trivial p.depth_advance p.tokens_advance_suffix rfl (by simp)
  | opening name span =>
    rw [step]
    split
    case isTrue hopening =>
      exact h.consume hsaved trivial (Parser.isLast_of_eq hopening rfl) rfl rfl rfl (by simp)
    case isFalse => exact h.keep hsaved trivial rfl hsame rfl (by simp)
  | listed name span =>
    rw [step]
    split <;> exact h.keep hsaved trivial rfl hsame rfl (by simp)
  | argument name span read =>
    rw [step]
    exact h.keep (hsaved.push rfl) trivial rfl hsame (by simp) (by simp)
  | closing name span read =>
    simp only [step]
    split
    case isTrue hclosing =>
      have hlast := Parser.isLast_of_eq hclosing rfl
      split
      · split <;> exact h.consume hsaved trivial hlast rfl rfl rfl (by simp; omega)
      · exact h.consume hsaved trivial hlast rfl rfl rfl (by simp; omega)
    case isFalse => exact h.keep hsaved trivial rfl hsame rfl (by simp)
  | statements read =>
    rw [step]
    exact h.keep hsaved trivial rfl hsame rfl (by simp)
  | separators read =>
    rw [step]
    split
    case isTrue hseparator =>
      exact h.consume hsaved trivial (Parser.isLast_of_isSeparator hseparator) rfl rfl rfl
        (by simp)
    case isFalse =>
      split
      · exact h.keep hsaved trivial rfl hsame rfl (by simp)
      · exact h.keep (hsaved.push rfl) trivial rfl hsame (by simp) (by simp)
  | finish read =>
    rw [step]
    split <;> exact h.keep hsaved trivial rfl hsame rfl (by simp)

theorem Frame.proceed_moves {base : Nat} {frame : Frame} {e : Expr} {p : Parser}
    {stack : List Frame} (h : (State.returning (.ok e) p (frame :: stack)).Balanced base) :
    State.Moves base (.returning (.ok e) p (frame :: stack)) (frame.proceed e p stack) := by
  obtain ⟨hcount, hsaved⟩ : SavedAll base (frame :: stack) := h.saved
  have hsame : p.tokens <:+ p.tokens := List.suffix_rfl
  cases frame with
  | nested depth =>
    have hdepth : depth = base + stackCharges stack := hcount depth rfl
    exact h.giveBack hsaved trivial hdepth rfl rfl (by simp [proceed]) (by simp [proceed])
  | first tier depth =>
    exact h.keep hsaved (hcount depth rfl) rfl hsame (by simp [proceed]) (by simp [proceed])
  | next tier op left depth count =>
    exact h.keep hsaved (hcount depth rfl) rfl hsame rfl (by simp [proceed])
  | factor =>
    rw [proceed]
    split
    case isTrue hbang =>
      exact h.consume hsaved trivial (Parser.isLast_of_eq hbang rfl) rfl rfl (by simp)
        (by simp; omega)
    case isFalse => exact h.keep hsaved trivial rfl hsame (by simp) (by simp)
  | power =>
    rw [proceed]
    split
    case isTrue hcaret =>
      exact h.consume (hsaved.push rfl) trivial (Parser.isLast_of_eq hcaret rfl) rfl rfl (by simp)
        (by simp)
    case isFalse => exact h.keep hsaved trivial rfl hsame (by simp) (by simp)
  | group =>
    rw [proceed]
    split
    case isTrue hclosing =>
      exact h.consume hsaved trivial (Parser.isLast_of_eq hclosing rfl) rfl rfl (by simp)
        (by simp; omega)
    case isFalse => exact h.keep hsaved trivial rfl hsame (by simp) (by simp)
  | argument name span read =>
    rw [proceed]
    split
    case isTrue hcomma =>
      exact h.consume hsaved trivial (Parser.isLast_of_eq hcomma rfl) rfl rfl (by simp)
        (by simp)
    case isFalse => exact h.keep hsaved trivial rfl hsame (by simp) (by simp)
  | statement read =>
    rw [proceed]
    split
    case isTrue hseparator =>
      exact h.consume hsaved trivial (Parser.isLast_of_isSeparator hseparator) rfl rfl (by simp)
        (by simp)
    case isFalse => exact h.keep hsaved trivial rfl hsame (by simp) (by simp)
  | assigned | raised | negated =>
    exact h.keep hsaved trivial rfl hsame (by simp [proceed]) (by simp [proceed])

theorem Frame.fail_moves {base : Nat} {frame : Frame} {fault : Fault} {p : Parser}
    {stack : List Frame} (h : (State.returning (.error fault) p (frame :: stack)).Balanced base) :
    State.Moves base (.returning (.error fault) p (frame :: stack))
      (.returning (.error fault) (frame.fail p) stack) := by
  obtain ⟨hcount, hsaved⟩ : SavedAll base (frame :: stack) := h.saved
  have hsame : p.tokens <:+ p.tokens := List.suffix_rfl
  cases frame with
  | nested depth | first _ depth | next _ _ _ depth _ =>
    exact h.giveBack hsaved trivial (hcount depth rfl) rfl rfl (by simp) (by simp)
  | _ => exact h.keep hsaved trivial rfl hsame rfl (by simp)

/-- **What a step keeps and uses up.** -/
theorem State.step_moves {base : Nat} {s t : State} (hs : s.Balanced base)
    (h : s.step = some t) : Moves base s t := by
  match s, h with
  | .reading point p stack, h =>
    cases h
    exact Point.step_moves hs
  | .returning (.ok e) p (frame :: stack), h =>
    cases h
    exact Frame.proceed_moves hs
  | .returning (.error fault) p (frame :: stack), h =>
    cases h
    exact Frame.fail_moves hs

/-! ## Runs -/

/-- One step or more. -/
abbrev State.Later : State → State → Prop := Relation.TransGen fun s t => s.step = some t

/-- There is one run only: it goes on from each of its states to its end. -/
theorem State.Run.onward {s t last : State} (ht : Run s t) (hlast : Run s last)
    (hend : last.step = none) : Run t last := by
  have hunique : Relator.RightUnique fun s t : State => s.step = some t := by
    intro s t t' h h'
    rw [h] at h'
    exact Option.some.inj h'
  rcases Relation.ReflTransGen.total_of_right_unique hunique ht hlast with honward | hbeyond
  · exact honward
  · rcases Relation.ReflTransGen.cases_head hbeyond with rfl | ⟨next, hnext, -⟩
    · exact .refl
    · rw [hend] at hnext
      cases hnext

theorem State.Balanced.run {base : Nat} {s t : State} (hs : s.Balanced base) (h : Run s t) :
    t.Balanced base := by
  induction h with
  | refl => exact hs
  | tail _ hstep ih => exact (step_moves ih hstep).balanced

/-- Later on there is less to do, and nothing ahead that was not. -/
theorem State.Balanced.later {base : Nat} {s t : State} (hs : s.Balanced base) (h : Later s t) :
    t.ahead <:+ s.ahead ∧ t.measure < s.measure := by
  induction h with
  | single hstep =>
    have hmoves := step_moves hs hstep
    exact ⟨hmoves.ahead, hmoves.measure⟩
  | tail hbefore hstep ih =>
    have hmoves := step_moves (hs.run hbefore.to_reflTransGen) hstep
    exact ⟨hmoves.ahead.trans ih.1, hmoves.measure.trans ih.2⟩

/-- The head of a loop, and that of another round of the loop. -/
inductive Point.Again : Point → Point → Prop
  | tail {tier : Tier} {left left' : Expr} {depth count count' : Nat} :
      Again (.tail tier left depth count) (.tail tier left' depth count')
  | argument {name : String} {span : Span} {read read' : List Expr} :
      Again (.argument name span read) (.argument name span read')
  | statements {read read' : List Expr} : Again (.statements read) (.statements read')
  | separators {read : List Expr} : Again (.separators read) (.separators read)

/-- The first tokens have been read, one of them at least. -/
def Consumed (p q : Parser) : Prop := ∃ read, read ≠ [] ∧ p.tokens = read ++ q.tokens

theorem consumed_of_suffix {p q : Parser} (h : q.tokens <:+ p.tokens)
    (hless : q.tokens.length < p.tokens.length) : Consumed p q := by
  obtain ⟨read, hread⟩ := h
  refine ⟨read, fun hnil => ?_, hread.symm⟩
  rw [← hread, hnil, List.nil_append] at hless
  exact Nat.lt_irrefl _ hless

/-- **Every round of a loop consumes input.** -/
theorem Point.Again.consumed {a b : Point} (h : a.Again b) {base : Nat} {p q : Parser}
    {stack : List Frame} (hbalanced : (State.reading a p stack).Balanced base)
    (hlater : State.Later (.reading a p stack) (.reading b q stack)) : Consumed p q := by
  obtain ⟨hahead, hmeasure⟩ := hbalanced.later hlater
  cases h
  all_goals
    simp only [State.measure, State.ahead, State.weight, Point.weight] at hahead hmeasure
    exact consumed_of_suffix hahead (by omega)

end Calculator.Machine
