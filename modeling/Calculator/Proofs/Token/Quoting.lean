import Calculator.Proofs.Parse.Leaves
import Calculator.Proofs.Parse.Nesting
import Calculator.Session

/-!
# Texts and their literals

Every text has a literal: the text between quotes, with a backslash before what could not stand
there otherwise. Reading the literal gives the text back and stops at its closing quote, whatever
comes behind it. A text that is longer than texts may be has a literal too, but that is no token:
reading it stops as soon as one character too many has been read.

A character is counted once, however it is written (`scanText_escape`); so what is counted is the
length of the text and not that of its literal. The count agrees with the bound on text values, and
the text of a program is its value without a cut.
-/

namespace Calculator

namespace Text

/-- A character as it is written between quotes. -/
def escape : Char → List Char
  | '\n' => ['\\', 'n']
  | '\t' => ['\\', 't']
  | '\r' => ['\\', 'r']
  | '"' => ['\\', '"']
  | '\\' => ['\\', '\\']
  | c => [c]

/-- A text as it is written between quotes. -/
def escaped (s : String) : String := String.ofList (s.toList.flatMap escape)

/-- The literal of a text. -/
def literal (s : String) : String := "\"" ++ escaped s ++ "\""

@[simp]
theorem toList_escaped (s : String) : (escaped s).toList = s.toList.flatMap escape := by
  simp [escaped]

@[simp]
theorem toList_literal (s : String) :
    (literal s).toList = '"' :: (s.toList.flatMap escape ++ ['"']) := by
  simp [literal]

/-- A text within the bound is not cut. -/
theorem bounded_of_length_le {s : String} (h : s.length ≤ maxLength) : bounded s = s := by
  rw [bounded, List.take_of_length_le (by rwa [String.length_toList]), String.ofList_toList]

end Text

namespace Token

open Text (escape maxLength)

/-! ## Reading what is written between quotes -/

/-- However it is written, a character is read as itself and counted once. -/
theorem scanText_escape (c : Char) (content : List Char) (length : Nat) (taken cs : List Char) :
    scanText content length taken (escape c ++ cs)
      = if maxLength < length + 1 then
          ⟨.fault (.textTooLong maxLength), taken.reverse ++ escape c, cs⟩
        else scanText (c :: content) (length + 1) ((escape c).reverse ++ taken) cs := by
  unfold escape
  split
  case h_6 hn ht hr hquote hslash =>
    rw [List.singleton_append, scanText]
    · simp
    · exact hquote
    · exact fun h _ => hslash h
    · exact fun _ _ h _ => hslash h
  all_goals simp [scanText, unescape]

/-- A text that stays within the bound is read up to its quote. -/
theorem scanText_escaped (t content : List Char) (length : Nat) (taken rest : List Char)
    (h : length + t.length ≤ maxLength) :
    scanText content length taken (t.flatMap escape ++ '"' :: rest)
      = ⟨.text (String.ofList (content.reverse ++ t)),
          taken.reverse ++ (t.flatMap escape ++ ['"']), rest⟩ := by
  induction t generalizing content length taken with
  | nil => simp [scanText]
  | cons c t ih =>
    rw [List.length_cons] at h
    rw [List.flatMap_cons, List.append_assoc, scanText_escape, if_neg (by omega),
      ih _ _ _ (by omega)]
    simp

/-- A text that goes beyond the bound is not read to its end. -/
theorem scanText_tooLong (t content : List Char) (length : Nat) (taken rest : List Char)
    (hlength : length ≤ maxLength) (h : maxLength < length + t.length) :
    (scanText content length taken (t.flatMap escape ++ rest)).kind
      = .fault (.textTooLong maxLength) := by
  induction t generalizing content length taken with
  | nil =>
    rw [List.length_nil] at h
    omega
  | cons c t ih =>
    rw [List.length_cons] at h
    rw [List.flatMap_cons, List.append_assoc, scanText_escape]
    split
    · rfl
    · exact ih _ _ _ (by omega) (by omega)

end Token

/-! ## Literals in a source -/

namespace Cursor

/-- At a quote there is nothing to skip. -/
theorem next_quote (offset : Nat) (cs : List Char) :
    next ⟨offset, '"' :: cs⟩ = readAt ⟨offset, '"' :: cs⟩ := rfl

theorem next_literal (offset : Nat) {s : String} (rest : String) (h : s.length ≤ Text.maxLength) :
    next ⟨offset, (Text.literal s ++ rest).toList⟩
      = (⟨.text s, Text.literal s, ⟨offset, offset + (Text.literal s).utf8ByteSize⟩⟩,
        ⟨offset + (Text.literal s).utf8ByteSize, rest.toList⟩) := by
  have hread := Token.scanText_escaped s.toList [] 0 ['"'] rest.toList
    (by simpa [String.length_toList] using h)
  have hsource : (Text.literal s ++ rest).toList
      = '"' :: (s.toList.flatMap Text.escape ++ '"' :: rest.toList) := by simp
  have hlexeme : String.ofList ('"' :: (s.toList.flatMap Text.escape ++ ['"']))
      = Text.literal s := by
    rw [← Text.toList_literal, String.ofList_toList]
  rw [hsource, next_quote, readAt]
  simp only [Token.scan, hread]
  simp only [List.reverse_nil, List.nil_append, List.reverse_singleton, List.singleton_append,
    hlexeme, String.ofList_toList, utf8ByteSize_eq_byteLength, Text.toList_literal]
  rfl

theorem next_tooLong (offset : Nat) {s : String} (rest : String) (h : Text.maxLength < s.length) :
    (next ⟨offset, (Text.literal s ++ rest).toList⟩).1.kind
      = .fault (.textTooLong Text.maxLength) := by
  have hsource : (Text.literal s ++ rest).toList
      = '"' :: (s.toList.flatMap Text.escape ++ '"' :: rest.toList) := by simp
  rw [hsource, next_quote]
  exact Token.scanText_tooLong s.toList [] 0 ['"'] _ (Nat.zero_le _)
    (by simpa [String.length_toList] using h)

end Cursor

/-! ## Texts of a program -/

namespace Expr

/-- A leaf of the tree of a source is a token of the source. -/
theorem leaf_of_parse {source : String} {e x : Expr} (h : parse source = .ok e) (hx : x ∈ e.nodes)
    {kind : TokenKind} (hkind : x.leaf? = some kind) :
    ∃ t ∈ tokenize source, t.kind = kind ∧ t.span = x.span := by
  obtain ⟨n, es, finish, hderived, -, -, -, rfl⟩ := derivable_of_parse h
  obtain ⟨rest, hspanned⟩ := hderived.spanned List.suffix_rfl
  rcases nests_ofStatements hspanned with hempty | hnests
  · rw [hempty, nodes, nodesAll, List.mem_singleton] at hx
    rw [hx] at hkind
    cases hkind
  · obtain ⟨t, hmem, ht, hspan, -⟩ := (hnests x hx).leaf kind hkind
    exact ⟨t, hmem, ht, hspan⟩

theorem evaluate_text {content : String} (h : content.length ≤ Text.maxLength) (span : Span)
    (s : Session) : (text content span).evaluate s = .ok (.ofValue (.text content)) s := by
  rw [evaluate, Value.ofText, Text.bounded_of_length_le h]
  rfl

end Expr

/-- **Literals are read as the texts they were made from.** The literal of a text of at most 255
characters is a token that carries the text and stops at the closing quote; that of a longer text is
a fault. From whatever it is read, no token carries a longer text. So the texts in the tree of a
source are those of its tokens, and each of them is its own value in every session. -/
theorem Text.literal_decodes :
    (∀ (offset : Nat) (s rest : String),
      if s.length ≤ 255 then
        Cursor.next ⟨offset, (literal s ++ rest).toList⟩
          = (⟨.text s, literal s, ⟨offset, offset + (literal s).utf8ByteSize⟩⟩,
            ⟨offset + (literal s).utf8ByteSize, rest.toList⟩)
      else (Cursor.next ⟨offset, (literal s ++ rest).toList⟩).1.kind
        = .fault (.textTooLong 255))
    ∧ (∀ (cursor : Cursor) (content : String), cursor.next.1.kind = .text content →
      content.length ≤ 255)
    ∧ ∀ (source : String) (e : Expr), Expr.parse source = .ok e →
      ∀ (content : String) (span : Span), .text content span ∈ e.nodes →
        (∃ t ∈ tokenize source, t.kind = .text content ∧ t.span = span)
        ∧ ∀ s : Session,
          (Expr.text content span).evaluate s = .ok (.ofValue (.text content)) s := by
  refine ⟨fun offset s rest => ?_, fun cursor content hkind => ?_,
    fun source e hparse content span hmem => ?_⟩
  · split
    case isTrue h => exact Cursor.next_literal offset rest h
    case isFalse h => exact Cursor.next_tooLong offset rest (Nat.lt_of_not_le h)
  · have hlexed := cursor.next_lexed
    rw [hkind] at hlexed
    exact hlexed
  · obtain ⟨t, ht, hkind, hspan⟩ := Expr.leaf_of_parse hparse hmem rfl
    refine ⟨⟨t, ht, hkind, hspan⟩, Expr.evaluate_text ?_ span⟩
    have hlexed := tokenize_lexed source t ht
    rw [hkind] at hlexed
    exact hlexed

/-- The longest text with a literal, and one more: quotes only, which are written as two characters
each. -/
theorem Text.literal_decodes_at_bound :
    let quotes (k : Nat) := String.ofList (List.replicate k '"')
    Cursor.next ⟨0, (literal (quotes 255) ++ "+1").toList⟩
        = (⟨.text (quotes 255), literal (quotes 255), ⟨0, 512⟩⟩, ⟨512, "+1".toList⟩)
      ∧ (Cursor.next ⟨0, (literal (quotes 256) ++ "+1").toList⟩).1.kind
        = .fault (.textTooLong 255) := by
  intro quotes
  have hlength (k : Nat) : (quotes k).length = k := by
    rw [String.length_ofList, List.length_replicate]
  have hwithin {s : String} (h : s.length ≤ 255) :
      Cursor.next ⟨0, (literal s ++ "+1").toList⟩
        = (⟨.text s, literal s, ⟨0, 0 + (literal s).utf8ByteSize⟩⟩,
          ⟨0 + (literal s).utf8ByteSize, "+1".toList⟩) := by
    simpa only [if_pos h] using literal_decodes.1 0 s "+1"
  have hbeyond {s : String} (h : ¬ s.length ≤ 255) :
      (Cursor.next ⟨0, (literal s ++ "+1").toList⟩).1.kind = .fault (.textTooLong 255) := by
    simpa only [if_neg h] using literal_decodes.1 0 s "+1"
  have hbytes : (literal (quotes 255)).utf8ByteSize = 512 := by decide +kernel
  have hfull := hwithin (hlength 255).le
  rw [hbytes] at hfull
  exact ⟨hfull, hbeyond (by rw [hlength 256]; decide)⟩

-- each kind of character that is written as two
example : Text.literal "a\t\"\r\\\n" = "\"a\\t\\\"\\r\\\\\\n\"" := by decide

end Calculator
