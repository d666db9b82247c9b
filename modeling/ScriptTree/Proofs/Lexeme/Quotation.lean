import ScriptTree.Proofs.Lexeme.Escapes

/-!
# A literal for every value

A value is quoted by putting a backslash in front of each quote and each backslash
in it, and by writing its line breaks as letters behind a backslash.  Nothing that
is left can end the literal before its closing quote, and each backslash that was
put in opens an escape for the one character that it was put in for.
-/

namespace ScriptTree

namespace StringLiteral

/-- How a character of a value is written between the quotes. -/
def quotedCharacter : Char → List Char
  | '\\' => ['\\', '\\']
  | '"' => ['\\', '"']
  | '\n' => ['\\', 'n']
  | '\r' => ['\\', 'r']
  | character => [character]

/-- The characters of a value as they stand between quotes. -/
def quotedBody (value : List Char) : List Char :=
  value.flatMap quotedCharacter

/-- The literal that stands for a value. -/
def quote (value : List Char) : List Char :=
  '"' :: (quotedBody value ++ ['"'])

/-- A character of a value is written as an escape that stands for it, or as itself. -/
theorem cases_quotedCharacter (character : Char) :
    (∃ mark, (mark, character) ∈ singleEscapes ∧ Piece.isLineBreak mark = false ∧
        quotedCharacter character = ['\\', mark]) ∨
      character ≠ '"' ∧ character ≠ '\\' ∧ Piece.isLineBreak character = false ∧
        quotedCharacter character = [character] := by
  fun_cases quotedCharacter character with
  | case1 => exact .inl ⟨'\\', by decide, rfl, rfl⟩
  | case2 => exact .inl ⟨'"', by decide, rfl, rfl⟩
  | case3 => exact .inl ⟨'n', by decide, rfl, rfl⟩
  | case4 => exact .inl ⟨'r', by decide, rfl, rfl⟩
  | case5 character slash quote feed carriage =>
    exact .inr ⟨quote, slash, by simpa [Piece.isLineBreak] using ⟨feed, carriage⟩, rfl⟩

/-! ## Where the literal ends -/

/-- The scan goes on to the closing quote and stops there, whatever follows it. -/
theorem stringTail_quotedBody (value rest : List Char) :
    Piece.stringTail (quotedBody value ++ '"' :: rest) = (quotedBody value ++ ['"'], rest) := by
  induction value with
  | nil => rfl
  | cons first value ih =>
    rw [quotedBody, List.flatMap_cons, ← quotedBody]
    rcases cases_quotedCharacter first with ⟨mark, -, unbroken, written⟩ |
      ⟨noQuote, noSlash, unbroken, written⟩
    · rw [written]
      simp only [List.cons_append, List.nil_append]
      rw [Piece.stringTail, if_neg (Bool.eq_false_iff.mp unbroken), ih]
    · rw [written]
      simp only [List.cons_append, List.nil_append]
      rw [Piece.stringTail_cons noQuote noSlash, if_neg (Bool.eq_false_iff.mp unbroken), ih]

/-- A quoted value ends at the quote that is put behind it, and not before. -/
theorem endsQuoted_quotedBody (value : List Char) :
    Piece.EndsQuoted (quotedBody value ++ ['"']) := by
  induction value with
  | nil => exact ⟨[], rfl, rfl⟩
  | cons first value ih =>
    rw [quotedBody, List.flatMap_cons, ← quotedBody]
    rcases cases_quotedCharacter first with ⟨mark, -, -, written⟩ | ⟨noQuote, noSlash, -, written⟩
    · rw [written]
      exact Piece.endsQuoted_escape_iff.mpr ih
    · rw [written]
      exact (Piece.endsQuoted_plain_iff noSlash noQuote).mpr ih

/-- A quoted value is terminated. -/
theorem isTerminated_quote (value : List Char) : isTerminated (quote value) = true :=
  Piece.isTerminated_iff_endsQuoted.mpr (endsQuoted_quotedBody value)

/-- Between the quotes of a quoted value stands the value, escaped. -/
theorem body_quote (value : List Char) : body (quote value) = quotedBody value := by
  have whole := eq_quoted_body (quotedBody value ++ ['"'])
  rw [← quote, isTerminated_quote, if_pos rfl, quote, List.cons.injEq] at whole
  exact (List.append_cancel_right whole.2).symm

/-! ## What the literal stands for -/

/-- A character that opens no escape belongs to the plain run in front. -/
theorem exists_segments_cons {character : Char} (plain : character ≠ '\\') (rest : List Char) :
    ∃ run later, segments rest = .plain run :: later ∧
      segments (character :: rest) = .plain (character :: run) :: later := by
  have accepted : decide (character ≠ '\\') = true := decide_eq_true plain
  have skipped : (character :: rest).dropWhile (· ≠ '\\') = rest.dropWhile (· ≠ '\\') :=
    List.dropWhile_cons_of_pos accepted
  have taken : (character :: rest).takeWhile (· ≠ '\\') =
      character :: rest.takeWhile (· ≠ '\\') := List.takeWhile_cons_of_pos accepted
  cases found : rest.dropWhile (· ≠ '\\') with
  | nil => exact ⟨rest, [], segments_of_plain found, segments_of_plain (skipped.trans found)⟩
  | cons slash behind =>
    rw [segments_of_escape found, segments_of_escape (skipped.trans found), taken]
    exact ⟨_, _, rfl, rfl⟩

/-- An escape at the front is a segment. -/
theorem segments_escape {meaning : Meaning} {tail after : List Char}
    (escape : IsEscape meaning tail after) :
    segments ('\\' :: (tail ++ after)) =
      .plain [] :: .escape meaning tail :: segments after :=
  (Divides.escape List.not_mem_nil escape (divides_segments after)).eq_segments.symm

/-- The segments of a quoted value are known, and they stand for the value. -/
theorem segments_quotedBody (value : List Char) :
    (segments (quotedBody value)).all Segment.isKnown = true ∧
      (segments (quotedBody value)).flatMap Segment.value = value := by
  induction value with
  | nil =>
    rw [quotedBody, List.flatMap_nil, segments_of_plain rfl]
    exact ⟨rfl, rfl⟩
  | cons first value ih =>
    rw [quotedBody, List.flatMap_cons, ← quotedBody]
    rcases cases_quotedCharacter first with ⟨mark, listed, -, written⟩ | ⟨-, noSlash, -, written⟩
    · have escape := IsEscape.single listed (quotedBody value)
      rw [written, List.cons_append, segments_escape escape, List.all_cons, List.all_cons, ih.1,
        List.flatMap_cons, List.flatMap_cons, ih.2]
      exact ⟨rfl, rfl⟩
    · rcases exists_segments_cons noSlash (quotedBody value) with ⟨run, later, rest, whole⟩
      rw [rest, List.all_cons, List.flatMap_cons] at ih
      rw [written, List.singleton_append, whole, List.all_cons, List.flatMap_cons]
      exact ⟨ih.1, congrArg (List.cons first) ih.2⟩

/-- A quoted value is decoded to itself. -/
theorem decode_quote (value : List Char) : decode (quote value) = value := by
  rw [decode_eq, body_quote]
  exact (segments_quotedBody value).2

/-- A quoted value has no escapes that are wrong. -/
theorem escapeIssues_quote (value : List Char) (base : Nat) :
    escapeIssues (quote value) base = [] := by
  rw [escapeIssues_eq, body_quote]
  exact issuesFrom_eq_nil (segments_quotedBody value).1 _

end StringLiteral

/-- A quoted value is cut off whole, whatever text follows it. -/
theorem Piece.all_quote_append (value rest : List Char) :
    Piece.all (StringLiteral.quote value ++ rest) =
      ⟨.string, StringLiteral.quote value⟩ :: Piece.all rest := by
  have closed := StringLiteral.stringTail_quotedBody value rest
  have cut : Piece.cut '"' (StringLiteral.quotedBody value ++ '"' :: rest) =
      (⟨.string, StringLiteral.quote value⟩, rest) := by
    rw [Piece.cut]
    simp only [closed]
    rfl
  rw [StringLiteral.quote, List.cons_append, List.append_assoc, List.singleton_append,
    Piece.all_cons, cut]
  rfl

open StringLiteral

/-- Every value has a literal.  At the start of any text it is read as one token with just its own
text, it is terminated, nothing is wrong with its escapes, and it stands for the value. -/
theorem tokenize_quote_append (value rest : String) :
    let literal := quote value.toList
    let source := String.ofList literal ++ rest
    (∃ first others, Lexeme.tokenize (.ofSource source) source = first :: others ∧
        first.token = .string ∧ first.text = String.ofList literal ∧
        first.range.span = ⟨0, Text.byteLength literal⟩) ∧
      isTerminated literal = true ∧ (∀ base, escapeIssues literal base = []) ∧
      decode literal = value.toList := by
  intro literal source
  have whole : source.toList = literal ++ rest.toList := by
    rw [String.toList_append, String.toList_ofList]
  refine ⟨?_, isTerminated_quote _, escapeIssues_quote _, decode_quote _⟩
  rw [Lexeme.tokenize, whole, Piece.all_quote_append, Lexeme.place]
  exact ⟨_, _, rfl, rfl, rfl, congrArg (Span.mk 0) (Nat.zero_add _)⟩

end ScriptTree
