import ScriptTree.Proofs.Lexeme.Slice

/-!
# Lexemes on one line

Only blanks and block comments take line breaks along.  Every other lexeme stands on
one line: no line break is part of a word, of a number or of the characters that open
nothing, and a string literal that is not closed stops in front of one, even behind a
backslash.
-/

namespace ScriptTree

namespace Piece

/-- Whether some characters stand on one line. -/
def OnOneLine (text : List Char) : Prop :=
  ∀ character ∈ text, isLineBreak character = false

-- The characters of the text are gone through, not all characters there are.
instance (text : List Char) : Decidable (OnOneLine text) :=
  List.decidableBAll (isLineBreak · = false) text

theorem OnOneLine.not_mem {text : List Char} (line : OnOneLine text) : '\n' ∉ text := by
  intro member
  cases line _ member

@[simp]
theorem onOneLine_nil : OnOneLine [] :=
  List.forall_mem_nil _

@[simp]
theorem onOneLine_cons {first : Char} {rest : List Char} :
    OnOneLine (first :: rest) ↔ isLineBreak first = false ∧ OnOneLine rest :=
  List.forall_mem_cons

@[simp]
theorem onOneLine_append {first second : List Char} :
    OnOneLine (first ++ second) ↔ OnOneLine first ∧ OnOneLine second :=
  List.forall_mem_append

/-! ## What scans take -/

section

variable {accepts : Char → Bool} (feed : accepts '\n' = false) (carriage : accepts '\r' = false)

include feed carriage

theorem isLineBreak_of_accepts {character : Char} (accepted : accepts character = true) :
    isLineBreak character = false := by
  rw [← Bool.not_eq_true]
  intro breaks
  rw [isLineBreak, Bool.or_eq_true, decide_eq_true_eq, decide_eq_true_eq] at breaks
  rcases breaks with rfl | rfl
  · rw [feed] at accepted
    cases accepted
  · rw [carriage] at accepted
    cases accepted

/-- What a run accepts is on one line if it accepts no line breaks. -/
theorem onOneLine_takeWhile (text : List Char) : OnOneLine (text.takeWhile accepts) :=
  fun _ member =>
    isLineBreak_of_accepts feed carriage (List.all_eq_true.mp List.all_takeWhile _ member)

end

/-- A string literal stops in front of a line break, and a backslash takes none along. -/
theorem onOneLine_stringTail (text : List Char) : OnOneLine (stringTail text).1 := by
  fun_induction stringTail text with
  | case1 | case5 => exact onOneLine_nil
  | case2 | case3 => exact onOneLine_cons.mpr ⟨by decide, onOneLine_nil⟩
  | case4 escaped rest plain ih =>
    exact onOneLine_cons.mpr
      ⟨by decide, onOneLine_cons.mpr ⟨Bool.eq_false_iff.mpr plain, ih⟩⟩
  | case6 character rest _ _ plain ih =>
    exact onOneLine_cons.mpr ⟨Bool.eq_false_iff.mpr plain, ih⟩

/-- A fraction is on one line. -/
theorem onOneLine_fractionTail (text : List Char) : OnOneLine (fractionTail text).1 := by
  fun_cases fractionTail text with
  | case1 digit rest isDigit =>
    have here := isLineBreak_of_accepts (by decide) (by decide) isDigit
    have later : OnOneLine (rest.takeWhile Char.isDigit) :=
      onOneLine_takeWhile (by decide) (by decide) rest
    exact onOneLine_cons.mpr ⟨by decide, onOneLine_cons.mpr ⟨here, later⟩⟩
  | case2 | case3 => exact onOneLine_nil

theorem onOneLine_of_pairToken? {first second : Char} {token : Token}
    (found : pairToken? first second = some token) : OnOneLine [first, second] := by
  unfold pairToken? at found
  split at found <;> cases found <;> simp [isLineBreak]

/-- Only block comments go over several lines. -/
theorem onOneLine_symbol {first : Char} {rest : List Char}
    (plain : isLineBreak first = false) (other : (symbol first rest).1.token ≠ .blockComment) :
    OnOneLine (symbol first rest).1.text := by
  revert other
  fun_cases symbol first rest with
  | case1 second rest token pair => exact fun _ => onOneLine_of_pairToken? pair
  | case2 second rest =>
    have line : OnOneLine (rest.takeWhile (!isLineBreak ·)) :=
      onOneLine_takeWhile (by decide) (by decide) rest
    exact fun _ => onOneLine_cons.mpr ⟨by decide, onOneLine_cons.mpr ⟨by decide, line⟩⟩
  | case3 => exact fun other => absurd rfl other
  | case4 | case6 => exact fun _ => onOneLine_cons.mpr ⟨plain, onOneLine_nil⟩
  | case5 second rest =>
    have line : OnOneLine ((second :: rest).takeWhile opensNothing) :=
      onOneLine_takeWhile (by decide) (by decide) _
    exact fun _ => onOneLine_cons.mpr ⟨plain, line⟩

/-- Only blanks and block comments take line breaks along. -/
theorem onOneLine_cut {first : Char} {rest : List Char}
    (written : (cut first rest).1.token.isTrivia = false) :
    OnOneLine (cut first rest).1.text := by
  revert written
  fun_cases cut first rest with
  | case1 starts word =>
    have here := isLineBreak_of_accepts (by decide) (by decide) starts
    have later : OnOneLine (rest.takeWhile isWordPart) :=
      onOneLine_takeWhile (by decide) (by decide) rest
    exact fun _ => onOneLine_cons.mpr ⟨here, later⟩
  | case2 noWord isDigit fraction =>
    have here := isLineBreak_of_accepts (by decide) (by decide) isDigit
    have digits : OnOneLine (rest.takeWhile Char.isDigit) :=
      onOneLine_takeWhile (by decide) (by decide) rest
    exact fun _ => onOneLine_cons.mpr
      ⟨here, onOneLine_append.mpr ⟨digits, onOneLine_fractionTail _⟩⟩
  | case3 => rintro ⟨⟩
  | case4 =>
    exact fun _ => onOneLine_cons.mpr ⟨by decide, onOneLine_stringTail rest⟩
  | case5 noWord noDigit noBlank noQuote =>
    intro written
    refine onOneLine_symbol ?_ ?_
    · rw [isBlank] at noBlank
      simp only [Bool.or_eq_true, not_or, Bool.not_eq_true] at noBlank
      exact noBlank.1.1.1.1
    · intro comment
      rw [comment] at written
      cases written

end Piece

/-- The lexemes that the grammar sees stand on one line each. -/
theorem Lexing.onOneLine {source : String} {lexeme : Lexeme}
    (member : lexeme ∈ (ofSource source).lexemes) : Piece.OnOneLine lexeme.text.toList := by
  rcases List.mem_filter.mp member with ⟨placed, significant⟩
  rcases Lexeme.exists_cut_of_mem_tokenize placed with ⟨-, first, rest, -, -, token, text⟩
  rw [text]
  refine Piece.onOneLine_cut ?_
  rw [← token]
  simpa using significant

end ScriptTree
