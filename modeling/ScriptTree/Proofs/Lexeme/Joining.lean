import ScriptTree.Proofs.Lexeme.Blanking
import ScriptTree.Proofs.Lexeme.Quoting

/-!
# Two texts with a separator between them

A line feed or a semicolon ends every lexeme but blanks, comments and literals, and
these only go on where they are not ended yet: a line feed goes on with blanks and
with a block comment that is not closed, a semicolon with a comment or a literal.
So a text in which every block comment is closed is cut in front of a line feed as
it is cut alone, and what comes after the line feed is cut as it is cut alone.
-/

namespace ScriptTree

namespace Piece

/-- A character that no word, number or symbol goes on with. -/
structure Separates (separator : Char) : Prop where
  word : isWordPart separator = false
  digit : separator.isDigit = false
  opens : opensNothing separator = false
  dot : separator ≠ '.'
  slash : separator ≠ '/'
  star : separator ≠ '*'
  pair : ∀ first, pairToken? first separator = none

/-- A line feed keeps apart what stands around it. -/
theorem separates_lineFeed : Separates '\n' where
  word := rfl
  digit := rfl
  opens := by decide
  dot := by decide
  slash := by decide
  star := by decide
  pair := by
    intro first
    unfold pairToken?
    split <;> simp_all

/-- A semicolon keeps apart what stands around it. -/
theorem separates_semicolon : Separates ';' where
  word := rfl
  digit := rfl
  opens := by decide
  dot := by decide
  slash := by decide
  star := by decide
  pair := by
    intro first
    unfold pairToken?
    split <;> simp_all

variable (text more : List Char) {separator : Char}

/-! ## Literals and comments -/

/-- A line break ends every string literal. -/
theorem stringTail_lineBreak (breaks : isLineBreak separator = true) :
    stringTail (text ++ separator :: more) =
      ((stringTail text).1, (stringTail text).2 ++ separator :: more) := by
  have quote : separator ≠ '"' := by
    rintro rfl
    cases breaks
  have slash : separator ≠ '\\' := by
    rintro rfl
    cases breaks
  fun_induction stringTail text with
  | case1 => rw [List.nil_append, stringTail_cons quote slash, if_pos breaks]
  | case2 => rfl
  | case3 escaped rest breaks =>
    rw [List.cons_append, List.cons_append, stringTail, if_pos breaks]
  | case4 escaped rest plain ih =>
    rw [List.cons_append, List.cons_append, stringTail, if_neg plain, ih]
  | case5 character rest quote slash breaks =>
    have plain : character ≠ '\\' := by
      rintro rfl
      cases breaks
    rw [List.cons_append, stringTail_cons quote plain, if_pos breaks]
  | case6 character rest quote slash plain ih =>
    by_cases backslash : character = '\\'
    · subst backslash
      cases rest with
      | nil =>
        show stringTail ('\\' :: separator :: more) = (['\\'], separator :: more)
        rw [stringTail, if_pos breaks]
      | cons escaped rest => exact absurd rfl (slash escaped rest rfl)
    · rw [List.cons_append, stringTail_cons quote backslash, if_neg plain, ih]

/-- A run that ends inside of a text ends there, whatever follows. -/
theorem span_of_left {accepts : Char → Bool} {text : List Char}
    (ends : text.dropWhile accepts ≠ []) (more : List Char) :
    (text ++ more).takeWhile accepts = text.takeWhile accepts ∧
      (text ++ more).dropWhile accepts = text.dropWhile accepts ++ more := by
  induction text with
  | nil => exact absurd rfl ends
  | cons character rest ih =>
    rw [List.dropWhile_cons] at ends
    rw [List.cons_append, List.takeWhile_cons, List.takeWhile_cons, List.dropWhile_cons,
      List.dropWhile_cons]
    split
    · rename_i accepted
      rw [if_pos accepted] at ends
      exact ⟨congrArg _ (ih ends).1, (ih ends).2⟩
    · exact ⟨rfl, rfl⟩

/-- A comment that is closed ends where it is closed. -/
theorem commentTail_closed (closed : ['*', '/'] <:+ (commentTail text).1) :
    commentTail (text ++ more) = ((commentTail text).1, (commentTail text).2 ++ more) := by
  fun_induction commentTail text with
  | case1 => exact absurd closed (by decide)
  | case2 => rfl
  | case3 character rest goesOn ih =>
    have whole := commentTail_append rest
    rcases List.suffix_cons_iff.mp closed with same | later
    · -- Then the comment would have been closed two characters earlier.
      rw [List.cons.injEq] at same
      rw [← same.2] at whole
      exact absurd whole.symm fun slash => goesOn _ same.1.symm slash
    · rw [List.cons_append, commentTail_cons, ih later]
      intro further star slash
      cases rest with
      | nil =>
        rw [commentTail] at later
        exact absurd later (by decide)
      | cons second rest =>
        rw [List.cons_append, List.cons.injEq] at slash
        exact goesOn rest star (by rw [slash.1])

/-- A block comment is closed, if the piece is one. -/
def IsClosed (piece : Piece) : Prop :=
  piece.token = .blockComment → StringLiteral.isTerminatedComment piece.text = true

/-- The end of a terminated comment is not its beginning. -/
theorem suffix_of_isTerminatedComment {taken : List Char}
    (closed : StringLiteral.isTerminatedComment ('/' :: '*' :: taken) = true) :
    ['*', '/'] <:+ taken := by
  rw [StringLiteral.isTerminatedComment, Bool.and_eq_true, List.isSuffixOf_iff_suffix,
    decide_eq_true_eq] at closed
  rcases closed with ⟨long, ends⟩
  rcases List.suffix_cons_iff.mp ends with same | ends
  · cases same
  · rcases List.suffix_cons_iff.mp ends with same | ends
    · cases same
      exact absurd long (by decide)
    · exact ends

/-- Whether a piece after which `left` was left ends where a character comes in between. -/
structure StaysApart (separator : Char) (piece : Piece) (left : List Char) : Prop where
  blank : piece.token = .whitespace → isBlank separator = false
  closed : piece.IsClosed
  comment : piece.token = .lineComment → isLineBreak separator = true ∨ left ≠ []
  quoted : piece.token = .string →
    isLineBreak separator = true ∨ StringLiteral.isTerminated piece.text = true

/-! ## Cutting in front of a separator -/

section

variable (separates : Separates separator)

include separates

/-- A fraction does not reach over a separator. -/
theorem fractionTail_separator :
    fractionTail (text ++ separator :: more) =
      ((fractionTail text).1, (fractionTail text).2 ++ separator :: more) := by
  cases text with
  | nil => exact fractionTail_cons more separates.dot
  | cons character rest =>
    by_cases dot : character = '.'
    · subst dot
      cases rest with
      | nil =>
        rw [List.cons_append, List.nil_append, fractionTail, separates.digit]
        rfl
      | cons digit rest =>
        rcases span_separator separates.digit rest more with ⟨taken, left⟩
        rw [List.cons_append, List.cons_append, fractionTail, fractionTail, taken, left]
        split <;> rfl
    · rw [List.cons_append, fractionTail_cons _ dot, fractionTail_cons _ dot]
      rfl

/-- A symbol that stays apart does not reach over a separator. -/
theorem symbol_separator {first : Char}
    (apart : StaysApart separator (symbol first text).1 (symbol first text).2) :
    symbol first (text ++ separator :: more) =
      ((symbol first text).1, (symbol first text).2 ++ separator :: more) := by
  cases text with
  | nil =>
    simp only [List.nil_append, symbol, separates.pair, separates.slash, separates.star, and_false,
      if_false, List.takeWhile_cons, List.dropWhile_cons, separates.opens]
    cases singleToken? first <;> simp
  | cons second rest =>
    revert apart
    rw [List.cons_append, symbol, symbol]
    split
    · exact fun _ => rfl
    · split
      · intro apart
        rcases apart.comment rfl with breaks | goesOn
        · rcases @span_separator separator (!isLineBreak ·) (by simp [breaks]) rest more
            with ⟨taken, left⟩
          rw [taken, left]
        · rcases span_of_left goesOn (separator :: more) with ⟨taken, left⟩
          rw [taken, left]
      · split
        · intro apart
          rw [commentTail_closed _ _ (suffix_of_isTerminatedComment (apart.closed rfl))]
        · split
          · exact fun _ => rfl
          · rcases span_separator separates.opens (second :: rest) more with ⟨taken, left⟩
            rw [List.cons_append] at taken left
            exact fun _ => by rw [taken, left]

/-- A text is cut in front of a separator as it is cut alone. -/
theorem cut_separator {first : Char}
    (apart : StaysApart separator (cut first text).1 (cut first text).2) :
    cut first (text ++ separator :: more) =
      ((cut first text).1, (cut first text).2 ++ separator :: more) := by
  rcases span_separator separates.word text more with ⟨word, afterWord⟩
  rcases span_separator separates.digit text more with ⟨digits, afterDigits⟩
  revert apart
  unfold cut
  split
  · exact fun _ => by rw [word, afterWord]
  · split
    · exact fun _ => by rw [digits, afterDigits, fractionTail_separator _ _ separates]
    · split
      · intro apart
        rcases span_separator (apart.blank rfl) text more with ⟨taken, left⟩
        rw [taken, left]
      · split
        · intro apart
          rcases apart.quoted rfl with breaks | terminated
          · rw [stringTail_lineBreak _ _ breaks]
          · rw [stringTail_closed _ _ (isTerminated_iff_endsQuoted.mp terminated)]
        · exact symbol_separator text more separates

end

end Piece

/-! ## The lexemes of both texts -/

namespace Lexeme

variable {index : LineIndex} {offset : Nat}

/-- The lexemes of two texts with a line feed between them, apart from blanks. -/
theorem visible_place_lineFeed {text : List Char} (more : List Char)
    (closed : ∀ piece ∈ Piece.all text, piece.IsClosed) :
    visible (place index offset (Piece.all (text ++ '\n' :: more))) =
      visible (place index offset (Piece.all text)) ++
        visible (place index (offset + (Text.byteLength text + 1)) (Piece.all more)) := by
  fun_induction Piece.all text generalizing offset with
  | case1 => exact visible_place_cons (by decide) more
  | case2 first rest ih =>
    have later := @ih (offset + Text.byteLength (Piece.cut first rest).1.text)
      fun piece member => closed piece (List.mem_cons_of_mem _ member)
    have length : Text.byteLength (first :: rest) = Text.byteLength (Piece.cut first rest).1.text +
        Text.byteLength (Piece.cut first rest).2 := by
      rw [← Text.byteLength_append, Piece.cut_append]
    rw [Nat.add_assoc, ← Nat.add_assoc (Text.byteLength _), ← length] at later
    by_cases blank : (Piece.cut first rest).1.token = .whitespace
    · rw [← Piece.cut_append first rest, List.append_assoc,
        visible_place_blanks (Piece.isBlank_of_mem_whitespace blank), later, Piece.cut_append,
        place]
      simp [visible, blank]
    · have apart : Piece.StaysApart '\n' (Piece.cut first rest).1 (Piece.cut first rest).2 :=
        { blank := fun whitespace => absurd whitespace blank
          closed := closed _ List.mem_cons_self
          comment := fun _ => .inl rfl
          quoted := fun _ => .inl rfl }
      rw [List.cons_append, Piece.all_cons,
        Piece.cut_separator rest more Piece.separates_lineFeed apart, place, place]
      simpa [visible, blank] using later

end Lexeme

end ScriptTree
