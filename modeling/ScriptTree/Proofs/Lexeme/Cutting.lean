import ScriptTree.Lexeme.Piece

/-!
# Where a cut ends

A cut looks at little more than the piece it takes.  If the text is shortened
behind the piece, the piece stays the same.  If the piece ends in front of a
separator, or before, it stays the same with a blank for the separator, whatever
follows.
-/

namespace ScriptTree.Piece

variable {text left more taken : List Char}

/-! ## Shortening the text -/

/-- A run that ends inside of the shorter text is found there. -/
theorem dropWhile_of_append {accepts : Char → Bool}
    (ends : (text ++ more).dropWhile accepts = left ++ more) :
    text.takeWhile accepts = (text ++ more).takeWhile accepts ∧
      text.dropWhile accepts = left := by
  induction text with
  | nil =>
    rw [List.nil_append] at ends ⊢
    have whole := congrArg List.length (List.takeWhile_append_dropWhile (p := accepts) (l := more))
    rw [ends, List.length_append, List.length_append] at whole
    have none : left = [] := List.eq_nil_of_length_eq_zero (by omega)
    have nothing : more.takeWhile accepts = [] := List.eq_nil_of_length_eq_zero (by omega)
    rw [nothing, none]
    exact ⟨rfl, rfl⟩
  | cons character rest ih =>
    rw [List.cons_append] at ends ⊢
    rw [List.takeWhile_cons, List.takeWhile_cons, List.dropWhile_cons]
    rw [List.dropWhile_cons] at ends
    split
    · rename_i accepted
      rw [if_pos accepted] at ends
      rcases ih ends with ⟨sameTaken, sameLeft⟩
      exact ⟨congrArg _ sameTaken, sameLeft⟩
    · rename_i refused
      rw [if_neg refused, ← List.cons_append] at ends
      exact ⟨rfl, List.append_cancel_right ends⟩

/-- Nothing is taken where everything is left. -/
theorem taken_of_append (whole : taken ++ (left ++ more) = more) : taken = [] ∧ left = [] := by
  have lengths := congrArg List.length whole
  rw [List.length_append, List.length_append] at lengths
  exact ⟨List.eq_nil_of_length_eq_zero (by omega), List.eq_nil_of_length_eq_zero (by omega)⟩

/-- A character that is neither a quote nor a backslash goes on a string, unless the line ends
there. -/
theorem stringTail_cons {character : Char} {rest : List Char} (quote : character ≠ '"')
    (backslash : character ≠ '\\') :
    stringTail (character :: rest) =
      if isLineBreak character then ([], character :: rest)
      else (character :: (stringTail rest).1, (stringTail rest).2) := by
  rw [stringTail]
  · exact quote
  · intro escaped more same
    exact absurd same backslash

/-- A backslash belongs to the literal, whatever follows it. -/
theorem exists_stringTail_backslash (rest : List Char) :
    ∃ further, (stringTail ('\\' :: rest)).1 = '\\' :: further := by
  cases rest with
  | nil => exact ⟨[], rfl⟩
  | cons escaped rest =>
    rw [stringTail]
    split
    · exact ⟨[], rfl⟩
    · exact ⟨_, rfl⟩

/-- A string that ends before some text ends there without that text too. -/
theorem stringTail_of_append (ends : stringTail (text ++ more) = (taken, left ++ more)) :
    stringTail text = (taken, left) := by
  have whole := stringTail_append (text ++ more)
  rw [ends] at whole
  fun_induction stringTail text generalizing taken with
  | case1 =>
    rcases taken_of_append whole with ⟨rfl, rfl⟩
    rfl
  | case2 rest =>
    rw [List.cons_append, stringTail, Prod.mk.injEq] at ends
    rcases ends with ⟨rfl, same⟩
    rw [List.append_cancel_right same]
  | case3 escaped rest breaks =>
    rw [List.cons_append, List.cons_append, stringTail, if_pos breaks, Prod.mk.injEq,
      ← List.cons_append] at ends
    rcases ends with ⟨rfl, same⟩
    rw [List.append_cancel_right same]
  | case4 escaped rest plain ih =>
    rw [List.cons_append, List.cons_append, stringTail, if_neg plain, Prod.mk.injEq] at ends
    rcases ends with ⟨rfl, same⟩
    rw [ih (Prod.ext rfl same) (by simpa using whole)]
  | case5 character rest quote slash breaks =>
    have plain : character ≠ '\\' := by
      rintro rfl
      cases breaks
    rw [List.cons_append, stringTail_cons quote plain, if_pos breaks, Prod.mk.injEq,
      ← List.cons_append] at ends
    rcases ends with ⟨rfl, same⟩
    rw [List.append_cancel_right same]
  | case6 character rest quote slash plain ih =>
    by_cases backslash : character = '\\'
    · subst backslash
      have none : rest = [] := by
        cases rest with
        | nil => rfl
        | cons escaped more => exact absurd rfl (slash escaped more rfl)
      subst none
      rcases exists_stringTail_backslash more with ⟨further, found⟩
      rw [List.cons_append, List.nil_append, Prod.ext_iff, found] at ends
      rcases ends with ⟨rfl, -⟩
      rw [List.cons_append, List.cons_append, List.nil_append, List.cons.injEq] at whole
      rcases taken_of_append whole.2 with ⟨rfl, rfl⟩
      rfl
    · rw [List.cons_append, stringTail_cons quote backslash, if_neg plain, Prod.mk.injEq] at ends
      rcases ends with ⟨rfl, same⟩
      rw [ih (Prod.ext rfl same) (by simpa using whole)]

theorem ne_append_cons (text front : List Char) (character : Char) :
    text ≠ front ++ character :: text := by
  intro same
  have lengths := congrArg List.length same
  rw [List.length_append, List.length_cons] at lengths
  omega

/-- A comment goes on with every character that does not begin its end. -/
theorem commentTail_cons {character : Char} {rest : List Char}
    (goesOn : ∀ further, character = '*' → rest = '/' :: further → False) :
    commentTail (character :: rest) =
      (character :: (commentTail rest).1, (commentTail rest).2) := by
  rw [commentTail]
  intro further star slash
  exact goesOn further star slash

/-- A comment that ends before some text ends there without that text too. -/
theorem commentTail_of_append (ends : commentTail (text ++ more) = (taken, left ++ more)) :
    commentTail text = (taken, left) := by
  have whole := commentTail_append (text ++ more)
  rw [ends] at whole
  fun_induction commentTail text generalizing taken with
  | case1 =>
    rcases taken_of_append whole with ⟨rfl, rfl⟩
    rfl
  | case2 rest =>
    rw [List.cons_append, List.cons_append, commentTail, Prod.mk.injEq] at ends
    rcases ends with ⟨rfl, same⟩
    rw [List.append_cancel_right same]
  | case3 character rest closes ih =>
    rw [List.cons_append, commentTail_cons, Prod.mk.injEq] at ends
    · rcases ends with ⟨rfl, same⟩
      rw [ih (Prod.ext rfl same) (by simpa using whole)]
    · rintro further rfl split
      cases rest with
      | nil =>
        rw [List.nil_append] at split
        rw [split, List.nil_append, commentTail, Prod.mk.injEq] at ends
        exact absurd ends.2 (ne_append_cons further left '/')
      | cons second rest =>
        rw [List.cons_append, List.cons.injEq] at split
        exact closes rest rfl (by rw [split.1])

theorem fractionTail_cons {character : Char} (rest : List Char) (other : character ≠ '.') :
    fractionTail (character :: rest) = ([], character :: rest) := by
  rw [fractionTail]
  intro digit further same
  exact absurd (List.cons.inj same).1 other

/-- The digit after the dot has to be in the shorter text. -/
theorem fractionTail_dot_of_append
    (ends : fractionTail ('.' :: more) = (taken, left ++ more)) :
    fractionTail ['.'] = (taken, left) := by
  cases more with
  | nil => rwa [List.append_nil] at ends
  | cons digit rest =>
    rw [fractionTail] at ends
    split at ends
    · rw [Prod.mk.injEq] at ends
      have shorter := (List.dropWhile_suffix Char.isDigit (l := rest)).length_le
      rw [ends.2, List.length_append, List.length_cons] at shorter
      omega
    · rw [Prod.mk.injEq] at ends
      rcases ends with ⟨rfl, same⟩
      rw [← List.singleton_append] at same
      rw [← List.append_cancel_right same]
      rfl

/-- A fraction that ends before some text ends there without that text too. -/
theorem fractionTail_of_append (ends : fractionTail (text ++ more) = (taken, left ++ more)) :
    fractionTail text = (taken, left) := by
  cases text with
  | nil =>
    have whole := fractionTail_append more
    rw [← List.nil_append more, ends] at whole
    rcases taken_of_append whole with ⟨rfl, rfl⟩
    rfl
  | cons character rest =>
    by_cases dot : character = '.'
    · subst dot
      cases rest with
      | nil => exact fractionTail_dot_of_append ends
      | cons digit rest =>
        rw [List.cons_append, List.cons_append, fractionTail] at ends
        rw [fractionTail]
        split at ends
        · rename_i isDigit
          rw [Prod.mk.injEq] at ends
          rcases ends with ⟨rfl, same⟩
          rcases dropWhile_of_append same with ⟨sameTaken, sameLeft⟩
          rw [if_pos isDigit, sameTaken, sameLeft]
        · rename_i isOther
          rw [Prod.mk.injEq, ← List.cons_append, ← List.cons_append] at ends
          rcases ends with ⟨rfl, same⟩
          rw [if_neg isOther, List.append_cancel_right same]
    · rw [List.cons_append, fractionTail_cons _ dot, Prod.mk.injEq, ← List.cons_append] at ends
      rcases ends with ⟨rfl, same⟩
      rw [fractionTail_cons _ dot, List.append_cancel_right same]

/-- Where nothing is left of the shorter text, the rest was not touched. -/
theorem ne_of_length_lt (fewer : taken.length < more.length) : taken ≠ left ++ more := by
  rintro rfl
  rw [List.length_append] at fewer
  omega

/-- A symbol that ends the shorter text is found with nothing after it. -/
theorem symbol_nil_of_append {first : Char} {piece : Piece}
    (ends : symbol first more = (piece, left ++ more)) : symbol first [] = (piece, left) := by
  cases more with
  | nil => rwa [List.append_nil] at ends
  | cons second rest =>
    have dropped : ∀ accepts : Char → Bool, rest.dropWhile accepts ≠ left ++ second :: rest :=
      fun accepts => ne_of_length_lt
        (Nat.lt_succ_of_le (List.dropWhile_suffix accepts).length_le)
    rw [symbol] at ends
    split at ends
    · rw [Prod.mk.injEq] at ends
      exact absurd ends.2 (ne_of_length_lt (Nat.lt_succ_self _))
    · split at ends
      · rw [Prod.mk.injEq] at ends
        exact absurd ends.2 (dropped _)
      · split at ends
        · rw [Prod.mk.injEq] at ends
          have whole := congrArg List.length (commentTail_append rest)
          rw [ends.2, List.length_append, List.length_append, List.length_cons] at whole
          omega
        · split at ends
          · rename_i token found
            rw [Prod.mk.injEq] at ends
            rcases ends with ⟨rfl, same⟩
            rw [← List.nil_append (second :: rest)] at same
            rw [symbol, found, ← List.append_cancel_right same]
            rfl
          · rename_i unfound
            rw [Prod.mk.injEq] at ends
            have whole := List.takeWhile_append_dropWhile (p := opensNothing) (l := second :: rest)
            rw [ends.2] at whole
            rcases taken_of_append whole with ⟨nothing, rfl⟩
            rw [symbol, unfound, ← ends.1, nothing]
            rfl

/-- A symbol that ends before some text ends there without that text too. -/
theorem symbol_of_append {first : Char} {piece : Piece}
    (ends : symbol first (text ++ more) = (piece, left ++ more)) :
    symbol first text = (piece, left) := by
  cases text with
  | nil => exact symbol_nil_of_append ends
  | cons second rest =>
    rw [List.cons_append] at ends
    rw [symbol] at ends ⊢
    split at ends
    · rw [Prod.mk.injEq] at ends
      rw [ends.1, List.append_cancel_right ends.2]
    · split at ends
      · rename_i lineComment
        rw [Prod.mk.injEq] at ends
        rcases dropWhile_of_append ends.2 with ⟨sameTaken, sameLeft⟩
        rw [if_pos lineComment, sameTaken, sameLeft, ends.1]
      · rename_i noLineComment
        rw [if_neg noLineComment]
        split at ends
        · rename_i blockComment
          rw [Prod.mk.injEq] at ends
          rw [if_pos blockComment, commentTail_of_append (Prod.ext rfl ends.2), ends.1]
        · rename_i noBlockComment
          rw [if_neg noBlockComment]
          split at ends
          · rw [Prod.mk.injEq, ← List.cons_append] at ends
            rw [ends.1, List.append_cancel_right ends.2]
          · rw [Prod.mk.injEq, ← List.cons_append] at ends
            rcases dropWhile_of_append ends.2 with ⟨sameTaken, sameLeft⟩
            rw [sameTaken, sameLeft, ends.1]

/-- A run that leaves no less than what was added leaves all of it. -/
theorem dropWhile_append_of_length_le {accepts : Char → Bool}
    (long : more.length ≤ ((text ++ more).dropWhile accepts).length) :
    (text ++ more).dropWhile accepts = text.dropWhile accepts ++ more := by
  rw [List.dropWhile_append] at long ⊢
  split
  · rename_i empty
    rw [if_pos empty] at long
    rw [List.isEmpty_iff.mp empty, List.nil_append]
    exact (List.dropWhile_suffix accepts).eq_of_length_le long
  · rfl

/-- A cut that ends inside of a shorter text is the same there. -/
theorem cut_of_append {first : Char} {piece : Piece}
    (ends : cut first (text ++ more) = (piece, left ++ more)) :
    cut first text = (piece, left) := by
  unfold cut at ends ⊢
  split at ends
  · rename_i word
    rw [if_pos word]
    dsimp only at ends ⊢
    rw [Prod.mk.injEq] at ends
    rcases dropWhile_of_append ends.2 with ⟨sameTaken, sameLeft⟩
    rw [sameTaken, sameLeft, ends.1]
  · rename_i noWord
    rw [if_neg noWord]
    split at ends
    · rename_i digit
      rw [if_pos digit]
      dsimp only at ends ⊢
      rw [Prod.mk.injEq] at ends
      have shorter := congrArg List.length
        (fractionTail_append ((text ++ more).dropWhile Char.isDigit))
      rw [ends.2, List.length_append, List.length_append] at shorter
      have digits : (text ++ more).dropWhile Char.isDigit = text.dropWhile Char.isDigit ++ more :=
        dropWhile_append_of_length_le (by omega)
      rcases dropWhile_of_append digits with ⟨sameTaken, -⟩
      rw [digits] at ends
      rw [fractionTail_of_append (Prod.ext rfl ends.2), sameTaken, ends.1]
    · rename_i noDigit
      rw [if_neg noDigit]
      split at ends
      · rename_i blank
        rw [if_pos blank]
        rw [Prod.mk.injEq] at ends
        rcases dropWhile_of_append ends.2 with ⟨sameTaken, sameLeft⟩
        rw [sameTaken, sameLeft, ends.1]
      · rename_i noBlank
        rw [if_neg noBlank]
        split at ends
        · rename_i quote
          rw [if_pos quote]
          rw [Prod.mk.injEq] at ends
          rw [stringTail_of_append (Prod.ext rfl ends.2), ends.1]
        · rename_i noQuote
          rw [if_neg noQuote]
          exact symbol_of_append ends

/-! ## Changing what follows a separator -/

/-- Blanks and semicolons end every piece but blanks, comments and literals. -/
def isSeparator (character : Char) : Bool :=
  character = ' ' || character = ';'

theorem isSeparator_iff {character : Char} :
    isSeparator character = true ↔ character = ' ' ∨ character = ';' := by
  simp [isSeparator]

section

variable {separator : Char} {further : List Char}

/-- A run that ends in front of a separator, or before, ends there with a blank for the separator,
unless only the blank belongs to it. -/
theorem span_blank {accepts : Char → Bool}
    (ends : (text ++ separator :: more).dropWhile accepts = left ++ separator :: more)
    (stricter : accepts ' ' = true → accepts separator = true) (further : List Char) :
    (text ++ ' ' :: further).takeWhile accepts =
        (text ++ separator :: more).takeWhile accepts ∧
      (text ++ ' ' :: further).dropWhile accepts = left ++ ' ' :: further := by
  induction text with
  | nil =>
    rw [List.nil_append] at ends ⊢
    have refused : accepts separator ≠ true := by
      intro accepted
      rw [List.dropWhile_cons, if_pos accepted] at ends
      have shorter := (List.dropWhile_suffix accepts (l := more)).length_le
      rw [ends, List.length_append, List.length_cons] at shorter
      omega
    rw [List.dropWhile_cons, if_neg refused, ← List.nil_append (separator :: more)] at ends
    rw [List.nil_append, List.takeWhile_cons, List.takeWhile_cons, List.dropWhile_cons,
      if_neg refused, if_neg (refused ∘ stricter), if_neg (refused ∘ stricter),
      ← List.append_cancel_right ends]
    exact ⟨rfl, rfl⟩
  | cons character rest ih =>
    rw [List.cons_append] at ends ⊢
    rw [List.cons_append, List.takeWhile_cons, List.takeWhile_cons, List.dropWhile_cons]
    rw [List.dropWhile_cons] at ends
    split
    · rename_i accepted
      rw [if_pos accepted] at ends
      rcases ih ends with ⟨sameTaken, sameLeft⟩
      exact ⟨congrArg _ sameTaken, sameLeft⟩
    · rename_i refused
      rw [if_neg refused, ← List.cons_append] at ends
      rw [← List.append_cancel_right ends]
      exact ⟨rfl, rfl⟩

/-- A character ends every run that it does not belong to. -/
theorem span_separator {accepts : Char → Bool} (refused : accepts separator = false)
    (text more : List Char) :
    (text ++ separator :: more).takeWhile accepts = text.takeWhile accepts ∧
      (text ++ separator :: more).dropWhile accepts =
        text.dropWhile accepts ++ separator :: more := by
  induction text with
  | nil => simp [refused]
  | cons character rest ih =>
    rw [List.cons_append, List.takeWhile_cons, List.takeWhile_cons, List.dropWhile_cons,
      List.dropWhile_cons]
    split
    · exact ⟨congrArg _ ih.1, ih.2⟩
    · exact ⟨rfl, rfl⟩

theorem length_stringTail_le (text : List Char) : (stringTail text).2.length ≤ text.length := by
  have whole := congrArg List.length (stringTail_append text)
  rw [List.length_append] at whole
  omega

theorem length_commentTail_le (text : List Char) : (commentTail text).2.length ≤ text.length := by
  have whole := congrArg List.length (commentTail_append text)
  rw [List.length_append] at whole
  omega

/-- A string that ends before a separator ends before a blank in its place. -/
theorem stringTail_blank (separates : isSeparator separator = true)
    (ends : stringTail (text ++ separator :: more) = (taken, left ++ separator :: more)) :
    stringTail (text ++ ' ' :: further) = (taken, left ++ ' ' :: further) := by
  have plain : isLineBreak separator ≠ true ∧ separator ≠ '"' ∧ separator ≠ '\\' := by
    rcases isSeparator_iff.mp separates with rfl | rfl <;> decide
  fun_induction stringTail text generalizing taken with
  | case1 =>
    rw [List.nil_append, stringTail_cons plain.2.1 plain.2.2, if_neg plain.1, Prod.mk.injEq] at ends
    exact absurd ends.2 (ne_of_length_lt (Nat.lt_succ_of_le (length_stringTail_le more)))
  | case2 rest =>
    rw [List.cons_append, stringTail, Prod.mk.injEq] at ends
    rw [List.cons_append, stringTail, ← ends.1, List.append_cancel_right ends.2]
  | case3 escaped rest breaks =>
    rw [List.cons_append, List.cons_append, stringTail, if_pos breaks, Prod.mk.injEq,
      ← List.cons_append] at ends
    rw [List.cons_append, List.cons_append, stringTail, if_pos breaks, ← ends.1,
      ← List.append_cancel_right ends.2]
    rfl
  | case4 escaped rest plain ih =>
    rw [List.cons_append, List.cons_append, stringTail, if_neg plain, Prod.mk.injEq] at ends
    rcases ends with ⟨rfl, same⟩
    rw [List.cons_append, List.cons_append, stringTail, if_neg plain, ih (Prod.ext rfl same)]
  | case5 character rest quote slash breaks =>
    have other : character ≠ '\\' := by
      rintro rfl
      cases breaks
    rw [List.cons_append, stringTail_cons quote other, if_pos breaks, Prod.mk.injEq,
      ← List.cons_append] at ends
    rw [List.cons_append, stringTail_cons quote other, if_pos breaks, ← ends.1,
      ← List.append_cancel_right ends.2]
    rfl
  | case6 character rest quote slash unbroken ih =>
    by_cases backslash : character = '\\'
    · subst backslash
      cases rest with
      | nil =>
        rw [List.cons_append, List.nil_append, stringTail, if_neg plain.1, Prod.mk.injEq] at ends
        exact absurd ends.2 (ne_of_length_lt (Nat.lt_succ_of_le (length_stringTail_le more)))
      | cons escaped rest => exact absurd rfl (slash escaped rest rfl)
    · rw [List.cons_append, stringTail_cons quote backslash, if_neg unbroken,
        Prod.mk.injEq] at ends
      rcases ends with ⟨rfl, same⟩
      rw [List.cons_append, stringTail_cons quote backslash, if_neg unbroken,
        ih (Prod.ext rfl same)]

/-- A comment that ends before a separator ends before a blank in its place. -/
theorem commentTail_blank (separates : isSeparator separator = true)
    (ends : commentTail (text ++ separator :: more) = (taken, left ++ separator :: more)) :
    commentTail (text ++ ' ' :: further) = (taken, left ++ ' ' :: further) := by
  have plain : separator ≠ '*' ∧ separator ≠ '/' := by
    rcases isSeparator_iff.mp separates with rfl | rfl <;> decide
  fun_induction commentTail text generalizing taken with
  | case1 =>
    rw [List.nil_append, commentTail_cons fun _ star => absurd star plain.1, Prod.mk.injEq] at ends
    exact absurd ends.2 (ne_of_length_lt (Nat.lt_succ_of_le (length_commentTail_le more)))
  | case2 rest =>
    rw [List.cons_append, List.cons_append, commentTail, Prod.mk.injEq] at ends
    rw [List.cons_append, List.cons_append, commentTail, ← ends.1,
      List.append_cancel_right ends.2]
  | case3 character rest closes ih =>
    have goesOn : ∀ {second : Char}, second ≠ '/' → ∀ later further : List Char,
        character = '*' → rest ++ second :: later = '/' :: further → False := by
      intro second other later further star slash
      cases rest with
      | nil => exact other (List.cons.inj slash).1
      | cons third rest =>
        rw [List.cons_append, List.cons.injEq] at slash
        exact closes rest star (by rw [slash.1])
    rw [List.cons_append, commentTail_cons (goesOn plain.2 more), Prod.mk.injEq] at ends
    rcases ends with ⟨rfl, same⟩
    rw [List.cons_append, commentTail_cons (goesOn (by decide) further), ih (Prod.ext rfl same)]

theorem fractionTail_blank (separates : isSeparator separator = true)
    (ends : fractionTail (text ++ separator :: more) = (taken, left ++ separator :: more)) :
    fractionTail (text ++ ' ' :: further) = (taken, left ++ ' ' :: further) := by
  have plain : separator ≠ '.' ∧ separator.isDigit = false := by
    rcases isSeparator_iff.mp separates with rfl | rfl <;> decide
  cases text with
  | nil =>
    rw [List.nil_append, fractionTail_cons _ plain.1, Prod.mk.injEq,
      ← List.nil_append (separator :: more)] at ends
    rw [List.nil_append, fractionTail_cons _ (by decide), ends.1,
      ← List.append_cancel_right ends.2, List.nil_append]
  | cons character rest =>
    by_cases dot : character = '.'
    · subst dot
      cases rest with
      | nil =>
        rw [List.cons_append, List.nil_append, fractionTail, if_neg (by simp [plain.2]),
          Prod.mk.injEq, ← List.singleton_append] at ends
        rw [List.cons_append, List.nil_append, fractionTail, if_neg (by decide), ends.1,
          ← List.append_cancel_right ends.2]
        rfl
      | cons digit rest =>
        rw [List.cons_append, List.cons_append, fractionTail] at ends ⊢
        split at ends
        · rename_i isDigit
          rw [Prod.mk.injEq] at ends
          rcases span_blank ends.2 (fun blank => absurd blank (by decide)) further with
            ⟨sameTaken, sameLeft⟩
          rw [if_pos isDigit, sameTaken, sameLeft, ends.1]
        · rename_i isOther
          rw [Prod.mk.injEq, ← List.cons_append, ← List.cons_append] at ends
          rw [if_neg isOther, ends.1, ← List.append_cancel_right ends.2]
          rfl
    · rw [List.cons_append, fractionTail_cons _ dot, Prod.mk.injEq, ← List.cons_append] at ends
      rw [List.cons_append, fractionTail_cons _ dot, ends.1, ← List.append_cancel_right ends.2]
      rfl

theorem pairToken?_separator (first : Char) (separates : isSeparator separator = true) :
    pairToken? first separator = none := by
  unfold pairToken?
  split <;> simp_all [isSeparator]

theorem symbol_blank {first : Char} {piece : Piece} (separates : isSeparator separator = true)
    (ends : symbol first (text ++ separator :: more) = (piece, left ++ separator :: more)) :
    symbol first (text ++ ' ' :: further) = (piece, left ++ ' ' :: further) := by
  cases text with
  | nil =>
    have plain : separator ≠ '/' ∧ separator ≠ '*' ∧ opensNothing separator = false := by
      rcases isSeparator_iff.mp separates with rfl | rfl <;> decide
    have opens : opensNothing ' ' = false := by decide
    rw [List.nil_append] at ends ⊢
    simp only [symbol, pairToken?_separator first separates, plain, and_false, List.takeWhile_cons,
      List.dropWhile_cons, Bool.false_eq_true, if_false] at ends
    simp only [symbol, pairToken?_separator first (rfl : isSeparator ' ' = true),
      show ' ' ≠ '/' by decide, show ' ' ≠ '*' by decide, and_false, List.takeWhile_cons,
      List.dropWhile_cons, opens, Bool.false_eq_true, if_false]
    split at ends <;>
      (rw [Prod.mk.injEq, ← List.nil_append (separator :: more)] at ends
       rw [← ends.1, ← List.append_cancel_right ends.2, List.nil_append])
  | cons second rest =>
    rw [List.cons_append] at ends ⊢
    rw [symbol] at ends ⊢
    split at ends
    · rw [Prod.mk.injEq] at ends
      rw [ends.1, List.append_cancel_right ends.2]
    · split at ends
      · rename_i lineComment
        rw [Prod.mk.injEq] at ends
        have unbroken : isLineBreak separator = false := by
          rcases isSeparator_iff.mp separates with rfl | rfl <;> decide
        rcases span_blank ends.2 (by simp [unbroken]) further with ⟨sameTaken, sameLeft⟩
        rw [if_pos lineComment, sameTaken, sameLeft, ends.1]
      · rename_i noLineComment
        rw [if_neg noLineComment]
        split at ends
        · rename_i blockComment
          rw [Prod.mk.injEq] at ends
          rw [if_pos blockComment, commentTail_blank separates (Prod.ext rfl ends.2), ends.1]
        · rename_i noBlockComment
          rw [if_neg noBlockComment]
          split at ends
          · rw [Prod.mk.injEq, ← List.cons_append] at ends
            rw [ends.1, ← List.append_cancel_right ends.2]
            rfl
          · rw [Prod.mk.injEq, ← List.cons_append] at ends
            rcases span_blank ends.2 (fun blank => absurd blank (by decide)) further with
              ⟨sameTaken, sameLeft⟩
            rw [← List.cons_append, sameTaken, sameLeft, ends.1]

/-- A cut that ends in front of a separator, or before, is the same with a blank for the separator,
whatever follows.  Only a blank in front of it would go on. -/
theorem cut_blank {first : Char} {piece : Piece} (separates : isSeparator separator = true)
    (ends : cut first (text ++ separator :: more) = (piece, left ++ separator :: more))
    (visible : piece.token ≠ .whitespace) (further : List Char) :
    cut first (text ++ ' ' :: further) = (piece, left ++ ' ' :: further) := by
  unfold cut at ends ⊢
  split at ends
  · rename_i word
    rw [if_pos word]
    dsimp only at ends ⊢
    rw [Prod.mk.injEq] at ends
    rcases span_blank ends.2 (fun blank => absurd blank (by decide)) further with
      ⟨sameTaken, sameLeft⟩
    rw [sameTaken, sameLeft, ends.1]
  · rename_i noWord
    rw [if_neg noWord]
    split at ends
    · rename_i digit
      rw [if_pos digit]
      dsimp only at ends ⊢
      have refused : separator.isDigit = false := by
        rcases isSeparator_iff.mp separates with rfl | rfl <;> decide
      rcases span_separator refused text more with ⟨shortTaken, shortLeft⟩
      rcases span_separator (rfl : Char.isDigit ' ' = false) text further with
        ⟨sameTaken, sameLeft⟩
      rw [shortTaken, shortLeft, Prod.mk.injEq] at ends
      rw [sameTaken, sameLeft, fractionTail_blank separates (Prod.ext rfl ends.2), ends.1]
    · rename_i noDigit
      rw [if_neg noDigit]
      split at ends
      · rw [Prod.mk.injEq] at ends
        exact absurd (congrArg Piece.token ends.1).symm visible
      · rename_i noBlank
        rw [if_neg noBlank]
        split at ends
        · rename_i quote
          rw [if_pos quote]
          rw [Prod.mk.injEq] at ends
          rw [stringTail_blank separates (Prod.ext rfl ends.2), ends.1]
        · rename_i noQuote
          rw [if_neg noQuote]
          exact symbol_blank separates ends

/-- A blank starts a piece of blanks, as long as it gets. -/
theorem cut_of_isBlank {first : Char} (blank : isBlank first = true) (rest : List Char) :
    cut first rest =
      (⟨.whitespace, first :: rest.takeWhile isBlank⟩, rest.dropWhile isBlank) := by
  have unread : isWordStart first = false ∧ first.isDigit = false := by
    simp only [isBlank, isLineBreak, Bool.or_eq_true, decide_eq_true_eq] at blank
    rcases blank with ((((rfl | rfl) | rfl) | rfl) | rfl) | rfl <;> decide
  rw [cut, unread.1, unread.2, blank]
  rfl

end

end ScriptTree.Piece
