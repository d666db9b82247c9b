import ScriptTree.Proofs.Lexeme.Slice

/-!
# A semicolon replaced by a blank

A semicolon is a piece of its own, and what is cut in front of it and behind it
does not depend on it.  So a source with a blank in the place of a semicolon has
the same lexemes in the same places, without that semicolon.  Only blanks are
cut in another way, since the new one joins those around it.
-/

namespace ScriptTree

/-- A word is a keyword or a name. -/
theorem Keyword.isKeyword_or_identifier (word : List Char) :
    (classify word).isKeyword = true ∨ classify word = .identifier := by
  have keywords : ∀ entry ∈ table, entry.1.isKeyword = true := by decide
  unfold classify lookup
  cases found : table.find? fun entry => word ∈ spellingsOf entry.2.toList with
  | none => exact .inr rfl
  | some entry => exact .inl (keywords entry (List.mem_of_find?_eq_some found))

/-- A word is a keyword or a name, and nothing else. -/
theorem Keyword.classify_ne {token : Token} (word : List Char) (plain : token.isKeyword = false)
    (other : token ≠ .identifier) : classify word ≠ token := by
  rintro rfl
  rcases isKeyword_or_identifier word with keyword | name
  · rw [plain] at keyword
    cases keyword
  · exact other name

namespace Piece

/-- A token that is not made of two characters or more is made of one. -/
theorem symbol_of_token {first : Char} {rest : List Char} {token : Token}
    (found : (symbol first rest).1.token = token)
    (single : ∀ first second, pairToken? first second ≠ some token)
    (plain : token ∉ [Token.lineComment, .blockComment, .error]) :
    singleToken? first = some token ∧ (symbol first rest).1.text = [first] := by
  revert found
  fun_cases symbol first rest with
  | case1 second rest token pair =>
    rintro rfl
    exact absurd pair (single first second)
  | case2 | case3 | case5 =>
    rintro rfl
    exact absurd (by simp) plain
  | case4 second rest _ _ _ token here =>
    rintro rfl
    exact ⟨here, rfl⟩
  | case6 =>
    intro found
    cases here : singleToken? first with
    | none =>
      rw [here] at found
      cases found
      exact absurd (by simp) plain
    | some token =>
      rw [here] at found
      cases found
      exact ⟨rfl, rfl⟩

/-- A symbol is no word, no number, no string and no blank. -/
theorem token_symbol_ne {first : Char} {rest : List Char} {token : Token}
    (other : token.isKeyword = true ∨
      token ∈ [Token.identifier, .number, .string, .whitespace]) :
    (symbol first rest).1.token ≠ token := by
  have absent : ¬((symbol first rest).1.token.isKeyword = true ∨ (symbol first rest).1.token ∈
      [Token.identifier, .number, .string, .whitespace]) := by
    apply of_decide_eq_false
    fun_cases symbol first rest with
    | case1 second rest token pair =>
      unfold pairToken? at pair
      split at pair <;> cases pair <;> rfl
    | case2 | case3 | case5 => rfl
    | case4 second rest _ _ _ token single =>
      unfold singleToken? at single
      split at single <;> cases single <;> rfl
    | case6 =>
      unfold singleToken?
      split <;> rfl
  rintro rfl
  exact absent other

/-- A semicolon is written as itself. -/
theorem text_of_semicolon {first : Char} {rest : List Char}
    (found : (cut first rest).1.token = .semicolon) : (cut first rest).1.text = [';'] := by
  revert found
  fun_cases cut first rest with
  | case1 => exact fun found => absurd found (Keyword.classify_ne _ rfl (by decide))
  | case2 | case3 | case4 => rintro ⟨⟩
  | case5 =>
    intro found
    have single : ∀ first second, pairToken? first second ≠ some .semicolon := by
      intro first second pair
      unfold pairToken? at pair
      split at pair <;> cases pair
    rcases symbol_of_token found single (by decide) with ⟨here, text⟩
    unfold singleToken? at here
    split at here <;> first | exact text | cases here

/-- A piece of a text is cut from what follows the pieces before it. -/
theorem exists_cut_of_mem_all {text : List Char} {piece : Piece} (member : piece ∈ all text) :
    ∃ first rest, (cut first rest).1 = piece := by
  fun_induction all text with
  | case1 => cases member
  | case2 first rest ih =>
    rcases List.mem_cons.mp member with rfl | later
    · exact ⟨first, rest, rfl⟩
    · exact ih later

/-- A semicolon among the pieces is the character itself. -/
theorem eq_semicolon_of_mem_all {text : List Char} {piece : Piece} (member : piece ∈ all text)
    (found : piece.token = .semicolon) : piece = ⟨.semicolon, [';']⟩ := by
  rcases exists_cut_of_mem_all member with ⟨first, rest, rfl⟩
  rw [← found, ← text_of_semicolon found]

/-- Only blanks are cut as blanks. -/
theorem isBlank_of_mem_whitespace {first : Char} {rest : List Char}
    (found : (cut first rest).1.token = .whitespace) :
    ∀ character ∈ (cut first rest).1.text, isBlank character = true := by
  revert found
  fun_cases cut first rest with
  | case1 => exact fun found => absurd found (Keyword.classify_ne _ rfl (by decide))
  | case2 | case4 => rintro ⟨⟩
  | case3 _ _ blank =>
    intro _ character member
    rcases List.mem_cons.mp member with rfl | later
    · exact blank
    · exact List.all_eq_true.mp (List.all_takeWhile ..) character later
  | case5 => exact fun found => absurd found (token_symbol_ne (by decide))

end Piece

/-! ## Pieces in their places -/

namespace Lexeme

/-- The lexemes that are no blanks. -/
def visible (lexemes : List Lexeme) : List Lexeme :=
  lexemes.filter fun lexeme => lexeme.token ≠ .whitespace

variable {index : LineIndex} {offset : Nat}

@[simp]
theorem visible_append (first second : List Lexeme) :
    visible (first ++ second) = visible first ++ visible second :=
  List.filter_append ..

/-- A blank in front of a text moves what is visible, and nothing else. -/
theorem visible_place_cons {blank : Char} (isBlank : Piece.isBlank blank = true)
    (rest : List Char) :
    visible (place index offset (Piece.all (blank :: rest))) =
      visible (place index (offset + blank.utf8Size) (Piece.all rest)) := by
  rw [Piece.all_cons, Piece.cut_of_isBlank isBlank]
  cases rest with
  | nil => rfl
  | cons next rest =>
    by_cases more : Piece.isBlank next = true
    · rw [Piece.all_cons, Piece.cut_of_isBlank more, List.takeWhile_cons, List.dropWhile_cons,
        if_pos more, if_pos more, place, place]
      simp [visible, Text.byteLength, Nat.add_assoc]
    · rw [List.takeWhile_cons, List.dropWhile_cons, if_neg more, if_neg more, place]
      simp [visible, Text.byteLength]

/-- Blanks in front are not visible. -/
theorem visible_place_blanks {blanks : List Char}
    (areBlank : ∀ character ∈ blanks, Piece.isBlank character = true) (rest : List Char) :
    visible (place index offset (Piece.all (blanks ++ rest))) =
      visible (place index (offset + Text.byteLength blanks) (Piece.all rest)) := by
  induction blanks generalizing offset with
  | nil => rfl
  | cons blank blanks ih =>
    rw [List.cons_append, visible_place_cons (areBlank blank List.mem_cons_self),
      ih fun character member => areBlank character (List.mem_cons_of_mem _ member),
      Text.byteLength, Nat.add_assoc]

/-- With a blank for a semicolon the same lexemes are visible, but for the semicolon. -/
theorem visible_place_blank {before after : List Piece} {back : List Char}
    (divided : Piece.all (before.flatMap Piece.text ++ ';' :: back) =
      before ++ ⟨.semicolon, [';']⟩ :: after) :
    visible (place index offset (Piece.all (before.flatMap Piece.text ++ ' ' :: back))) =
      visible (place index offset before) ++
        visible (place index (offset + Text.byteLength (before.flatMap Piece.text) + 1) after) := by
  induction before generalizing offset with
  | nil =>
    have later : Piece.all (after.flatMap Piece.text) = after :=
      Piece.all_of_all_eq_append (divided.trans (List.append_cons [] _ after))
    have whole := Piece.flatMap_text_all (';' :: back)
    rw [List.flatMap_nil, List.nil_append] at divided
    rw [divided, List.nil_append, List.flatMap_cons, List.singleton_append,
      List.cons.injEq] at whole
    rw [List.flatMap_nil, List.nil_append, visible_place_cons (by decide), ← whole.2, later]
    rfl
  | cons piece others ih =>
    rw [List.flatMap_cons, List.append_assoc] at divided ⊢
    have written : piece.text ≠ [] := by
      apply Piece.text_ne_nil_of_mem_all
      rw [divided]
      exact List.mem_cons_self
    rcases List.exists_cons_of_ne_nil written with ⟨first, taken, text⟩
    rw [text, List.cons_append, Piece.all_cons, List.cons_append, List.cons.injEq] at divided
    rcases divided with ⟨found, later⟩
    have cut : Piece.cut first (taken ++ (others.flatMap Piece.text ++ ';' :: back)) =
        (piece, others.flatMap Piece.text ++ ';' :: back) := by
      refine Prod.ext found ?_
      have whole := Piece.cut_append first (taken ++ (others.flatMap Piece.text ++ ';' :: back))
      rw [found, text, List.cons_append, List.cons.injEq] at whole
      exact List.append_cancel_left whole.2
    rw [cut] at later
    have rest := @ih (offset + Text.byteLength piece.text) later
    rw [Text.byteLength_append, ← Nat.add_assoc, place]
    by_cases blank : piece.token = .whitespace
    · have areBlank := Piece.isBlank_of_mem_whitespace
        ((congrArg (fun cut => cut.1.token) cut).trans blank)
      rw [cut] at areBlank
      rw [visible_place_blanks areBlank, rest]
      simp [visible, blank]
    · rw [← List.append_assoc] at cut
      have same := Piece.cut_blank rfl cut blank back
      rw [text, List.cons_append, ← List.append_assoc, Piece.all_cons, same, place, ← text]
      simpa [visible, blank] using rest

end Lexeme

/-! ## Sources -/

/-- Neither a semicolon nor a blank ends a line, and both take one byte. -/
theorem LineIndex.startsFrom_blank (offset : Nat) (front back : List Char) :
    startsFrom offset (front ++ ' ' :: back) = startsFrom offset (front ++ ';' :: back) := by
  induction front generalizing offset with
  | nil => rfl
  | cons character rest ih => rw [List.cons_append, List.cons_append, startsFrom, startsFrom, ih]

namespace Lexing

/-- What is kept of lexemes are the visible ones that are no trivia. -/
theorem lexemes_ofLexemes (index : LineIndex) (lexemes : List Lexeme) :
    (ofLexemes index lexemes).lexemes =
      (Lexeme.visible lexemes).filter fun lexeme => !lexeme.token.isTrivia := by
  rw [Lexeme.visible, List.filter_filter]
  apply List.filter_congr
  intro lexeme _
  cases lexeme.token <;> rfl

/-- A blank has no problems. -/
theorem diagnostics_ofLexemes (index : LineIndex) (lexemes : List Lexeme) :
    (ofLexemes index lexemes).diagnostics =
      (Lexeme.visible lexemes).flatMap (Lexeme.problems index) := by
  change lexemes.flatMap (Lexeme.problems index) = _
  induction lexemes with
  | nil => rfl
  | cons lexeme rest ih =>
    rw [List.flatMap_cons, ih]
    by_cases blank : lexeme.token = .whitespace
    · have none : lexeme.problems index = [] := by rw [Lexeme.problems, blank]
      simp [Lexeme.visible, blank, none]
    · simp [Lexeme.visible, blank]

/-- Where the significant lexemes are divided, the pieces are. -/
theorem exists_piece {source : String} {passed left : List Lexeme} {lexeme : Lexeme}
    (divided : (ofSource source).lexemes = passed ++ lexeme :: left) :
    ∃ before piece after, Piece.all source.toList = before ++ piece :: after ∧
      (Lexeme.place (.ofSource source) 0 before).filter (fun lexeme => !lexeme.token.isTrivia) =
        passed ∧
      Lexeme.place (.ofSource source) (Text.byteLength (before.flatMap Piece.text)) [piece] =
        [lexeme] ∧
      (Lexeme.place (.ofSource source)
        (Text.byteLength (before.flatMap Piece.text) + Text.byteLength piece.text) after).filter
          (fun lexeme => !lexeme.token.isTrivia) = left := by
  rcases List.filter_eq_append_iff.mp divided with ⟨early, late, placed, kept, later⟩
  rcases List.filter_eq_cons_iff.mp later with ⟨idle, more, rfl, refused, -, keptLater⟩
  rw [← List.append_assoc] at placed
  rcases Lexeme.exists_of_place_eq_append placed with ⟨before, rest, pieces, passes, placedRest⟩
  rw [Nat.zero_add] at placedRest
  cases rest with
  | nil => cases placedRest
  | cons piece after =>
    rw [Lexeme.place, List.cons.injEq] at placedRest
    refine ⟨before, piece, after, pieces, ?_, congrArg (fun lexeme => [lexeme]) placedRest.1, ?_⟩
    · rw [passes, List.filter_append, kept, List.filter_eq_nil_iff.mpr refused, List.append_nil]
    · rw [placedRest.2, keptLater]

/-- A source with a blank for a semicolon has the same lexemes but for that semicolon, and the same
problems in them. -/
theorem exists_blank {source : String} {passed left : List Lexeme} {semicolon : Lexeme}
    (divided : (ofSource source).lexemes = passed ++ semicolon :: left)
    (isSemicolon : semicolon.token = .semicolon) :
    ∃ front back, source.toList = front ++ ';' :: back ∧
      Text.byteLength front = semicolon.range.span.start ∧
      (ofSource (String.ofList (front ++ ' ' :: back))).lexemes = passed ++ left ∧
      (ofSource (String.ofList (front ++ ' ' :: back))).diagnostics =
        (ofSource source).diagnostics := by
  rcases exists_piece divided with ⟨before, piece, after, pieces, kept, placed, keptLater⟩
  cases placed
  have member : piece ∈ Piece.all source.toList := by
    rw [pieces]
    exact List.mem_append_right _ List.mem_cons_self
  cases Piece.eq_semicolon_of_mem_all member isSemicolon
  have whole := Piece.flatMap_text_all source.toList
  rw [pieces, List.flatMap_append, List.flatMap_cons, List.singleton_append] at whole
  have index : LineIndex.ofSource
      (String.ofList (before.flatMap Piece.text ++ ' ' :: after.flatMap Piece.text)) =
        .ofSource source := by
    apply LineIndex.ofSource_congr
    rw [String.toList_ofList, ← whole, LineIndex.startsFrom_blank]
  have divided := pieces
  rw [← whole] at divided
  have visible := @Lexeme.visible_place_blank (.ofSource source) 0 _ _ _ divided
  rw [Nat.zero_add] at visible
  refine ⟨before.flatMap Piece.text, after.flatMap Piece.text, whole.symm, rfl, ?_, ?_⟩
  · rw [ofSource, lexemes_ofLexemes, index, Lexeme.tokenize, String.toList_ofList, visible,
      List.filter_append, ← lexemes_ofLexemes (.ofSource source),
      ← lexemes_ofLexemes (.ofSource source)]
    exact congrArg₂ (· ++ ·) kept keptLater
  · rw [ofSource, diagnostics_ofLexemes, index, Lexeme.tokenize, String.toList_ofList, visible,
      ofSource, diagnostics_ofLexemes, Lexeme.tokenize, pieces, Lexeme.place_append,
      Lexeme.visible_append, List.flatMap_append, List.flatMap_append, Nat.zero_add, Lexeme.place]
    rfl

end Lexing

end ScriptTree
