import ScriptTree.Proofs.Lexeme.Printing
import ScriptTree.Proofs.Lexeme.Problems
import ScriptTree.Proofs.Lexeme.Slice

/-!
# A slice between other tokens

Lexemes in a row are cut out of a source with all blanks and comments between them.
Behind printed tokens and in front of a semicolon their text is cut as it was: the
last printed token ends in a blank, and what ends in front of the semicolon is
neither a line comment nor, without lexical errors, anything that is not closed.
-/

namespace ScriptTree

namespace Piece

theorem takeWhile_isBlank {text : List Char}
    (visible : ∀ piece ∈ (all text).head?, piece.token ≠ .whitespace) :
    text.takeWhile isBlank = [] := by
  cases text with
  | nil => rfl
  | cons first rest =>
    rw [all_cons] at visible
    rw [List.takeWhile_cons, if_neg]
    intro blank
    exact visible _ rfl (congrArg (·.1.token) (cut_of_isBlank blank rest))

/-- A semicolon behind a text is a piece of its own, unless the text ends in a line comment or in
something that is not closed. -/
theorem all_semicolon {text : List Char} (sound : ∀ piece ∈ all text, piece.IsSound)
    (ends : ∀ piece ∈ (all text).getLast?, piece.token ≠ .lineComment) :
    all (text ++ [';']) = all text ++ [⟨.semicolon, [';']⟩] := by
  fun_induction all text with
  | case1 => decide +kernel
  | case2 first rest ih =>
    rw [List.forall_mem_cons] at sound
    rw [List.getLast?_cons] at ends
    have apart : StaysApart ';' (cut first rest).1 (cut first rest).2 :=
      { blank := fun _ => by decide
        closed := sound.1.isClosed
        comment := by
          refine fun comment => .inr fun last => ?_
          rw [last, all] at ends
          exact ends _ rfl comment
        quoted := fun literal => .inr (sound.1.isTerminated literal) }
    have later : ∀ piece ∈ (all (cut first rest).2).getLast?, piece.token ≠ .lineComment := by
      intro piece member
      rw [Option.mem_def.mp member] at ends
      exact ends piece rfl
    rw [List.cons_append, all_cons, cut_separator rest [] separates_semicolon apart,
      ih sound.2 later, List.cons_append]

/-- A piece with the token of a significant lexeme is significant. -/
theorem isTrivia_eq_false_of_map_eq {found : Option Piece} {lexeme? : Option Lexeme}
    (same : found.map Piece.token = lexeme?.map (·.token))
    (significant : ∀ lexeme ∈ lexeme?, lexeme.token.isTrivia = false) :
    ∀ piece ∈ found, piece.token.isTrivia = false := by
  intro piece member
  rw [Option.mem_def.mp member] at same
  rcases Option.map_eq_some_iff.mp same.symm with ⟨lexeme, present, token⟩
  exact token ▸ significant lexeme present

end Piece

/-- Between spellable tokens and a semicolon a text without lexical errors is cut as it is alone, if
what it starts with and what it ends with are significant. -/
theorem Mark.all_print_enclosing {heading : List Mark}
    (spellable : ∀ mark ∈ heading, mark.isSpellable = true) {text : List Char}
    (sound : ∀ piece ∈ Piece.all text, piece.IsSound)
    (first : ∀ piece ∈ (Piece.all text).head?, piece.token.isTrivia = false)
    (last : ∀ piece ∈ (Piece.all text).getLast?, piece.token.isTrivia = false) :
    Piece.all (print heading ++ (text ++ [';'])) =
      (heading.flatMap fun mark => [mark.piece, ⟨.whitespace, [' ']⟩]) ++
        (Piece.all text ++ [⟨.semicolon, [';']⟩]) := by
  have closing : Piece.all (text ++ [';']) = Piece.all text ++ [⟨.semicolon, [';']⟩] := by
    refine Piece.all_semicolon sound fun piece member comment => ?_
    have significant := last piece member
    rw [comment] at significant
    cases significant
  have visible : (text ++ [';']).takeWhile Piece.isBlank = [] := by
    refine Piece.takeWhile_isBlank fun piece member blank => ?_
    rw [closing, List.head?_append] at member
    rcases Option.or_eq_some_iff.mp member with own | ⟨-, semicolon⟩
    · have significant := first piece own
      rw [blank] at significant
      cases significant
    · cases semicolon
      cases blank
  rw [all_print_append spellable visible, closing]

namespace Lexing

/-- A text behind printed tokens and in front of a semicolon. -/
def enclosed (heading : List Mark) (part : String) : String :=
  String.ofList (Mark.print heading ++ (part.toList ++ [';']))

variable {source : String} {before own after : List Lexeme} {whole : Range}

/-- Between spellable tokens and a semicolon the text of some lexemes is cut as it was, and nothing
is wrong with it if nothing is wrong with the source. -/
theorem all_enclosed (within : (ofSource source).lexemes = before ++ own ++ after)
    (stretched : PlacedToken.stretch? (own.map Lexeme.toPlacedToken) = some whole)
    (errorless : ∀ diagnostic ∈ (ofSource source).diagnostics, diagnostic.isError = false)
    {heading : List Mark} (spellable : ∀ mark ∈ heading, mark.isSpellable = true) :
    ∃ pieces, Piece.all (enclosed heading (whole.text source)).toList =
        (heading.flatMap fun mark => [mark.piece, ⟨.whitespace, [' ']⟩]) ++
          (pieces ++ [⟨.semicolon, [';']⟩]) ∧
      (pieces.filter fun piece => !piece.token.isTrivia).map Piece.mark = own.map Lexeme.mark ∧
      ∀ piece ∈ pieces, piece.IsSound := by
  rcases exists_pieces within stretched with
    ⟨front, pieces, back, divided, kept, rfl, heads, lasts⟩
  have texts := Piece.flatMap_text_all source.toList
  rw [divided, List.flatMap_append, List.flatMap_append] at texts
  have sound : ∀ piece ∈ pieces, piece.IsSound := by
    intro piece member
    refine forall_isError_eq_false_iff.mp errorless piece ?_
    rw [divided]
    exact List.mem_append_left _ (List.mem_append_right _ member)
  -- What a row of lexemes starts and ends with is significant.
  have significant : ∀ lexeme ∈ own, lexeme.token.isTrivia = false := by
    intro lexeme member
    rw [← kept] at member
    simpa using (List.mem_filter.mp member).2
  have first := Piece.isTrivia_eq_false_of_map_eq heads fun lexeme head =>
    significant lexeme (List.mem_of_head? head)
  have last := Piece.isTrivia_eq_false_of_map_eq lasts fun lexeme final =>
    significant lexeme (List.mem_of_getLast? final)
  have alone := Piece.all_flatMap_middle divided
  refine ⟨pieces, ?_, ?_, sound⟩
  · rw [LineIndex.text_range texts.symm, enclosed, String.toList_ofList, String.toList_ofList,
      Mark.all_print_enclosing spellable, alone]
    · rwa [alone]
    · rwa [alone]
    · rwa [alone]
  · rw [← Lexeme.marks_place, kept]

/-- Enclosed lexemes are read as they were, without a lexical error. -/
theorem marks_enclosed (within : (ofSource source).lexemes = before ++ own ++ after)
    (stretched : PlacedToken.stretch? (own.map Lexeme.toPlacedToken) = some whole)
    (errorless : ∀ diagnostic ∈ (ofSource source).diagnostics, diagnostic.isError = false)
    {heading : List Mark} (spellable : ∀ mark ∈ heading, mark.isSpellable = true)
    (faithful : ∀ mark ∈ heading, mark.piece.mark = mark) :
    (ofSource (enclosed heading (whole.text source))).lexemes.map Lexeme.mark =
        heading ++ (own.map Lexeme.mark ++ [⟨.semicolon, none⟩]) ∧
      ∀ diagnostic ∈ (ofSource (enclosed heading (whole.text source))).diagnostics,
        diagnostic.isError = false := by
  rcases all_enclosed within stretched errorless spellable with ⟨pieces, divided, kept, sound⟩
  constructor
  · have visible : ∀ mark ∈ heading, mark.token.isTrivia = false := by
      intro mark member
      have fine := spellable mark member
      simp only [Mark.isSpellable, Bool.and_eq_true, Bool.not_eq_true'] at fine
      exact fine.1.1.2
    rw [ofSource, ofLexemes, Lexeme.tokenize, divided]
    dsimp only
    rw [Lexeme.marks_place, List.filter_append, List.map_append,
      Mark.marks_pieces faithful visible, List.filter_append, List.map_append, kept]
    rfl
  · rw [forall_isError_eq_false_iff, divided]
    intro piece member
    rw [List.mem_append, List.mem_append, List.mem_flatMap, List.mem_singleton] at member
    rcases member with ⟨mark, written, isPart⟩ | among | rfl
    · rw [List.mem_cons, List.mem_singleton] at isPart
      rcases isPart with rfl | rfl
      · exact Piece.isSound_of_problems_eq_nil
          (List.map_eq_nil_iff.mpr (Mark.problems_eq_nil (spellable mark written) rfl rfl _))
      · exact Piece.isSound_of_problems_eq_nil rfl
    · exact sound piece among
    · exact Piece.isSound_of_problems_eq_nil rfl

end Lexing

end ScriptTree
