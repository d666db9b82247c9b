import ScriptTree.Proofs.Lexeme.Cutting
import ScriptTree.Proofs.Lexeme.Segments
import ScriptTree.Proofs.Syntax.Regular

/-!
# Printed tokens

Tokens are printed one after the other with a blank after each of them.  The
blank keeps them apart, so they are cut just where they were put together.
-/

namespace ScriptTree

open Slot

/-! ## String literals without problems -/

namespace StringLiteral

/-- Whether a segment is plain, or an escape that stands for one character. -/
def Segment.isKnown : Segment → Bool
  | .plain _ => true
  | .escape meaning _ => meaning.isInvalid?.isNone

/-- A string literal with a closing quote and known escapes. -/
def isValid (lexeme : List Char) : Bool :=
  isTerminated lexeme && (segments (body lexeme)).all Segment.isKnown

/-- Where all escapes are known, there is no issue. -/
theorem issuesFrom_eq_nil {parts : List Segment} (known : parts.all Segment.isKnown = true)
    (base : Nat) : issuesFrom base parts = [] := by
  induction parts generalizing base with
  | nil => rfl
  | cons part rest ih =>
    rw [List.all_cons, Bool.and_eq_true] at known
    cases part with
    | plain run =>
      rw [issuesFrom]
      exact ih known.2 _
    | escape meaning tail =>
      have valid : meaning.isInvalid? = none := Option.isNone_iff_eq_none.mp known.1
      rw [issuesFrom, valid]
      exact ih known.2 _

end StringLiteral

/-! ## Marks -/

namespace Mark

/-- The text that a mark is printed as. -/
def chars (mark : Mark) : List Char :=
  ((mark.text <|> mark.token.spelling?).getD "").toList

/-- A mark as the piece of text it is written as. -/
def piece (mark : Mark) : Piece :=
  ⟨mark.token, mark.chars⟩

/-- Whether the text is cut as this token where a blank follows it, without a problem. -/
def isSpellable (mark : Mark) : Bool :=
  Piece.all (mark.chars ++ [' ']) = [mark.piece, ⟨.whitespace, [' ']⟩] &&
    !mark.token.isTrivia && !mark.token.isError &&
    (mark.token ≠ .string || StringLiteral.isValid mark.chars)

/-- A token with a fixed text is always spellable. -/
theorem isSpellable_of_isFixed {token : Token} (fixed : token.isFixed = true) :
    isSpellable ⟨token, none⟩ = true := by
  revert fixed
  cases token <;> decide +kernel

/-- Marks with a blank after each of them. -/
def print (marks : List Mark) : List Char :=
  marks.flatMap fun mark => mark.chars ++ [' ']

/-! ## Cutting what was printed -/

variable {mark : Mark}

theorem chars_ne_nil (spellable : mark.isSpellable = true) : mark.chars ≠ [] := by
  simp only [isSpellable, Bool.and_eq_true, decide_eq_true_eq] at spellable
  have member : mark.piece ∈ Piece.all (mark.chars ++ [' ']) := by
    rw [spellable.1.1.1]
    exact List.mem_cons_self
  exact Piece.text_ne_nil_of_mem_all member

/-- The first cut takes the whole text of the mark, whatever comes after the blank. -/
theorem cut_print (spellable : mark.isSpellable = true) {first : Char} {rest : List Char}
    (text : mark.chars = first :: rest) (more : List Char) :
    Piece.cut first (rest ++ ' ' :: more) = (mark.piece, ' ' :: more) := by
  simp only [isSpellable, Bool.and_eq_true, decide_eq_true_eq] at spellable
  have pieces := spellable.1.1.1
  rw [text, List.cons_append, Piece.all, List.cons.injEq] at pieces
  have remaining := Piece.flatMap_text_all (Piece.cut first (rest ++ [' '])).2
  rw [pieces.2] at remaining
  have visible : mark.token ≠ .whitespace := by
    intro blank
    have significant := spellable.1.1.2
    rw [blank] at significant
    cases significant
  have ends : Piece.cut first (rest ++ [' ']) = (mark.piece, [] ++ [' ']) :=
    Prod.ext pieces.1 remaining.symm
  exact Piece.cut_blank rfl ends visible more

/-- No text starts with a blank. -/
theorem isBlank_eq_false (spellable : mark.isSpellable = true) {first : Char} {rest : List Char}
    (text : mark.chars = first :: rest) : Piece.isBlank first = false := by
  apply Bool.eq_false_iff.mpr
  intro blank
  have cut := Piece.cut_of_isBlank blank (rest ++ [' '])
  rw [cut_print spellable text []] at cut
  have kept : mark.token = .whitespace := congrArg (fun cut => cut.1.token) cut
  simp only [isSpellable, Bool.and_eq_true, kept] at spellable
  cases spellable.1.1.2

/-- A blank in front of something visible is a piece of its own. -/
theorem all_blank {text : List Char} (visible : text.takeWhile Piece.isBlank = []) :
    Piece.all (' ' :: text) = ⟨.whitespace, [' ']⟩ :: Piece.all text := by
  have whole := List.takeWhile_append_dropWhile (p := Piece.isBlank) (l := text)
  rw [visible, List.nil_append] at whole
  rw [Piece.all]
  rw [Piece.cut_of_isBlank (by decide), visible, whole]

/-- Printed marks do not begin with a blank. -/
theorem takeWhile_print {marks : List Mark} (spellable : ∀ mark ∈ marks, mark.isSpellable = true)
    {more : List Char} (visible : more.takeWhile Piece.isBlank = []) :
    (print marks ++ more).takeWhile Piece.isBlank = [] := by
  cases marks with
  | nil => exact visible
  | cons mark rest =>
    have here := spellable mark List.mem_cons_self
    rcases List.exists_cons_of_ne_nil (chars_ne_nil here) with ⟨first, further, text⟩
    have visible := isBlank_eq_false here text
    rw [print, List.flatMap_cons, text]
    simp [visible]

/-- What was printed is cut into its marks and the blanks between them, whatever comes after it. -/
theorem all_print_append {marks : List Mark}
    (spellable : ∀ mark ∈ marks, mark.isSpellable = true) {more : List Char}
    (visible : more.takeWhile Piece.isBlank = []) :
    Piece.all (print marks ++ more) =
      (marks.flatMap fun mark => [mark.piece, ⟨.whitespace, [' ']⟩]) ++ Piece.all more := by
  induction marks with
  | nil => rfl
  | cons mark rest ih =>
    have here := spellable mark List.mem_cons_self
    have there := fun other member => spellable other (List.mem_cons_of_mem mark member)
    rcases List.exists_cons_of_ne_nil (chars_ne_nil here) with ⟨first, further, text⟩
    have printed : print (mark :: rest) ++ more =
        first :: (further ++ ' ' :: (print rest ++ more)) := by
      rw [print, List.flatMap_cons, text]
      simp [print]
    rw [printed, Piece.all, cut_print here text, all_blank (takeWhile_print there visible),
      ih there, List.flatMap_cons]
    rfl

/-- What was printed is cut into its marks and the blanks between them. -/
theorem all_print {marks : List Mark} (spellable : ∀ mark ∈ marks, mark.isSpellable = true) :
    Piece.all (print marks) = marks.flatMap fun mark => [mark.piece, ⟨.whitespace, [' ']⟩] := by
  have alone := @all_print_append marks spellable [] rfl
  rwa [List.append_nil, Piece.all, List.append_nil] at alone

end Mark

/-! ## The lexemes of what was printed -/

/-- The mark that a piece of text leaves. -/
def Piece.mark (piece : Piece) : Mark :=
  ⟨piece.token, if piece.token.bearsText then some (String.ofList piece.text) else none⟩

namespace Lexeme

/-- Placing pieces keeps their marks. -/
theorem marks_place (index : LineIndex) (offset : Nat) (pieces : List Piece) :
    ((place index offset pieces).filter fun lexeme => !lexeme.token.isTrivia).map mark =
      (pieces.filter fun piece => !piece.token.isTrivia).map Piece.mark := by
  induction pieces generalizing offset with
  | nil => rfl
  | cons piece rest ih =>
    rw [place, List.filter_cons, List.filter_cons]
    dsimp only
    split
    · rw [List.map_cons, List.map_cons, ih]
      rfl
    · exact ih _

/-- A blank has no problems, and no spellable text has any. -/
theorem problems_eq_nil {lexeme : Lexeme} (index : LineIndex)
    (readable : lexeme.token.isError = false) (noComment : lexeme.token ≠ .blockComment)
    (valid : lexeme.token = .string → StringLiteral.isValid lexeme.text.toList = true) :
    lexeme.problems index = [] := by
  unfold problems
  split
  · rename_i found
    have valid := valid found
    rw [StringLiteral.isValid, Bool.and_eq_true] at valid
    rw [stringProblems, StringLiteral.escapeIssues_eq, StringLiteral.issuesFrom_eq_nil valid.2,
      if_pos valid.1]
    rfl
  · rename_i found
    exact absurd found noComment
  · rename_i found
    rw [found] at readable
    cases readable
  · rename_i found
    rw [found] at readable
    cases readable
  · rename_i found
    rw [found] at readable
    cases readable
  · rfl

/-- A placed lexeme is one of the pieces. -/
theorem exists_piece_of_mem_place {index : LineIndex} {offset : Nat} {pieces : List Piece}
    {lexeme : Lexeme} (member : lexeme ∈ place index offset pieces) :
    ∃ piece ∈ pieces, lexeme.token = piece.token ∧ lexeme.text = String.ofList piece.text := by
  induction pieces generalizing offset with
  | nil => cases member
  | cons piece rest ih =>
    rcases List.mem_cons.mp member with rfl | later
    · exact ⟨piece, List.mem_cons_self, rfl, rfl⟩
    · rcases ih later with ⟨other, among, same⟩
      exact ⟨other, List.mem_cons_of_mem piece among, same⟩

end Lexeme

/-- Wherever a spellable text stands, it has no problems. -/
theorem Mark.problems_eq_nil {mark : Mark} (spellable : mark.isSpellable = true) {lexeme : Lexeme}
    (token : lexeme.token = mark.token) (text : lexeme.text = String.ofList mark.chars)
    (index : LineIndex) : lexeme.problems index = [] := by
  simp only [isSpellable, Bool.and_eq_true, Bool.not_eq_true', Bool.or_eq_true, decide_eq_true_eq]
    at spellable
  rcases spellable with ⟨⟨⟨-, visible⟩, readable⟩, valid⟩
  rw [← token] at visible readable valid
  apply Lexeme.problems_eq_nil index readable
  · intro comment
    rw [comment] at visible
    cases visible
  · intro literal
    rw [text, String.toList_ofList]
    exact valid.resolve_left fun other => other literal

/-- A slot of a complete tree is spelled by the piece that is printed for it. -/
theorem Mark.mark_piece {slot : Slot} (regular : slot.isRegular = true) :
    slot.mark.piece.mark = slot.mark := by
  rcases slot with ⟨token, text, place⟩
  cases text with
  | none =>
    have plain : token.bearsText = false := Token.bearsText_of_isFixed regular
    show Mark.mk token (if token.bearsText then _ else none) = _
    rw [plain]
    rfl
  | some text =>
    have bears : token.bearsText = true := regular
    show Mark.mk token (if token.bearsText then some (String.ofList text.toList) else none) = _
    rw [bears, String.ofList_toList]
    rfl

/-- Only the blanks are lost. -/
theorem Mark.marks_pieces {marks : List Mark} (faithful : ∀ mark ∈ marks, mark.piece.mark = mark)
    (visible : ∀ mark ∈ marks, mark.token.isTrivia = false) :
    ((marks.flatMap fun mark => [mark.piece, ⟨.whitespace, [' ']⟩]).filter
      fun piece => !piece.token.isTrivia).map Piece.mark = marks := by
  induction marks with
  | nil => rfl
  | cons mark rest ih =>
    have seen : mark.piece.token.isTrivia = false := visible mark List.mem_cons_self
    have more := ih (fun other member => faithful other (List.mem_cons_of_mem mark member))
      (fun other member => visible other (List.mem_cons_of_mem mark member))
    rw [List.flatMap_cons, List.cons_append, List.filter_cons, seen]
    show mark.piece.mark :: _ = _
    rw [faithful mark List.mem_cons_self]
    exact congrArg _ more

namespace Program

/-- Whether the names, numbers and strings of a program are texts of such tokens. -/
def isSpellable (program : Program) : Bool :=
  program.writing.all fun mark => mark.text.isNone || mark.isSpellable

/-- The tokens of a program, with a blank after each of them. -/
def print (program : Program) : String :=
  String.ofList (Mark.print program.writing)

/-- Every mark in the writing of a spellable program is spellable. -/
theorem isSpellable_of_mem {program : Program} (regular : Slot.areRegular program.slots = true)
    (spellable : program.isSpellable = true) :
    ∀ mark ∈ program.writing, mark.isSpellable = true := by
  intro mark member
  have known := List.all_eq_true.mp spellable mark member
  rcases List.mem_map.mp member with ⟨slot, among, rfl⟩
  have whole := List.all_eq_true.mp regular slot among
  rcases slot with ⟨token, text, place⟩
  cases text with
  | none => exact Mark.isSpellable_of_isFixed whole
  | some text => exact known

/-- A printed program is lexed into what it was printed from. -/
theorem lexemes_print {program : Program} (regular : Slot.areRegular program.slots = true)
    (spellable : program.isSpellable = true) :
    (Lexing.ofSource program.print).lexemes.map Lexeme.mark = program.writing := by
  have known := isSpellable_of_mem regular spellable
  rw [Lexing.ofSource, Lexing.ofLexemes, Lexeme.tokenize, print, String.toList_ofList,
    Mark.all_print known]
  dsimp only
  rw [Lexeme.marks_place]
  apply Mark.marks_pieces
  · intro mark member
    rcases List.mem_map.mp member with ⟨slot, among, rfl⟩
    exact Mark.mark_piece (List.all_eq_true.mp regular slot among)
  · intro mark member
    have fine := known mark member
    simp only [Mark.isSpellable, Bool.and_eq_true, Bool.not_eq_true'] at fine
    exact fine.1.1.2

/-- Printing makes no lexical problem. -/
theorem problems_print {program : Program} (regular : Slot.areRegular program.slots = true)
    (spellable : program.isSpellable = true) :
    (Lexing.ofSource program.print).diagnostics = [] := by
  have known := isSpellable_of_mem regular spellable
  rw [Lexing.ofSource, Lexing.ofLexemes, Lexeme.tokenize, print, String.toList_ofList,
    Mark.all_print known]
  apply List.flatMap_eq_nil_iff.mpr
  intro lexeme member
  rcases Lexeme.exists_piece_of_mem_place member with ⟨piece, among, token, text⟩
  rcases List.mem_flatMap.mp among with ⟨mark, written, isPart⟩
  rw [List.mem_cons, List.mem_singleton] at isPart
  rcases isPart with rfl | rfl
  · exact Mark.problems_eq_nil (known mark written) token text _
  · apply Lexeme.problems_eq_nil
    · rw [token]
      rfl
    · rw [token]
      nofun
    · rw [token]
      nofun

end Program

end ScriptTree
