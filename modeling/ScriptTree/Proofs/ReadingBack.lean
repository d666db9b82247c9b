import ScriptTree.Proofs.Conservation
import ScriptTree.Proofs.Grammar.ReadingBack.Program
import ScriptTree.Proofs.Lexeme.Printing

/-!
# Parsing undoes printing

A well-formed program is read back from every source that writes its tokens in
order, with any blanks and comments between them.  One such source is what the
program is printed as.
-/

namespace ScriptTree

/-- The grammar reports nothing in a source that writes a well-formed program, and it finds the
program there. -/
theorem program_of_writing {program : Program} (wellFormed : program.isWellFormed = true)
    {lexemes : List Lexeme} (written : lexemes.map Lexeme.mark = program.writing) (range : Range) :
    (Grammar.program lexemes range).program.unplaced = program.unplaced ∧
      (Grammar.program lexemes range).diagnostics = [] := by
  have faces : (Grammar.State.ofLexemes lexemes).Faces lexemes :=
    ⟨Grammar.State.clean_ofLexemes lexemes, rfl⟩
  have spells : Grammar.Spells program.slots lexemes [] :=
    ⟨lexemes, (List.append_nil lexemes).symm, written⟩
  rcases Grammar.readsBack_declarations wellFormed faces spells
    with ⟨found, final, reads, alike, ends⟩
  rw [reads.program_eq range]
  exact ⟨alike, ends.clean.unreported⟩

/-- Where there are no diagnostics, none are kept. -/
theorem diagnostics_ofReading_nil (options : ParseOptions) (statistics : ParseStatistics)
    (trivia : List Trivia) (program : Program) :
    (ParseResult.ofReading options statistics trivia program []).diagnostics = [] := by
  unfold ParseResult.ofReading
  cases options.maxDiagnostics with
  | none => rfl
  | some limit => exact List.take_nil

/-- Where the source is free of lexical problems too, parsing reports nothing at all. -/
theorem parse_of_writing {program : Program} (wellFormed : program.isWellFormed = true)
    {source : String}
    (written : (Lexing.ofSource source).lexemes.map Lexeme.mark = program.writing)
    (options : ParseOptions) :
    (parse source options).program.unplaced = program.unplaced ∧
      ((Lexing.ofSource source).diagnostics = [] → (parse source options).diagnostics = []) := by
  rcases program_of_writing wellFormed written (LineIndex.wholeRange source (.ofSource source))
    with ⟨alike, unreported⟩
  refine ⟨alike, fun fine => ?_⟩
  have nothing : Diagnostic.sorted ((Lexing.ofSource source).diagnostics ++
      (Grammar.program (Lexing.ofSource source).lexemes
        (LineIndex.wholeRange source (.ofSource source))).diagnostics) = [] := by
    rw [fine, unreported]
    exact List.mergeSort_nil
  show (ParseResult.ofReading options _ _ _ (Diagnostic.sorted _)).diagnostics = []
  rw [← Lexing.ofSource, nothing, diagnostics_ofReading_nil]

/-- A program that the grammar can write is complete. -/
theorem Program.isComplete_of_isWellFormed {program : Program}
    (wellFormed : program.isWellFormed = true) : program.isComplete = true := by
  apply List.all_eq_true.mpr
  intro declaration member
  have whole := List.all_eq_true.mp wellFormed declaration member
  rw [Declaration.isWellFormed, Bool.and_eq_true] at whole
  exact whole.1

/-- A well-formed program is read back, without a diagnostic and up to its ranges, from every
source that writes its tokens, and from its printed form. -/
theorem parse_print {program : Program} (wellFormed : program.isWellFormed = true)
    (options : ParseOptions) :
    (∀ source, (Lexing.ofSource source).lexemes.map Lexeme.mark = program.writing →
      (parse source options).program.unplaced = program.unplaced ∧
        ((Lexing.ofSource source).diagnostics = [] →
          (parse source options).diagnostics = [])) ∧
    (program.isSpellable = true →
      (parse program.print options).program.unplaced = program.unplaced ∧
        (parse program.print options).diagnostics = []) := by
  constructor
  · intro source written
    exact parse_of_writing wellFormed written options
  · intro spellable
    have regular := Program.areRegular_slots (Program.isComplete_of_isWellFormed wellFormed)
    rcases parse_of_writing wellFormed (Program.lexemes_print regular spellable) options
      with ⟨alike, silent⟩
    exact ⟨alike, silent (Program.problems_print regular spellable)⟩

/-- An `else` after a branch without braces, a chain of operators, and a trailing comma. -/
theorem parse_print_small :
    ∃ program : Program, program.isWellFormed = true ∧ program.isSpellable = true ∧
      (parse program.print {}).program.unplaced = program.unplaced ∧
        (parse program.print {}).diagnostics = [] := by
  have wellFormed : (parse
      ("func int f(var int a) \x7b if (a) a.b[1] += f(2) - -3 * a; else return; \x7d " ++
        "const string S[2] = \x7b\"x\", \"y\",\x7d;")).program.isWellFormed = true := by
    decide +kernel
  have spellable : (parse
      ("func int f(var int a) \x7b if (a) a.b[1] += f(2) - -3 * a; else return; \x7d " ++
        "const string S[2] = \x7b\"x\", \"y\",\x7d;")).program.isSpellable = true := by
    decide +kernel
  exact ⟨_, wellFormed, spellable, (parse_print wellFormed {}).2 spellable⟩

end ScriptTree
