import ScriptTree.Proofs.Conservation
import ScriptTree.Proofs.Grammar.Acceptance

/-!
# What strict parsing accepts

A source is accepted where no error is among its diagnostics.  Every error that
the grammar swallows comes after one that is among them, so an accepted source
was read without a report, and its tree is complete and written as its tokens.
-/

namespace ScriptTree

/-- Every lexeme that is no token of the grammar is reported where it starts. -/
theorem Lexing.exists_error_at_start {source : String} {lexeme : Lexeme}
    (member : lexeme ∈ (ofSource source).lexemes) (error : lexeme.token.isError = true) :
    ∃ diagnostic ∈ (ofSource source).diagnostics,
      diagnostic.isError = true ∧ diagnostic.range = lexeme.range := by
  have among := List.mem_of_mem_filter member
  obtain ⟨problem, reported, found⟩ :
      ∃ diagnostic ∈ lexeme.problems (.ofSource source),
        diagnostic.isError = true ∧ diagnostic.range = lexeme.range := by
    unfold Lexeme.problems
    cases found : lexeme.token <;> rw [found] at error <;> cases error <;>
      exact ⟨_, List.mem_singleton_self _, rfl, rfl⟩
  exact ⟨problem, List.mem_flatMap.mpr ⟨lexeme, among, reported⟩, found⟩

/-- An error among the lexemes is reported as an error. -/
theorem Lexing.exists_error_of_isError {source : String} {lexeme : Lexeme}
    (member : lexeme ∈ (ofSource source).lexemes) (error : lexeme.token.isError = true) :
    ∃ diagnostic ∈ (ofSource source).diagnostics, diagnostic.isError = true := by
  obtain ⟨problem, reported, isError, -⟩ := exists_error_at_start member error
  exact ⟨problem, reported, isError⟩

/-- What is found in the lexemes of a source is a problem of single lexemes. -/
theorem Lexing.isLexical_of_mem {source : String} {diagnostic : Diagnostic}
    (member : diagnostic ∈ (ofSource source).diagnostics) :
    diagnostic.problem.code.isLexical = true := by
  rcases List.mem_flatMap.mp member with ⟨lexeme, -, reported⟩
  unfold Lexeme.problems at reported
  split at reported
  · simp only [Lexeme.stringProblems] at reported
    have escapes : ∀ issue : StringLiteral.EscapeIssue,
        (Lexeme.escapeProblem issue).code.isLexical = true := by
      intro issue
      unfold Lexeme.escapeProblem
      split <;> rfl
    split at reported
    · rcases List.mem_map.mp reported with ⟨issue, -, rfl⟩
      exact escapes issue
    · rcases List.mem_append.mp reported with escape | unterminated
      · rcases List.mem_map.mp escape with ⟨issue, -, rfl⟩
        exact escapes issue
      · rw [List.mem_singleton.mp unterminated]
        rfl
  · split at reported
    · cases reported
    · rw [List.mem_singleton.mp reported]
      rfl
  · rw [List.mem_singleton.mp reported]
    rfl
  · rw [List.mem_singleton.mp reported]
    rfl
  · rw [List.mem_singleton.mp reported]
    rfl
  · cases reported

/-- The diagnostics of a parse are those of its lexemes and those of its grammar. -/
theorem errorCount_parse (source : String) (options : ParseOptions) :
    (parse source options).errorCount =
      (Diagnostic.sorted ((Lexing.ofSource source).diagnostics ++
        (Grammar.program (Lexing.ofSource source).lexemes
          (LineIndex.wholeRange source (.ofSource source))).diagnostics)).countP
        Diagnostic.isError :=
  rfl

section

variable {source : String} {declarations : List Declaration} {final : Grammar.State}
  (reads : Grammar.Reads .declarations (.ofLexemes (Lexing.ofSource source).lexemes) declarations
    final)

include reads

/-- The diagnostics of a parse are those of its lexing and those of its grammar, in order. -/
theorem diagnostics_parse :
    (parse source).diagnostics =
      Diagnostic.sorted ((Lexing.ofSource source).diagnostics ++ final.diagnostics) := by
  have same : (parse source).diagnostics =
      Diagnostic.sorted ((Lexing.ofSource source).diagnostics ++
        (Grammar.program (Lexing.ofSource source).lexemes
          (LineIndex.wholeRange source (.ofSource source))).diagnostics) :=
    rfl
  rw [same, reads.program_eq]

/-- Where all diagnostics are kept, they are those of the lexemes and those of the grammar. -/
theorem diagnostics_parse_perm :
    (parse source).diagnostics.Perm
      ((Lexing.ofSource source).diagnostics ++ final.diagnostics) := by
  rw [diagnostics_parse reads]
  exact List.mergeSort_perm ..

/-- The declarations of a parse are those that the grammar reads. -/
theorem declarations_parse : (parse source).program.declarations = declarations :=
  congrArg (fun reading => reading.program.declarations)
    (reads.program_eq (LineIndex.wholeRange source (.ofSource source)))

end

/-- A result without errors is accepted strictly. -/
theorem ParseResult.strict_eq_ok {result : ParseResult} (errorless : result.hasErrors = false) :
    result.strict = .ok result.program := by
  rw [strict, errorless]
  rfl

/-- Where a source is accepted, neither its lexemes nor its grammar had an error to report. -/
theorem no_error_of_strict {source : String} {options : ParseOptions} {program : Program}
    (accepted : (parse source options).strict = .ok program) :
    (parse source options).program = program ∧
      ∀ diagnostic ∈ (Lexing.ofSource source).diagnostics ++
          (Grammar.program (Lexing.ofSource source).lexemes
            (LineIndex.wholeRange source (.ofSource source))).diagnostics,
        diagnostic.isError = false := by
  unfold ParseResult.strict at accepted
  split at accepted
  · cases accepted
  · rename_i errorless
    cases accepted
    refine ⟨rfl, fun diagnostic member => ?_⟩
    have none : (parse source options).errorCount = 0 := by
      simpa [ParseResult.hasErrors] using errorless
    rw [errorCount_parse, List.countP_eq_zero] at none
    exact Bool.eq_false_iff.mpr (none diagnostic
      ((List.mergeSort_perm ..).mem_iff.mpr member))

/-- What is accepted was read without a report. -/
theorem exists_clean_reads_of_strict {source : String} {options : ParseOptions}
    {program : Program} (accepted : (parse source options).strict = .ok program) :
    ∃ final, Grammar.Reads .declarations (.ofLexemes (Lexing.ofSource source).lexemes)
        program.declarations final ∧
      final.rest = [] ∧
      (Grammar.State.ofLexemes (Lexing.ofSource source).lexemes).Sound ∧ final.Clean := by
  obtain ⟨rfl, errorless⟩ := no_error_of_strict accepted
  obtain ⟨final, reads, ends⟩ := exists_reads_parse source options
  have readable : ∀ lexeme ∈ (Lexing.ofSource source).lexemes,
      lexeme.token.isError = false := by
    intro lexeme member
    refine Bool.eq_false_iff.mpr fun error => ?_
    obtain ⟨diagnostic, reported, isError⟩ := Lexing.exists_error_of_isError member error
    rw [errorless diagnostic (List.mem_append_left _ reported)] at isError
    cases isError
  have unreported : final.diagnostics = [] := by
    rw [reads.program_eq] at errorless
    have errors : final.ReportsErrors :=
      reads.moves.keeps (fun move => move.reportsErrors) fun _ member => nomatch member
    apply List.eq_nil_iff_forall_not_mem.mpr
    intro diagnostic member
    have contrary := errorless diagnostic (List.mem_append_right _ member)
    rw [errors diagnostic member] at contrary
    cases contrary
  exact ⟨final, reads, ends,
    ⟨(Grammar.State.clean_ofLexemes _).accounted, spelled_ofSource source, readable⟩,
    reads.moves.clean_of_unreported readable unreported⟩

/-- A program that was read to the end without a report is written as the lexemes. -/
theorem Grammar.Derivation.written {lexemes : List Lexeme} {program : Program} {final : State}
    (reads : Reads .declarations (.ofLexemes lexemes) program.declarations final)
    (ends : final.rest = []) (sound : (State.ofLexemes lexemes).Sound) (clean : final.Clean) :
    lexemes.map Lexeme.mark = program.writing ∧ program.isComplete = true := by
  obtain ⟨complete, written⟩ := (reads.writes trivial).written sound clean
  refine ⟨?_, complete⟩
  rw [State.marks, State.marks, ends, List.map_nil, List.append_nil] at written
  exact written

/-- An accepted source is written as its tree says, token for token with the texts of names and
literals, and its tree is complete. -/
theorem writing_of_strict {source : String} {options : ParseOptions} {program : Program}
    (accepted : (parse source options).strict = .ok program) :
    (Lexing.ofSource source).lexemes.map Lexeme.mark = program.writing ∧
      program.isComplete = true := by
  obtain ⟨final, reads, ends, sound, clean⟩ := exists_clean_reads_of_strict accepted
  exact reads.written ends sound clean

/-- A branch of an `if` without braces, and a forward instance. -/
theorem writing_of_strict_small :
    ∃ program,
      (parse "func int f() { if (x) a.b[1] += f(2); } instance A(B);").strict =
        .ok program ∧
      (Lexing.ofSource
        "func int f() { if (x) a.b[1] += f(2); } instance A(B);").lexemes.map Lexeme.mark =
        program.writing ∧ program.isComplete = true := by
  have errorless :
      (parse "func int f() { if (x) a.b[1] += f(2); } instance A(B);").hasErrors =
        false := by
    decide +kernel
  have accepted := ParseResult.strict_eq_ok errorless
  exact ⟨_, accepted, writing_of_strict accepted⟩

end ScriptTree
