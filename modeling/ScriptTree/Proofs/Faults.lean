import ScriptTree.Proofs.Acceptance
import ScriptTree.Proofs.Grammar.Reports
import ScriptTree.Proofs.Placement

/-!
# Faults and diagnostics

Whatever is wrong in the tree of a source, an error close by says so: at the end
of the token before it, or at the start of the token where it starts.  So a tree
without diagnostics of errors has neither error nodes nor missing ones, and this
does not depend on how many diagnostics are kept.
-/

namespace ScriptTree

/-- The lexing of a source is orderly. -/
theorem Lexing.orderly_ofSource (source : String) : (ofSource source).Orderly where
  follow := follow_lexemes source
  wide := (located_ofSource source).wide
  spelled := spelled_ofSource source
  reported := fun _ => exists_error_at_start

/-- At the start of a source, nothing is left to answer for. -/
theorem Grammar.State.answered_ofLexemes (lexing : Lexing) :
    (ofLexemes lexing.lexemes).Answered lexing where
  traced := ⟨⟨[], rfl, rfl, nofun⟩, nofun⟩
  reports := by
    rintro (recovering | noted)
    · cases recovering
    · cases noted

/-- Each faulty node of a source starts at a token with an error. -/
theorem errorAt_of_isFaulty {source : String} {node : Node}
    (member : node ∈ (parse source).root.descendants) (faulty : node.isFaulty = true) :
    ErrorAt (Lexing.ofSource source).lexemes (parse source).diagnostics
      (Lexeme.indexFrom (Lexing.ofSource source).lexemes node.range.span.start) := by
  rcases exists_reads_parse source {} with ⟨final, reads, -⟩
  have faults := reads.faultsAt_declarations (Lexing.orderly_ofSource source) rfl
    (Grammar.State.answered_ofLexemes _)
  rcases (mem_descendants_root source {}).mp member with rfl | below
  · cases faulty
  · rw [ParseResult.children_root] at below
    exact ErrorAt.mono (faults node below faulty) fun _ =>
      (diagnostics_parse_perm reads).mem_iff.mpr

/-- Each error node and each missing node of a source is explained by an error at the end of the
token before it or at the start of the token from it on.  A source without errors has neither. -/
theorem errorAt_parse_and_hasError_eq_false (source : String) :
    (∀ node ∈ (parse source).root.descendants, node.isFaulty = true →
        ErrorAt (Lexing.ofSource source).lexemes (parse source).diagnostics
          (Lexeme.indexFrom (Lexing.ofSource source).lexemes node.range.span.start)) ∧
      ((∀ diagnostic ∈ (parse source).diagnostics, diagnostic.isError = false) →
        ∀ options, (parse source options).root.hasError = false) := by
  refine ⟨fun node => errorAt_of_isFaulty, fun errorless options => ?_⟩
  refine Node.hasError_eq_false_iff.mpr fun node member => Bool.eq_false_iff.mpr fun faulty => ?_
  rcases errorAt_of_isFaulty member faulty with ⟨report, reported, severe, -⟩
  rw [errorless report reported] at severe
  cases severe

/-- A value that is missing in front of a semicolon, and a string with an unknown escape, which is
only warned of. -/
theorem errorAt_parse_missing_value :
    (∃ node ∈ (parse "func void f() { x = ; }").root.descendants, node.isFaulty = true ∧
        ErrorAt (Lexing.ofSource "func void f() { x = ; }").lexemes
          (parse "func void f() { x = ; }").diagnostics
          (Lexeme.indexFrom (Lexing.ofSource "func void f() { x = ; }").lexemes
            node.range.span.start)) ∧
      (parse "const string A = \"\\q\";").diagnostics ≠ [] ∧
      (∀ diagnostic ∈ (parse "const string A = \"\\q\";").diagnostics,
        diagnostic.isError = false) ∧
      (parse "const string A = \"\\q\";" { maxDiagnostics := some 0 }).root.hasError = false := by
  have faulty : (parse "func void f() { x = ; }").root.descendants.any Node.isFaulty = true := by
    decide +kernel
  rcases List.any_eq_true.mp faulty with ⟨node, member, isFaulty⟩
  have errorless : ∀ diagnostic ∈ (parse "const string A = \"\\q\";").diagnostics,
      diagnostic.isError = false := by
    decide +kernel
  exact ⟨⟨node, member, isFaulty,
      (errorAt_parse_and_hasError_eq_false _).1 node member isFaulty⟩, by decide +kernel, errorless,
    (errorAt_parse_and_hasError_eq_false _).2 errorless _⟩

end ScriptTree
