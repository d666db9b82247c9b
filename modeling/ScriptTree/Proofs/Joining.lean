import ScriptTree.Proofs.Acceptance
import ScriptTree.Proofs.Grammar.Parallel.Seam
import ScriptTree.Proofs.Lexeme.Problems
import ScriptTree.Proofs.Sorting

/-!
# A source after another one

A source without errors is read up to its end, and nothing of how it was read is
left over for what follows on a line of its own: neither a lexeme that goes on, nor
a recovery, nor a place that was reported already.  So a source that follows it,
broken or not, is read as it is read alone, and everything about it stands as far
down as the source in front of it is long.  Only a semicolon would still belong to
that source, for it may end a declaration that is complete without one.
-/

namespace ScriptTree

namespace Diagnostic

/-- Diagnostics that all move down keep their order. -/
theorem sorted_mapRange_below (first : String) (diagnostics : List Diagnostic) :
    sorted (diagnostics.map (mapRange (Range.below first))) =
      (sorted diagnostics).map (mapRange (Range.below first)) := by
  symm
  apply List.map_mergeSort
  intro diagnostic _ other _
  exact decide_eq_decide.mpr (Nat.add_le_add_iff_left).symm

end Diagnostic

/-! ## Joined sources -/

/-- What the lexemes of a source report starts within it, and what is moved below it starts behind
it. -/
theorem Diagnostic.start_le_start_below {first : String} {diagnostic : Diagnostic}
    (reported : diagnostic ∈ (Lexing.ofSource first).diagnostics) (other : Diagnostic) :
    diagnostic.range.span.start ≤
      (other.mapRange (Range.below first)).range.span.start := by
  rcases List.mem_flatMap.mp reported with ⟨lexeme, member, problem⟩
  have within := Lexeme.start_le_of_mem_problems member problem
  show _ ≤ Text.byteLength first.toList + 1 + other.range.span.start
  omega

/-- A source that follows a source without errors on a line of its own, and does not begin with a
semicolon, is read as it is read alone, and so is the source in front of it: the declarations, the
nodes and the diagnostics of both come one after the other, those of the second source as many
bytes and lines further down as the first one takes up.  What the first source reports are no
errors. -/
theorem parse_joined {first second : String} (errorless : (parse first).hasErrors = false)
    (foreign : ∀ lexeme ∈ (Lexing.ofSource second).lexemes.head?, lexeme.token ≠ .semicolon) :
    (parse (first ++ "\n" ++ second)).program.declarations =
        (parse first).program.declarations ++
          (parse second).program.declarations.map (Declaration.mapRanges (Range.below first)) ∧
      (parse (first ++ "\n" ++ second)).root.children =
        (parse first).root.children ++
          (parse second).root.children.map (Node.mapRanges (Range.below first)) ∧
      (parse (first ++ "\n" ++ second)).diagnostics =
        (parse first).diagnostics ++
          (parse second).diagnostics.map (Diagnostic.mapRange (Range.below first)) ∧
      ∀ diagnostic ∈ (parse first).diagnostics, diagnostic.isError = false := by
  have accepted := ParseResult.strict_eq_ok errorless
  have fine := (no_error_of_strict accepted).2
  have closed := Piece.isClosed_of_errorless fun diagnostic member =>
    fine diagnostic (List.mem_append_left _ member)
  have relocates : Range.IsRelocation (Range.below first) := Range.isRelocation_shift _ _
  rcases exists_clean_reads_of_strict accepted with ⟨final, reads, -, sound, clean⟩
  rcases exists_reads_parse second {} with ⟨last, readsMore, -⟩
  rcases reads.append sound clean readsMore foreign relocates fun _ => ⟨rfl, rfl⟩
    with ⟨after, readsBoth, reported⟩
  rw [← Lexing.lexemes_joined second closed] at readsBoth
  have declarations := declarations_parse readsBoth
  have diagnosticsFirst : (parse first).diagnostics =
      Diagnostic.sorted (Lexing.ofSource first).diagnostics := by
    rw [diagnostics_parse reads, clean.unreported, List.append_nil]
  refine ⟨declarations, ?_, ?_, ?_⟩
  · rw [ParseResult.children_root, declarations, ParseResult.children_root,
      ParseResult.children_root, List.map_append, List.map_map, List.map_map]
    exact congrArg _ (List.map_congr_left fun declaration _ =>
      declaration.toNode_mapRanges relocates)
  · rw [diagnostics_parse readsBoth, reported, Lexing.diagnostics_joined second closed,
      diagnosticsFirst, diagnostics_parse readsMore, List.append_assoc, ← List.map_append,
      Diagnostic.sorted_append, Diagnostic.sorted_mapRange_below]
    intro diagnostic member other moved
    rcases List.mem_map.mp moved with ⟨original, -, rfl⟩
    exact Diagnostic.start_le_start_below member original
  · intro diagnostic member
    rw [diagnosticsFirst, Diagnostic.mem_sorted] at member
    exact fine diagnostic (List.mem_append_left _ member)

/-- A string with an unknown escape, which is only warned of, and an instance with a body, which may
have a semicolon and has none; then a variable without a type. -/
theorem parse_joined_small :
    (parse "const string s = \"\\q\"; instance A(B) \x7b\x7d").hasErrors = false ∧
      (∀ lexeme ∈ (Lexing.ofSource "var \x7b").lexemes.head?, lexeme.token ≠ .semicolon) ∧
      (parse ("const string s = \"\\q\"; instance A(B) \x7b\x7d" ++ "\n" ++
          "var \x7b")).diagnostics =
        (parse "const string s = \"\\q\"; instance A(B) \x7b\x7d").diagnostics ++
          (parse "var \x7b").diagnostics.map (Diagnostic.mapRange
            (Range.below "const string s = \"\\q\"; instance A(B) \x7b\x7d")) ∧
      (parse "const string s = \"\\q\"; instance A(B) \x7b\x7d").diagnostics.length = 1 ∧
      (parse "var \x7b").diagnostics.length = 1 := by
  have errorless :
      (parse "const string s = \"\\q\"; instance A(B) \x7b\x7d").hasErrors = false := by
    decide +kernel
  have foreign : ∀ lexeme ∈ (Lexing.ofSource "var \x7b").lexemes.head?,
      lexeme.token ≠ .semicolon := by
    decide +kernel
  exact ⟨errorless, foreign, (parse_joined errorless foreign).2.2.1, by decide +kernel,
    by decide +kernel⟩

end ScriptTree
