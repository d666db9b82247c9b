import ScriptTree.Proofs.Lexeme.Shifting

/-!
# What is wrong with a piece

The problems of a lexeme stand where the lexeme stands, but which problems they are
depends on its token and its text alone.  So a source is free of lexical errors if
and only if each of the pieces that it is cut into is, and such pieces stay free of
errors in any other source.
-/

namespace ScriptTree

namespace StringLiteral

/-- Which problems the escapes of a literal have does not depend on its place. -/
theorem map_escapeIssues (lexeme : List Char) (first second : Nat) :
    (escapeIssues lexeme first).map Lexeme.escapeProblem =
      (escapeIssues lexeme second).map Lexeme.escapeProblem := by
  rw [← Nat.add_zero first, ← Nat.add_zero second, escapeIssues_add, escapeIssues_add,
    List.map_map, List.map_map]
  rfl

end StringLiteral

namespace Lexeme

variable {lexeme other : Lexeme}

/-- The problems of a string depend on its text only. -/
theorem map_problem_stringProblems (text : lexeme.text = other.text) (first second : LineIndex) :
    (lexeme.stringProblems first).map (·.problem) =
      (other.stringProblems second).map (·.problem) := by
  have escapes := StringLiteral.map_escapeIssues other.text.toList lexeme.range.span.start
    other.range.span.start
  rw [stringProblems, stringProblems, text]
  split <;> simpa [Function.comp_def] using escapes

/-- Which problems a lexeme has does not depend on its place. -/
theorem map_problem_problems (token : lexeme.token = other.token) (text : lexeme.text = other.text)
    (first second : LineIndex) :
    (lexeme.problems first).map (·.problem) = (other.problems second).map (·.problem) := by
  unfold problems
  rw [token]
  cases other.token with
  | string => exact map_problem_stringProblems text first second
  | blockComment =>
    dsimp only
    rw [text]
    split <;> rfl
  | error =>
    dsimp only
    rw [text]
    rfl
  | _ => rfl

end Lexeme

namespace Piece

/-- What is wrong with a piece, wherever it stands. -/
def problems (piece : Piece) : List Problem :=
  let lexeme : Lexeme :=
    { token := piece.token
      range := default
      text := String.ofList piece.text }
  (lexeme.problems (.ofSource "")).map (·.problem)

/-- Whether no error is found in a piece; an unknown escape is none. -/
def IsSound (piece : Piece) : Prop :=
  ∀ problem ∈ piece.problems, problem.severity ≠ .error

/-- A piece without problems is sound. -/
theorem isSound_of_problems_eq_nil {piece : Piece} (faultless : piece.problems = []) :
    piece.IsSound := by
  rw [IsSound, faultless]
  exact List.forall_mem_nil _

/-- A sound piece is closed. -/
theorem IsSound.isClosed {piece : Piece} (sound : piece.IsSound) : piece.IsClosed := by
  intro comment
  by_contra unclosed
  refine sound .unterminatedComment ?_ rfl
  simp [problems, Lexeme.problems, comment, unclosed]

theorem IsSound.isTerminated {piece : Piece} (sound : piece.IsSound)
    (literal : piece.token = .string) : StringLiteral.isTerminated piece.text = true := by
  by_contra unterminated
  refine sound .unterminatedString ?_ rfl
  simp [problems, Lexeme.problems, Lexeme.stringProblems, literal, unterminated]

end Piece

namespace Lexeme

/-- The problems of placed pieces are those of the pieces. -/
theorem map_problem_place (index : LineIndex) (offset : Nat) (pieces : List Piece) :
    ((place index offset pieces).flatMap (problems index)).map (·.problem) =
      pieces.flatMap Piece.problems := by
  induction pieces generalizing offset with
  | nil => rfl
  | cons piece rest ih =>
    rw [place, List.flatMap_cons, List.flatMap_cons, List.map_append, ih, Piece.problems]
    refine congrArg (· ++ _) ?_
    apply map_problem_problems <;> rfl

end Lexeme

namespace Lexing

/-- What is found in the lexemes of a source is what is wrong with its pieces. -/
theorem map_problem_diagnostics (source : String) :
    (ofSource source).diagnostics.map (·.problem) =
      (Piece.all source.toList).flatMap Piece.problems :=
  Lexeme.map_problem_place ..

/-- A source is free of lexical errors if and only if its pieces are. -/
theorem forall_isError_eq_false_iff {source : String} :
    (∀ diagnostic ∈ (ofSource source).diagnostics, diagnostic.isError = false) ↔
      ∀ piece ∈ Piece.all source.toList, piece.IsSound := by
  have problems : (∀ diagnostic ∈ (ofSource source).diagnostics, diagnostic.isError = false) ↔
      ∀ problem ∈ (ofSource source).diagnostics.map (·.problem), problem.severity ≠ .error := by
    rw [List.forall_mem_map]
    simp [Diagnostic.isError]
  rw [problems, map_problem_diagnostics, List.forall_mem_flatMap]
  rfl

end Lexing

/-- Where nothing is an error, each comment ends in the source. -/
theorem Piece.isClosed_of_errorless {source : String}
    (errorless : ∀ diagnostic ∈ (Lexing.ofSource source).diagnostics, diagnostic.isError = false) :
    ∀ piece ∈ Piece.all source.toList, piece.IsClosed :=
  fun piece member => (Lexing.forall_isError_eq_false_iff.mp errorless piece member).isClosed

end ScriptTree
