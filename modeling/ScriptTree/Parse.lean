import ScriptTree.Grammar.Program

/-!
# Parsing a source

Parsing never fails.  Whatever the source, the result holds one program and the
diagnostics that explain what is wrong with it, lexical and syntactic ones
together, in the order of their places.  Options decide how many diagnostics and
whether blanks and comments are kept; they never change the program.
-/

namespace ScriptTree

/-- What a caller may ask for. -/
structure ParseOptions where
  /-- Keep blanks and comments in the result. -/
  collectTrivia : Bool := true
  /-- Keep at most this many diagnostics. -/
  maxDiagnostics : Option Nat := none
deriving DecidableEq

/-- How much was parsed. -/
structure ParseStatistics where
  /-- The length of the source in bytes. -/
  sourceLength : Nat
  /-- The number of lexemes that are no trivia. -/
  tokenCount : Nat
  triviaCount : Nat
deriving DecidableEq

/-- Everything that a parse finds out about a source. -/
structure ParseResult where
  program : Program
  /-- The diagnostics that were kept, ordered by where they start. -/
  diagnostics : List Diagnostic
  trivia : List Trivia
  statistics : ParseStatistics
  /-- Whether some diagnostics were not kept. -/
  truncated : Bool
  /-- The number of errors among all diagnostics, kept or not. -/
  errorCount : Nat

/-- Diagnostics in the order of their places; at one place they stay in the order given. -/
def Diagnostic.sorted (diagnostics : List Diagnostic) : List Diagnostic :=
  diagnostics.mergeSort fun first second => first.range.span.start ≤ second.range.span.start

/-- What a caller gets of a reading: all of it, or only what the options ask for. -/
def ParseResult.ofReading (options : ParseOptions) (statistics : ParseStatistics)
    (trivia : List Trivia) (program : Program) (diagnostics : List Diagnostic) :
    ParseResult where
  program
  diagnostics :=
    match options.maxDiagnostics with
    | none => diagnostics
    | some limit => diagnostics.take limit
  trivia := if options.collectTrivia then trivia else []
  statistics
  truncated := options.maxDiagnostics.any fun limit => limit < diagnostics.length
  errorCount := diagnostics.countP Diagnostic.isError

/-- Parses a source.  There is a result for every source. -/
def parse (source : String) (options : ParseOptions := {}) : ParseResult :=
  let index := LineIndex.ofSource source
  let lexing := Lexing.ofLexemes index (Lexeme.tokenize index source)
  let reading := Grammar.program lexing.lexemes (LineIndex.wholeRange source index)
  let statistics : ParseStatistics :=
    { sourceLength := Text.byteLength source.toList
      tokenCount := lexing.lexemes.length
      triviaCount := lexing.trivia.length }
  .ofReading options statistics lexing.trivia reading.program
    (Diagnostic.sorted (lexing.diagnostics ++ reading.diagnostics))

namespace ParseResult

/-- The root of the tree. -/
def root (result : ParseResult) : Node :=
  result.program.toNode

/-- Whether the source is wrong, even if the errors were not kept. -/
def hasErrors (result : ParseResult) : Bool :=
  0 < result.errorCount

/-- The errors that were kept. -/
def errors (result : ParseResult) : List Diagnostic :=
  result.diagnostics.filter Diagnostic.isError

/-- The warnings that were kept. -/
def warnings (result : ParseResult) : List Diagnostic :=
  result.diagnostics.filter fun diagnostic => !diagnostic.isError

/-- The comments that were kept. -/
def comments (result : ParseResult) : List Trivia :=
  result.trivia.filter Trivia.isComment

/-- The program of a source without errors.  Warnings are no errors. -/
def strict (result : ParseResult) : Except SyntaxErrors Program :=
  if result.hasErrors then
    .error ⟨result.errorCount, result.errors⟩
  else
    .ok result.program

end ParseResult

/-- What parsing says about a source, without its program. -/
structure Validation where
  isValid : Bool
  diagnostics : List Diagnostic
  statistics : ParseStatistics

/-- Checks a source without keeping its blanks and comments. -/
def validate (source : String) : Validation :=
  let result := parse source { collectTrivia := false }
  ⟨!result.hasErrors, result.diagnostics, result.statistics⟩

end ScriptTree
