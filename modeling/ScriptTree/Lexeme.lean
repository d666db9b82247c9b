import ScriptTree.Text.LineIndex
import ScriptTree.Lexeme.Piece
import ScriptTree.Lexeme.StringLiteral
import ScriptTree.Diagnostic

/-!
# Lexemes

The pieces of a source, each placed at its range, are its lexemes.  Blanks and
comments leave the stream as trivia; everything else, characters that no token
accepts included, stays for the grammar.  Problems of single lexemes are
reported here and never stop the reading.
-/

namespace ScriptTree

/-- A token with the place it was found at. -/
structure PlacedToken where
  token : Token
  range : Range
deriving DecidableEq

/-- A token at its place, with the text it is written in. -/
structure Lexeme extends PlacedToken where
  text : String
deriving DecidableEq

/-- What stands between the tokens of the grammar. -/
inductive TriviaKind where
  | whitespace
  | lineComment
  | blockComment
deriving DecidableEq

namespace TriviaKind

/-- The kind of trivia that a token is, if it is trivia. -/
def ofToken? : Token → Option TriviaKind
  | .whitespace => some .whitespace
  | .lineComment => some .lineComment
  | .blockComment => some .blockComment
  | _ => none

/-- What a kind of trivia is called where trivia is written out. -/
def name : TriviaKind → String
  | .whitespace => "whitespace"
  | .lineComment => "line_comment"
  | .blockComment => "block_comment"

end TriviaKind

/-- A blank or a comment, which no tree holds. -/
structure Trivia where
  kind : TriviaKind
  range : Range
  text : String
deriving DecidableEq

/-- Whether trivia is a comment. -/
def Trivia.isComment (trivia : Trivia) : Bool :=
  trivia.kind ≠ .whitespace

namespace Lexeme

/-- Place pieces one after the other, the first one at `offset`. -/
def place (index : LineIndex) (offset : Nat) : List Piece → List Lexeme
  | [] => []
  | piece :: rest =>
    let next := offset + Text.byteLength piece.text
    { token := piece.token
      range := index.range ⟨offset, next⟩
      text := String.ofList piece.text } :: place index next rest

/-- Every lexeme of a source, blanks and comments included. -/
def tokenize (index : LineIndex) (source : String) : List Lexeme :=
  place index 0 (Piece.all source.toList)

/-- A lexeme as trivia, if it is trivia. -/
def trivia? (lexeme : Lexeme) : Option Trivia :=
  (TriviaKind.ofToken? lexeme.token).map fun kind => ⟨kind, lexeme.range, lexeme.text⟩

/-- What is wrong with an escape, with the escape as it is written. -/
def escapeProblem (issue : StringLiteral.EscapeIssue) : Problem :=
  if issue.isInvalid then
    .invalidEscape (String.ofList issue.sequence)
  else
    .unknownEscape (String.ofList issue.sequence)

/-- The problems of a string literal: its escapes in order, then a missing closing quote. -/
def stringProblems (index : LineIndex) (lexeme : Lexeme) : List Diagnostic :=
  let escapes := StringLiteral.escapeIssues lexeme.text.toList lexeme.range.span.start
  let reported : List Diagnostic := escapes.map fun issue =>
    { range := index.range issue.span, problem := escapeProblem issue }
  if StringLiteral.isTerminated lexeme.text.toList then
    reported
  else
    reported ++ [{ range := lexeme.range, problem := .unterminatedString }]

/-- The problems that a lexeme has by itself. -/
def problems (index : LineIndex) (lexeme : Lexeme) : List Diagnostic :=
  match lexeme.token with
  | .string => stringProblems index lexeme
  | .blockComment =>
    if StringLiteral.isTerminatedComment lexeme.text.toList then []
    else [{ range := lexeme.range, problem := .unterminatedComment }]
  | .strayAmpersand => [{ range := lexeme.range, problem := .strayAmpersand }]
  | .strayPipe => [{ range := lexeme.range, problem := .strayPipe }]
  | .error => [{ range := lexeme.range, problem := .unexpectedCharacter lexeme.text }]
  | _ => []

end Lexeme

/-- A source divided into significant lexemes and trivia, with the problems of single lexemes. -/
structure Lexing where
  lexemes : List Lexeme
  trivia : List Trivia
  diagnostics : List Diagnostic

namespace Lexing

/-- Lexemes sorted into those of the grammar and trivia, with the problems found in either. -/
def ofLexemes (index : LineIndex) (lexemes : List Lexeme) : Lexing where
  lexemes := lexemes.filter fun lexeme => !lexeme.token.isTrivia
  trivia := lexemes.filterMap Lexeme.trivia?
  diagnostics := lexemes.flatMap (Lexeme.problems index)

/-- The lexing of a source. -/
def ofSource (source : String) : Lexing :=
  let index := LineIndex.ofSource source
  ofLexemes index (Lexeme.tokenize index source)

end Lexing

end ScriptTree
