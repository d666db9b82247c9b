import ScriptTree.Text.Range
import ScriptTree.Token

/-!
# Diagnostics

A diagnostic is a problem at a place in the source.  Problems are causes; their
code, severity and wording are functions of the cause.  Everything that leaves
the tree incomplete is an error, and only an unknown escape is a warning.
-/

namespace ScriptTree

/-- How grave a problem is.  Only errors make a source wrong. -/
inductive Severity where
  | error
  | warning
deriving DecidableEq, Inhabited

/-- What a severity is called where diagnostics are written out. -/
def Severity.name : Severity → String
  | .error => "error"
  | .warning => "warning"

/-- The severity of a name. -/
def Severity.ofName? (name : String) : Option Severity :=
  [.error, .warning].find? fun severity => severity.name = name

/-- The stable identifier of a class of problems. -/
inductive DiagnosticCode where
  | unterminatedString
  | unterminatedComment
  | invalidEscape
  | unknownEscape
  | strayOperator
  | unexpectedCharacter
  | expectedToken
  | invalidAssignmentTarget
deriving DecidableEq, Inhabited

namespace DiagnosticCode

/-- The codes of the problems that parsing reports, each once. -/
def all : List DiagnosticCode :=
  [.unterminatedString, .unterminatedComment, .invalidEscape, .unknownEscape, .strayOperator,
    .unexpectedCharacter, .expectedToken, .invalidAssignmentTarget]

/-- What a code is called where diagnostics are written out. -/
def name : DiagnosticCode → String
  | .unterminatedString => "unterminated-string"
  | .unterminatedComment => "unterminated-comment"
  | .invalidEscape => "invalid-escape"
  | .unknownEscape => "unknown-escape"
  | .strayOperator => "stray-operator"
  | .unexpectedCharacter => "unexpected-character"
  | .expectedToken => "expected-token"
  | .invalidAssignmentTarget => "invalid-assignment-target"

/-- The code of a name. -/
def ofName? (name : String) : Option DiagnosticCode :=
  all.find? fun code => code.name = name

/-- Problems of single lexemes, found before any grammar applies. -/
def isLexical : DiagnosticCode → Bool
  | .expectedToken | .invalidAssignmentTarget => false
  | _ => true

end DiagnosticCode

/-- What the grammar would have accepted: one of some tokens, or a whole production. -/
inductive Expectation where
  | tokens (accepted : List Token)
  | production (name : String)
deriving DecidableEq

namespace Expectation

/-- An enumeration: commas between the items, and `or` before the last one. -/
def describeTokens : List Token → String
  | [] => "nothing"
  | [only] => only.describe
  | [first, last] => s!"{first.describe} or {last.describe}"
  | first :: rest => s!"{first.describe}, {describeTokens rest}"

/-- What was expected, in the words of a message. -/
def describe : Expectation → String
  | .tokens accepted => describeTokens accepted
  | .production name => name

/-- The tokens that were expected, if it was tokens. -/
def listed : Expectation → List Token
  | .tokens accepted => accepted
  | .production _ => []

end Expectation

/-- The cause of a diagnostic. -/
inductive Problem where
  | unterminatedString
  | unterminatedComment
  | invalidEscape (sequence : String)
  | unknownEscape (sequence : String)
  | strayAmpersand
  | strayPipe
  | unexpectedCharacter (text : String)
  /-- The grammar expected something and found another token, or the end of the input. -/
  | unmet (expected : Expectation) (found : Option Token)
  | invalidAssignmentTarget
  /-- A problem that some other tool reports in its own words. -/
  | custom (severity : Severity) (code : DiagnosticCode) (message : String)
deriving DecidableEq

namespace Problem

/-- The code under which a problem is reported. -/
def code : Problem → DiagnosticCode
  | .unterminatedString => .unterminatedString
  | .unterminatedComment => .unterminatedComment
  | .invalidEscape _ => .invalidEscape
  | .unknownEscape _ => .unknownEscape
  | .strayAmpersand | .strayPipe => .strayOperator
  | .unexpectedCharacter _ => .unexpectedCharacter
  | .unmet _ _ => .expectedToken
  | .invalidAssignmentTarget => .invalidAssignmentTarget
  | .custom _ code _ => code

/-- Escapes that are merely unknown are warned of.  Everything else that parsing finds is an
error. -/
def severity : Problem → Severity
  | .unknownEscape _ => .warning
  | .custom severity _ _ => severity
  | _ => .error

/-- What was found in the words of a message.  Nothing is found at the end of the source. -/
def describeFound : Option Token → String
  | none => "end of input"
  | some token => token.describe

/-- What a problem says to its reader. -/
def message : Problem → String
  | .unterminatedString => "unterminated string literal"
  | .unterminatedComment => "unterminated block comment"
  | .invalidEscape sequence => s!"invalid escape sequence `{sequence}`"
  | .unknownEscape sequence => s!"unknown escape sequence `{sequence}`"
  | .strayAmpersand => "unexpected `&`, did you mean `&&`?"
  | .strayPipe => "unexpected `|`, did you mean `||`?"
  | .unexpectedCharacter text => s!"unexpected character `{text}`"
  | .unmet expected found => s!"expected {expected.describe}, found {describeFound found}"
  | .invalidAssignmentTarget => "invalid assignment target"
  | .custom _ _ message => message

/-- The tokens that would have been accepted, where the problem names some. -/
def expectedTokens : Problem → List Token
  | .unmet expected _ => expected.listed
  | _ => []

/-- The token found instead of what was expected. -/
def found : Problem → Option Token
  | .unmet _ found => found
  | _ => none

end Problem

/-- A problem with the place it was found at. -/
structure Diagnostic where
  range : Range
  problem : Problem
  /-- The tool that reports the problem. -/
  source : String := "daedalus-parser"
deriving DecidableEq

namespace Diagnostic

/-- Whether a diagnostic makes its source wrong. -/
def isError (diagnostic : Diagnostic) : Bool :=
  diagnostic.problem.severity = .error

/-- A diagnostic on one line: its severity, code and message, and where it begins. -/
def display (diagnostic : Diagnostic) : String :=
  s!"{diagnostic.problem.severity.name}[{diagnostic.problem.code.name}]: " ++
    s!"{diagnostic.problem.message} at {diagnostic.range.start.display}"

end Diagnostic

/-- A source that strict parsing rejects.  Only some of its errors may have been kept. -/
structure SyntaxErrors where
  count : Nat
  kept : List Diagnostic

/-- How many errors there are, and the first of those that were kept. -/
def SyntaxErrors.message (errors : SyntaxErrors) : String :=
  s!"{errors.count} syntax error(s)" ++
    match errors.kept.head? with
    | some diagnostic => s!", first: {diagnostic.display}"
    | none => ""

end ScriptTree
