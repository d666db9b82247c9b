import ScriptTree.Syntax.Terminal

/-!
# The state of a parse

A parse walks the lexemes from left to right.  It is either in its normal mode
or recovering.  While it recovers nothing is reported, and only skipping ends the
recovery, see `ScriptTree.Grammar.Recovery`.

The steps below take a lexeme wherever the one that they look for is next; none
of them asks for the mode.  A production that goes on after something that may
have failed asks first, by `unlessRecovering`.  That this is enough for nothing to
be taken while the parse recovers is proved of the grammar as a whole.

In the normal mode a missing token is reported once.  Where the token found
instead closes something, opens a block, starts a declaration, stands on a later
line, or where the input ends, the missing token is taken for granted and the
parse goes on.  Everywhere else the parse starts to recover.

A step from a state keeps the promise that it adds no lexemes.  This is what
the termination of the grammar rests on.
-/

namespace ScriptTree.Grammar

/-- Where the parser is in the source, and what it has reported so far. -/
structure State where
  /-- The lexemes that are not taken yet. -/
  rest : List Lexeme
  /-- How many lexemes were taken. -/
  index : Nat
  /-- The empty range after the last lexeme taken, where missing parts stand. -/
  anchor : Range
  recovering : Bool
  /-- The index of the lexeme at which an error was noted last. -/
  noted : Option Nat
  /-- What was reported so far, the first report first. -/
  diagnostics : List Diagnostic

/-- A value read from the state `start`, and the state after it. -/
structure Step (start : State) (α : Type) where
  value : α
  next : State
  fewer : next.rest.length ≤ start.rest.length

/-- A lexeme taken from the state `start`, with what was recognized in it. -/
structure Taken (start : State) (α : Type) where
  value : α
  lexeme : Lexeme
  next : State
  fewer : next.rest.length < start.rest.length

namespace State

/-- The state before the first lexeme. -/
def ofLexemes (lexemes : List Lexeme) : State where
  rest := lexemes
  index := 0
  anchor := .emptyAt 0 ⟨0, 0⟩
  recovering := false
  noted := none
  diagnostics := []

/-- The next token, if there is one. -/
def peek (state : State) : Option Token :=
  state.rest.head?.map fun lexeme => lexeme.token

/-- Whether a token is next. -/
def isAt (state : State) (token : Token) : Bool :=
  state.peek = some token

/-- Pass over the first lexeme, which leaves `rest`. -/
def advance (state : State) (lexeme : Lexeme) (rest : List Lexeme) : State :=
  { state with rest, index := state.index + 1, anchor := lexeme.range.after }

/-- Take the next lexeme if its token is recognized. -/
def take? {α : Type} (state : State) (recognize : Token → Option α) : Option (Taken state α) :=
  match equation : state.rest with
  | [] => none
  | lexeme :: rest =>
    match recognize lexeme.token with
    | none => none
    | some value =>
      some
        { value
          lexeme
          next := state.advance lexeme rest
          fewer := by simp [advance, equation] }

/-- Take something in the normal mode only. -/
def unlessRecovering? {α : Type} (state : State) (taken : Option (Taken state α)) :
    Option (Taken state α) :=
  if state.recovering then none else taken

/-- Recognize one token. -/
def only (token : Token) : Token → Option Unit :=
  fun found => if found = token then some () else none

/-- Whether something that is missing here may be taken for granted. -/
def admitsInsertion (state : State) : Bool :=
  match state.rest.head? with
  | none => true
  | some lexeme =>
    match lexeme.token with
    | .semicolon | .rBrace | .rParen | .rBracket | .lBrace => true
    | token =>
      token.isDeclarationKeyword || state.anchor.start.line < lexeme.range.start.line

/-- Report a problem at the next lexeme.  Nothing is reported while the parse recovers, where a
problem was noted already, and at a lexeme that was reported when it was read. -/
def report (state : State) (range : Range) (expected : Expectation) : State :=
  let found := state.peek
  let silent :=
    state.recovering || state.noted = some state.index || found.any Token.isError
  let diagnostic : Diagnostic := { range, problem := .unmet expected found }
  { state with
    noted := some state.index
    diagnostics := if silent then state.diagnostics else state.diagnostics ++ [diagnostic] }

/-- The range of the next lexeme, or of the end of the input. -/
def here (state : State) : Range :=
  match state.rest.head? with
  | none => state.anchor
  | some lexeme => lexeme.range

/-- Report a token as missing here, and go on as if it were there. -/
def reportMissing (state : State) (token : Token) : State :=
  state.report state.anchor (.tokens [token])

/-- Report something as missing here, and start to recover unless it may be taken for granted. -/
def fail (state : State) (expected : Expectation) : State :=
  if state.admitsInsertion then
    state.report state.anchor expected
  else
    { state.report state.here expected with recovering := true }

/-- Report that no production starts with the next lexeme, and start to recover. -/
def reject (state : State) (production : String) : State :=
  { state.report state.here (.production production) with recovering := true }

/-- Report that an assignment has a target that cannot be assigned to. -/
def rejectTarget (state : State) (target : Range) : State :=
  let diagnostic : Diagnostic := { range := target, problem := .invalidAssignmentTarget }
  { state with diagnostics := state.diagnostics ++ [diagnostic] }

@[simp]
theorem rest_report (state : State) (range : Range) (expected : Expectation) :
    (state.report range expected).rest = state.rest :=
  rfl

@[simp]
theorem rest_reportMissing (state : State) (token : Token) :
    (state.reportMissing token).rest = state.rest :=
  rest_report state state.anchor (.tokens [token])

@[simp]
theorem rest_fail (state : State) (expected : Expectation) :
    (state.fail expected).rest = state.rest := by
  unfold fail
  split
  · exact rest_report state state.anchor expected
  · exact rest_report state state.here expected

@[simp]
theorem rest_reject (state : State) (production : String) :
    (state.reject production).rest = state.rest :=
  rest_report state state.here (.production production)

@[simp]
theorem rest_rejectTarget (state : State) (target : Range) :
    (state.rejectTarget target).rest = state.rest :=
  rfl

/-- Stay where the state is. -/
def stay {α : Type} (state : State) (value : α) : Step state α :=
  ⟨value, state, Nat.le_refl _⟩

/-- Do a step in the normal mode only.  A parse that recovers stays where it is, and something
stands in for what the step yields. -/
def unlessRecovering {α : Type} (state : State) (standIn : α) (step : Step state α) :
    Step state α :=
  if state.recovering then state.stay standIn else step

/-- Yield a value after something was reported missing. -/
def failing {α : Type} (state : State) (expected : Expectation) (value : α) : Step state α :=
  ⟨value, state.fail expected, by simp⟩

/-- Take a token if it is next; the value is its place. -/
def eat (state : State) (token : Token) : Step state (Option Range) :=
  match state.take? (only token) with
  | some ⟨_, lexeme, next, fewer⟩ => ⟨some lexeme.range, next, Nat.le_of_lt fewer⟩
  | none => state.stay none

/-- Take a token, or report it as missing. -/
def expect (state : State) (token : Token) : Step state (Option Range) :=
  match state.take? (only token) with
  | some ⟨_, lexeme, next, fewer⟩ => ⟨some lexeme.range, next, Nat.le_of_lt fewer⟩
  | none => state.failing (.tokens [token]) none

/-- Tokens that start the next statement even on the line of the one before. -/
def opensNextStatement : Token → Bool
  | .identifier | .kwIf | .kwReturn => true
  | _ => false

/-- Take the semicolon that ends a statement or a declaration.  Where the next statement starts
right there, the semicolon is taken for granted. -/
def terminator (state : State) : Step state (Option Range) :=
  match state.take? (only .semicolon) with
  | some ⟨_, lexeme, next, fewer⟩ => ⟨some lexeme.range, next, Nat.le_of_lt fewer⟩
  | none =>
    if state.peek.any opensNextStatement then
      ⟨none, state.reportMissing .semicolon, by simp⟩
    else
      state.failing (.tokens [.semicolon]) none

/-- Take an identifier, or report it as missing. -/
def identifier (state : State) : Step state Identifier :=
  match state.take? (only .identifier) with
  | some ⟨_, lexeme, next, fewer⟩ =>
    ⟨⟨lexeme.text, lexeme.range⟩, next, Nat.le_of_lt fewer⟩
  | none => state.failing (.tokens [.identifier]) (.missing state.anchor)

/-- Recognize a token that a type can be named by. -/
def recognizeType (token : Token) : Option Unit :=
  if token.isTypeKeyword || token = .identifier then some () else none

/-- A builtin type, or the name of a class. -/
def typeReference (state : State) : Step state TypeReference :=
  match state.take? recognizeType with
  | some ⟨_, lexeme, next, fewer⟩ =>
    let type := (TypeName.builtin? lexeme.token).getD (.named lexeme.text)
    ⟨⟨type, lexeme.range⟩, next, Nat.le_of_lt fewer⟩
  | none => state.failing (.production "type") (.missing state.anchor)

end State

end ScriptTree.Grammar
