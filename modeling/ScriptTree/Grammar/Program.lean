import ScriptTree.Grammar.Recovery
import ScriptTree.Node.Assembly

/-!
# Reading programs

Each construct has a function that reads it from a state and yields it, with the
state after it.  Reading never fails: what is missing is reported and stands
there as an empty node, and where lists get back on track they skip lexemes.
-/

namespace ScriptTree.Grammar

/-!
## Expressions

An expression is a chain of operands joined by binary operators.  An operand is
a row of prefix operators in front of a primary with a row of accesses after it:
an index in brackets, a member after a dot, or arguments in parentheses.  A
primary is a name, a literal, or an expression in parentheses.

Reading an expression always yields one.  Where none can be read the result is
the stand-in for a missing expression.  A token that was already reported when
it was read passes for an operand.
-/

/-- The tokens that an expression can start with. -/
def startsExpression : Token → Bool
  | .identifier | .number | .string | .kwTrue | .kwFalse | .lParen | .bang | .tilde | .plus
  | .minus => true
  | token => token.isError

/-- The primaries that are one token. -/
inductive Literal where
  | identifier
  | number
  | string
  | boolean (value : Bool)
  | error

namespace Literal

/-- What primary a token is, if it is one. -/
def ofToken? : Token → Option Literal
  | .identifier => some .identifier
  | .number => some .number
  | .string => some .string
  | .kwTrue => some (.boolean true)
  | .kwFalse => some (.boolean false)
  | token => if token.isError then some .error else none

/-- The expression that a lexeme of the kind stands for. -/
def expression (lexeme : Lexeme) : Literal → Expression
  | .identifier => .identifier ⟨lexeme.text, lexeme.range⟩
  | .number => .number ⟨lexeme.text, lexeme.range⟩
  | .string => .string ⟨lexeme.text, lexeme.range⟩
  | .boolean value => .boolean ⟨value, lexeme.range⟩
  | .error => .error ⟨[lexeme.toPlacedToken], lexeme.range⟩

end Literal

/-- The accesses that can follow an operand. -/
inductive Access where
  | index
  | member
  | arguments

/-- What access a token starts, if it starts one. -/
def Access.ofToken? : Token → Option Access
  | .lBracket => some .index
  | .dot => some .member
  | .lParen => some .arguments
  | _ => none

/-- The binary operator of a token, if it binds at least as tightly as `power`. -/
def operatorFrom? (power : Nat) (token : Token) : Option BinaryOperator :=
  (BinaryOperator.ofToken? token).filter fun operator => power ≤ operator.power

mutual

/-- An operand, and the operators binding at least as tightly as `power` with their operands. -/
def operation (power : Nat) (state : State) : Step state Expression :=
  match operand state with
  | ⟨left, afterLeft, fewer⟩ =>
    match operators power left afterLeft with
    | ⟨expression, next, fewerStill⟩ => ⟨expression, next, Nat.le_trans fewerStill fewer⟩
termination_by 5 * state.rest.length + 3

/-- The operators that go on from a left operand, taken from left to right. -/
def operators (power : Nat) (left : Expression) (state : State) : Step state Expression :=
  match state.unlessRecovering? (state.take? (operatorFrom? power)) with
  | none => state.stay left
  | some ⟨operator, sign, afterSign, _⟩ =>
    match operation (operator.power + 1) afterSign with
    | ⟨right, afterRight, _⟩ =>
      match operators power (.binary operator left sign.range right) afterRight with
      | ⟨expression, next, _⟩ => ⟨expression, next, by omega⟩
termination_by 5 * state.rest.length + 1

/-- Prefix operators, or a primary with its accesses. -/
def operand (state : State) : Step state Expression :=
  match state.take? UnaryOperator.ofToken? with
  | some ⟨operator, sign, afterSign, _⟩ =>
    match operand afterSign with
    | ⟨inner, next, _⟩ => ⟨.unary operator sign.range inner, next, by omega⟩
  | none =>
    match primary state with
    | ⟨head, afterHead, _⟩ =>
      match accesses head afterHead with
      | ⟨expression, next, _⟩ => ⟨expression, next, by omega⟩
termination_by 5 * state.rest.length + 2

/-- A name, a literal, or an expression in parentheses. -/
def primary (state : State) : Step state Expression :=
  match state.take? (State.only .lParen) with
  | some ⟨_, opening, afterOpening, _⟩ =>
    match operation lowestPower afterOpening with
    | ⟨inner, afterInner, _⟩ =>
      match afterInner.unlessRecovering none (afterInner.expect .rParen) with
      | ⟨closing, next, _⟩ => ⟨.parenthesized opening.range inner closing, next, by omega⟩
  | none =>
    match state.take? Literal.ofToken? with
    | some ⟨literal, lexeme, next, fewer⟩ => ⟨literal.expression lexeme, next, Nat.le_of_lt fewer⟩
    | none => state.failing (.production "expression") (.missing state.anchor)
termination_by 5 * state.rest.length + 1

/-- The accesses that go on from an operand, taken from left to right. -/
def accesses (head : Expression) (state : State) : Step state Expression :=
  match state.unlessRecovering? (state.take? Access.ofToken?) with
  | none => state.stay head
  | some ⟨.index, opening, afterOpening, _⟩ =>
    match operation lowestPower afterOpening with
    | ⟨index, afterIndex, _⟩ =>
      match afterIndex.unlessRecovering none (afterIndex.expect .rBracket) with
      | ⟨closing, afterClosing, _⟩ =>
        match accesses (.arrayAccess head opening.range index closing) afterClosing with
        | ⟨expression, next, _⟩ => ⟨expression, next, by omega⟩
  | some ⟨.member, dot, afterDot, _⟩ =>
    match afterDot.identifier with
    | ⟨member, afterMember, _⟩ =>
      match accesses (.memberAccess head dot.range member) afterMember with
      | ⟨expression, next, _⟩ => ⟨expression, next, by omega⟩
  | some ⟨.arguments, opening, afterOpening, _⟩ =>
    match argumentList afterOpening with
    | ⟨arguments, afterArguments, _⟩ =>
      match afterArguments.unlessRecovering none (afterArguments.expect .rParen) with
      | ⟨closing, afterClosing, _⟩ =>
        match accesses (.call head opening.range arguments closing) afterClosing with
        | ⟨expression, next, _⟩ => ⟨expression, next, by omega⟩
termination_by 5 * state.rest.length + 1

/-- The arguments between the parentheses of a call. -/
def argumentList (state : State) : Step state (List (Expression × Option Range)) :=
  if state.isAt .rParen then
    state.stay []
  else
    arguments state
termination_by 5 * state.rest.length + 5

/-- One argument or more.  A comma in front of the closing parenthesis is an error. -/
def arguments (state : State) : Step state (List (Expression × Option Range)) :=
  match operation lowestPower state with
  | ⟨argument, afterArgument, _⟩ =>
    match afterArgument.unlessRecovering? (afterArgument.take? (State.only .comma)) with
    | none => ⟨[(argument, none)], afterArgument, by omega⟩
    | some ⟨_, comma, afterComma, _⟩ =>
      if afterComma.isAt .rParen then
        ⟨[(argument, some comma.range)], afterComma.fail (.production "expression"), by
          rw [State.rest_fail]; omega⟩
      else
        match arguments afterComma with
        | ⟨more, next, _⟩ => ⟨(argument, some comma.range) :: more, next, by omega⟩
termination_by 5 * state.rest.length + 4

end

/-- A whole expression. -/
def expression (state : State) : Step state Expression :=
  operation lowestPower state

/-- The elements of an array initializer, and the place where the last one was sought in vain.
At least one element is sought, and a comma may follow the last element. -/
def elements (isFirst : Bool) (state : State) :
    Step state (List (Expression × Option Range) × Option Range) :=
  if !isFirst && state.isAt .rBrace then
    state.stay ([], none)
  else
    match expression state with
    | ⟨element, afterElement, _⟩ =>
      if element.isMissing then
        ⟨([], some afterElement.anchor), afterElement, by omega⟩
      else
        match afterElement.unlessRecovering? (afterElement.take? (State.only .comma)) with
        | none => ⟨([(element, none)], none), afterElement, by omega⟩
        | some ⟨_, comma, afterComma, _⟩ =>
          match elements false afterComma with
          | ⟨(more, gap), next, _⟩ =>
            ⟨((element, some comma.range) :: more, gap), next, by omega⟩
termination_by state.rest.length

/-- The value of a variable: an expression, or elements in braces. -/
def initialValue (state : State) : Step state Expression :=
  match state.take? (State.only .lBrace) with
  | none => expression state
  | some ⟨_, opening, afterOpening, _⟩ =>
    match elements true afterOpening with
    | ⟨(items, gap), afterItems, _⟩ =>
      match afterItems.unlessRecovering none (afterItems.expect .rBrace) with
      | ⟨closing, next, _⟩ =>
        ⟨.arrayInitializer opening.range items gap closing, next, by omega⟩

/-!
## Statements and blocks

A statement is recognized by its first token.  The statements of a block are
read one after the other; after each of them the list gets back on track if the
statement could not be finished.  A keyword of a declaration that cannot be
nested ends every open block, whose closing brace is then missing.
-/

/-- The brackets after the name of a variable. -/
def arraySize (state : State) : Step state (Option ArraySize) :=
  match state.unlessRecovering? (state.take? (State.only .lBracket)) with
  | none => state.stay none
  | some ⟨_, opening, afterOpening, _⟩ =>
    match expression afterOpening with
    | ⟨size, afterSize, _⟩ =>
      match afterSize.unlessRecovering none (afterSize.expect .rBracket) with
      | ⟨closing, next, _⟩ => ⟨some ⟨opening.range, size, closing⟩, next, by omega⟩

/-- The sign and the value after the name and the brackets of a variable. -/
def initializer (state : State) : Step state (Option Initializer) :=
  match state.unlessRecovering? (state.take? (State.only .assign)) with
  | none => state.stay none
  | some ⟨_, sign, afterSign, _⟩ =>
    match initialValue afterSign with
    | ⟨value, next, _⟩ => ⟨some ⟨sign.range, value⟩, next, by omega⟩

/-- A variable declaration after its keyword. -/
def variableDeclaration (kind : VariableKind) (keyword : Range) (state : State) :
    Step state VariableDeclaration :=
  match state.typeReference with
  | ⟨type, afterType, _⟩ =>
    match afterType.unlessRecovering (.missing afterType.anchor) afterType.identifier with
    | ⟨name, afterName, _⟩ =>
      match arraySize afterName with
      | ⟨size, afterSize, _⟩ =>
        match initializer afterSize with
        | ⟨initializer, afterInitializer, _⟩ =>
          match afterInitializer.unlessRecovering none afterInitializer.terminator with
          | ⟨terminator, next, _⟩ =>
            ⟨{ kind, keyword, type, name, size, initializer, terminator }, next, by omega⟩

/-- Whether an expression may stand on the left of an assignment.  An error node may, since it was
reported already. -/
def isAcceptableTarget (target : Expression) : Bool :=
  target.isAssignable || target.isError

/-- An assignment after its target. -/
def assignment (left : Expression) (state : State) : Step state AssignmentStatement :=
  let checked := if isAcceptableTarget left then state else state.rejectTarget left.range
  have unchanged : checked.rest = state.rest := by
    simp only [checked]
    split <;> rfl
  match checked.take? AssignmentOperator.ofToken? with
  | some ⟨operator, sign, afterSign, _⟩ =>
    match expression afterSign with
    | ⟨right, afterRight, _⟩ =>
      match afterRight.unlessRecovering none afterRight.terminator with
      | ⟨terminator, next, _⟩ =>
        ⟨⟨left, operator, some sign.range, right, terminator⟩, next, by
          rw [unchanged] at *; omega⟩
  | none =>
    let failed := checked.fail (.tokens [.assign])
    match failed.unlessRecovering none failed.terminator with
    | ⟨terminator, next, fewer⟩ =>
      ⟨⟨left, .assign, none, .missing checked.anchor, terminator⟩, next, by
        rw [State.rest_fail, unchanged] at fewer; exact fewer⟩

/-- A statement that starts with an expression. -/
def expressionStatement (state : State) : Step state Statement :=
  match expression state with
  | ⟨expression, afterExpression, _⟩ =>
    if !afterExpression.recovering && afterExpression.peek.any Token.isAssignmentOperator then
      match assignment expression afterExpression with
      | ⟨assignment, next, _⟩ => ⟨.assignmentStatement assignment, next, by omega⟩
    else
      match afterExpression.unlessRecovering none afterExpression.terminator with
      | ⟨terminator, next, _⟩ =>
        ⟨.expressionStatement ⟨expression, terminator⟩, next, by omega⟩

/-- A `return` after its keyword. -/
def returnStatement (keyword : Range) (state : State) : Step state ReturnStatement :=
  if state.peek.any startsExpression then
    match expression state with
    | ⟨value, afterValue, _⟩ =>
      match afterValue.unlessRecovering none afterValue.terminator with
      | ⟨terminator, next, _⟩ => ⟨⟨keyword, some value, terminator⟩, next, by omega⟩
  else
    match state.unlessRecovering none state.terminator with
    | ⟨terminator, next, fewer⟩ => ⟨⟨keyword, none, terminator⟩, next, fewer⟩

/-- The condition of an `if`.  Its parentheses belong to it, and they are reported where absent. -/
def condition (state : State) : Step state Expression :=
  if !state.isAt .lParen && state.peek.any startsExpression then
    match expression (state.reportMissing .lParen) with
    | ⟨condition, next, fewer⟩ =>
      ⟨condition, next, by rw [State.rest_reportMissing] at fewer; exact fewer⟩
  else
    expression state

/-- Whether the statements of a block, or the members of a class, end here. -/
def endsList (state : State) : Bool :=
  match state.peek with
  | none => true
  | some token => token = .rBrace || token.isTopLevelOnly

/-- Where a list goes on, there is something to read. -/
theorem rest_ne_nil_of_endsList_eq_false {state : State} (goesOn : ¬endsList state = true) :
    state.rest ≠ [] := by
  intro empty
  simp [endsList, State.peek, empty] at goesOn

mutual

/-- A block, or the report of a missing one. -/
def block (state : State) : Step state Block :=
  match state.take? (State.only .lBrace) with
  | none => state.failing (.tokens [.lBrace]) (.missing state.anchor true)
  | some ⟨_, opening, afterOpening, _⟩ =>
    match statements afterOpening with
    | ⟨items, afterItems, _⟩ =>
      match afterItems.expect .rBrace with
      | ⟨closing, next, _⟩ => ⟨.written opening.range items closing, next, by omega⟩
termination_by 6 * state.rest.length + 1

/-- The statements up to the end of a block. -/
def statements (state : State) : Step state (List Statement) :=
  if goesOn : endsList state then
    state.stay []
  else
    match statement state with
    | ⟨item, afterItem, fewer⟩ =>
      match state.resync afterItem .statement fewer (rest_ne_nil_of_endsList_eq_false goesOn) with
      | ⟨(skipped, resumed), progress⟩ =>
        have progress : resumed.rest.length < state.rest.length := progress
        match statements resumed with
        | ⟨more, next, _⟩ =>
          ⟨item.toList ++ (skipped.map Statement.error).toList ++ more, next, by omega⟩
termination_by 6 * state.rest.length + 5

/-- One statement, or none if the next token starts none. -/
def statement (state : State) : Step state (Option Statement) :=
  match state.take? (State.only .kwIf) with
  | some ⟨_, keyword, afterKeyword, _⟩ =>
    match ifStatement keyword.range afterKeyword with
    | ⟨statement, next, _⟩ => ⟨some statement, next, by omega⟩
  | none =>
    match state.take? (State.only .kwReturn) with
    | some ⟨_, keyword, afterKeyword, _⟩ =>
      match returnStatement keyword.range afterKeyword with
      | ⟨statement, next, _⟩ => ⟨some (.returnStatement statement), next, by omega⟩
    | none =>
      match state.take? VariableKind.ofToken? with
      | some ⟨kind, keyword, afterKeyword, _⟩ =>
        match variableDeclaration kind keyword.range afterKeyword with
        | ⟨declaration, next, _⟩ => ⟨some (.variableDeclaration declaration), next, by omega⟩
      | none =>
        if state.isAt .lBrace then
          match block state with
          | ⟨block, next, fewer⟩ => ⟨some (.block block), next, fewer⟩
        else if state.peek.any startsExpression then
          match expressionStatement state with
          | ⟨statement, next, fewer⟩ => ⟨some statement, next, fewer⟩
        else if state.rest.isEmpty then
          state.failing (.production "statement") none
        else
          ⟨none, state.reject "statement", by simp⟩
termination_by 6 * state.rest.length + 2

/-- An `if` after its keyword. -/
def ifStatement (keyword : Range) (state : State) : Step state Statement :=
  match condition state with
  | ⟨condition, afterCondition, _⟩ =>
    match branch afterCondition with
    | ⟨consequence, afterConsequence, _⟩ =>
      match afterConsequence.unlessRecovering?
          (afterConsequence.take? (State.only .kwElse)) with
      | none => ⟨.ifStatement keyword condition consequence none, afterConsequence, by omega⟩
      | some ⟨_, elseKeyword, afterElse, _⟩ =>
        match branch afterElse with
        | ⟨alternative, next, _⟩ =>
          ⟨.ifStatement keyword condition consequence (some (elseKeyword.range, alternative)),
            next, by omega⟩
termination_by 6 * state.rest.length + 4

/-- A branch of an `if`: a block and an optional semicolon, or a single statement. -/
def branch (state : State) : Step state Branch :=
  if state.recovering then
    state.stay (.missing state.anchor)
  else if state.isAt .lBrace then
    match block state with
    | ⟨block, afterBlock, _⟩ =>
      match afterBlock.eat .semicolon with
      | ⟨semicolon, next, _⟩ => ⟨.written (.block block) semicolon, next, by omega⟩
  else
    match statement state with
    | ⟨some statement, next, fewer⟩ => ⟨.written statement none, next, fewer⟩
    | ⟨none, next, fewer⟩ => ⟨.missing next.anchor, next, fewer⟩
termination_by 6 * state.rest.length + 3

end

/-!
## Declarations and programs

A declaration is recognized by its keyword.  Where its header cannot be read,
the declaration ends there with its missing parts, and the program skips to the
next declaration.
-/

/-- The parent of an instance, if a parenthesis opens here. -/
def parentClause (state : State) : Step state (Option ParentClause) :=
  match state.unlessRecovering? (state.take? (State.only .lParen)) with
  | none => state.stay none
  | some ⟨_, opening, afterOpening, _⟩ =>
    match afterOpening.identifier with
    | ⟨name, afterName, _⟩ =>
      match afterName.unlessRecovering none (afterName.expect .rParen) with
      | ⟨closing, next, _⟩ => ⟨some ⟨opening.range, name, closing⟩, next, by omega⟩

/-- What follows the header of an instance: a block and an optional semicolon, or a semicolon.
A forward declaration names its parent. -/
def instanceBody (hasParent : Bool) (state : State) :
    Step state (Option Block × Option Range) :=
  if state.recovering then
    state.stay (none, none)
  else if state.isAt .lBrace then
    match block state with
    | ⟨body, afterBody, _⟩ =>
      match afterBody.eat .semicolon with
      | ⟨semicolon, next, _⟩ => ⟨(some body, semicolon), next, by omega⟩
  else if state.isAt .semicolon then
    let checked := if hasParent then state else state.reportMissing .lParen
    have unchanged : checked.rest = state.rest := by
      simp only [checked]
      split
      · rfl
      · exact State.rest_reportMissing state .lParen
    match checked.eat .semicolon with
    | ⟨semicolon, next, fewer⟩ => ⟨(none, semicolon), next, by rw [unchanged] at fewer; exact fewer⟩
  else
    state.failing (.tokens [.lBrace, .semicolon]) (none, none)

/-- An instance after its keyword. -/
def instanceDeclaration (keyword : Range) (state : State) : Step state InstanceDeclaration :=
  match state.identifier with
  | ⟨name, afterName, _⟩ =>
    match parentClause afterName with
    | ⟨parent, afterParent, _⟩ =>
      match instanceBody parent.isSome afterParent with
      | ⟨(body, semicolon), next, _⟩ => ⟨⟨keyword, name, parent, body, semicolon⟩, next, by omega⟩

/-- The block of a prototype or a function, and the optional semicolon after it. -/
def declarationBody (state : State) : Step state (Block × Option Range) :=
  if state.recovering then
    state.stay (.missing state.anchor false, none)
  else
    match block state with
    | ⟨body, afterBody, fewer⟩ =>
      if body.isMissing then
        ⟨(body, none), afterBody, fewer⟩
      else
        match afterBody.eat .semicolon with
        | ⟨semicolon, next, _⟩ => ⟨(body, semicolon), next, by omega⟩

/-- A prototype after its keyword. -/
def prototypeDeclaration (keyword : Range) (state : State) : Step state PrototypeDeclaration :=
  match state.identifier with
  | ⟨name, afterName, _⟩ =>
    match afterName.unlessRecovering none (afterName.expect .lParen) with
    | ⟨opening, afterOpening, _⟩ =>
      match afterOpening.unlessRecovering (.missing afterOpening.anchor)
          afterOpening.identifier with
      | ⟨parent, afterParent, _⟩ =>
        match afterParent.unlessRecovering none (afterParent.expect .rParen) with
        | ⟨closing, afterClosing, _⟩ =>
          match declarationBody afterClosing with
          | ⟨(body, semicolon), next, _⟩ =>
            ⟨⟨keyword, name, opening, parent, closing, body, semicolon⟩, next, by omega⟩

/-- The keyword in front of a parameter, if there is one. -/
def qualifier (state : State) : Step state (Option (VariableKind × Range)) :=
  match state.take? VariableKind.ofToken? with
  | none => state.stay none
  | some ⟨kind, keyword, next, fewer⟩ => ⟨some (kind, keyword.range), next, Nat.le_of_lt fewer⟩

/-- A parameter: an optional keyword, a type and a name. -/
def parameter (state : State) : Step state Parameter :=
  match qualifier state with
  | ⟨qualifier, afterQualifier, _⟩ =>
    match afterQualifier.typeReference with
    | ⟨type, afterType, _⟩ =>
      match afterType.unlessRecovering (.missing afterType.anchor) afterType.identifier with
      | ⟨name, next, _⟩ => ⟨⟨qualifier, type, name⟩, next, by omega⟩

/-- One parameter or more.  A comma in front of the closing parenthesis is an error. -/
def parameters (state : State) : Step state (List (Parameter × Option Range)) :=
  match parameter state with
  | ⟨item, afterItem, _⟩ =>
    match afterItem.unlessRecovering? (afterItem.take? (State.only .comma)) with
    | none => ⟨[(item, none)], afterItem, by omega⟩
    | some ⟨_, comma, afterComma, _⟩ =>
      if afterComma.isAt .rParen then
        ⟨[(item, some comma.range)], afterComma.fail (.production "parameter"), by
          rw [State.rest_fail]; omega⟩
      else
        match parameters afterComma with
        | ⟨more, next, _⟩ => ⟨(item, some comma.range) :: more, next, by omega⟩
termination_by state.rest.length

/-- The parameters of a function in their parentheses. -/
def parameterList (state : State) : Step state ParameterList :=
  if state.recovering then
    state.stay (.missing state.anchor)
  else
    match state.take? (State.only .lParen) with
    | none => state.failing (.tokens [.lParen]) (.missing state.anchor)
    | some ⟨_, opening, afterOpening, _⟩ =>
      if afterOpening.isAt .rParen then
        match afterOpening.unlessRecovering none (afterOpening.expect .rParen) with
        | ⟨closing, next, _⟩ => ⟨.written opening.range [] closing, next, by omega⟩
      else
        match parameters afterOpening with
        | ⟨items, afterItems, _⟩ =>
          match afterItems.unlessRecovering none (afterItems.expect .rParen) with
          | ⟨closing, next, _⟩ => ⟨.written opening.range items closing, next, by omega⟩

/-- A function after its keyword. -/
def functionDeclaration (keyword : Range) (state : State) : Step state FunctionDeclaration :=
  match state.typeReference with
  | ⟨returnType, afterType, _⟩ =>
    match afterType.unlessRecovering (.missing afterType.anchor) afterType.identifier with
    | ⟨name, afterName, _⟩ =>
      match parameterList afterName with
      | ⟨parameters, afterParameters, _⟩ =>
        match declarationBody afterParameters with
        | ⟨(body, semicolon), next, _⟩ =>
          ⟨⟨keyword, returnType, name, parameters, body, semicolon⟩, next, by omega⟩

/-- A field of a class, or an assignment to one; none if the next token starts neither.  A target
that cannot be finished is abandoned. -/
def classItem (state : State) : Step state (Option ClassItem) :=
  match state.take? VariableKind.ofToken? with
  | some ⟨kind, keyword, afterKeyword, _⟩ =>
    match variableDeclaration kind keyword.range afterKeyword with
    | ⟨declaration, next, _⟩ =>
      ⟨some (.member (.variableDeclaration declaration)), next, by omega⟩
  | none =>
    if state.isAt .identifier then
      match expression state with
      | ⟨target, afterTarget, _⟩ =>
        if afterTarget.recovering then
          ⟨some (.abandoned target), afterTarget, by omega⟩
        else
          match assignment target afterTarget with
          | ⟨assignment, next, _⟩ =>
            ⟨some (.member (.assignmentStatement assignment)), next, by omega⟩
    else
      ⟨none, state.reject "class member", by simp⟩

/-- The members up to the end of a class body. -/
def classItems (state : State) : Step state (List ClassItem) :=
  if goesOn : endsList state then
    state.stay []
  else
    match classItem state with
    | ⟨item, afterItem, fewer⟩ =>
      match state.resync afterItem .statement fewer (rest_ne_nil_of_endsList_eq_false goesOn) with
      | ⟨(skipped, resumed), progress⟩ =>
        have progress : resumed.rest.length < state.rest.length := progress
        match classItems resumed with
        | ⟨more, next, _⟩ =>
          let error := skipped.map fun node => ClassItem.member (.error node)
          ⟨item.toList ++ error.toList ++ more, next, by omega⟩
termination_by state.rest.length

/-- The body of a class, or the report of a missing one. -/
def classBody (state : State) : Step state ClassBody :=
  match state.take? (State.only .lBrace) with
  | none => state.failing (.tokens [.lBrace]) (.missing state.anchor)
  | some ⟨_, opening, afterOpening, _⟩ =>
    match classItems afterOpening with
    | ⟨items, afterItems, _⟩ =>
      match afterItems.expect .rBrace with
      | ⟨closing, next, _⟩ => ⟨.written opening.range items closing, next, by omega⟩

/-- A class after its keyword. -/
def classDeclaration (keyword : Range) (state : State) : Step state ClassDeclaration :=
  match state.identifier with
  | ⟨name, afterName, _⟩ =>
    if afterName.recovering then
      ⟨⟨keyword, name, .missing afterName.anchor, none⟩, afterName, by omega⟩
    else
      match classBody afterName with
      | ⟨body, afterBody, _⟩ =>
        if body.isMissing then
          ⟨⟨keyword, name, body, none⟩, afterBody, by omega⟩
        else
          match afterBody.eat .semicolon with
          | ⟨semicolon, next, _⟩ => ⟨⟨keyword, name, body, semicolon⟩, next, by omega⟩

/-- The keywords of declarations. -/
inductive DeclarationStart where
  | instanceKeyword
  | prototypeKeyword
  | functionKeyword
  | classKeyword
  | variableKeyword (kind : VariableKind)

/-- What declaration a token starts, if it starts one. -/
def DeclarationStart.ofToken? : Token → Option DeclarationStart
  | .kwInstance => some .instanceKeyword
  | .kwPrototype => some .prototypeKeyword
  | .kwFunc => some .functionKeyword
  | .kwClass => some .classKeyword
  | .kwVar => some (.variableKeyword .var)
  | .kwConst => some (.variableKeyword .const)
  | _ => none

/-- One declaration, or none if the next token starts none. -/
def declaration (state : State) : Step state (Option Declaration) :=
  match state.take? DeclarationStart.ofToken? with
  | none => ⟨none, state.reject "declaration", by simp⟩
  | some ⟨.instanceKeyword, keyword, afterKeyword, _⟩ =>
    match instanceDeclaration keyword.range afterKeyword with
    | ⟨declaration, next, _⟩ => ⟨some (.instanceDeclaration declaration), next, by omega⟩
  | some ⟨.prototypeKeyword, keyword, afterKeyword, _⟩ =>
    match prototypeDeclaration keyword.range afterKeyword with
    | ⟨declaration, next, _⟩ => ⟨some (.prototypeDeclaration declaration), next, by omega⟩
  | some ⟨.functionKeyword, keyword, afterKeyword, _⟩ =>
    match functionDeclaration keyword.range afterKeyword with
    | ⟨declaration, next, _⟩ => ⟨some (.functionDeclaration declaration), next, by omega⟩
  | some ⟨.classKeyword, keyword, afterKeyword, _⟩ =>
    match classDeclaration keyword.range afterKeyword with
    | ⟨declaration, next, _⟩ => ⟨some (.classDeclaration declaration), next, by omega⟩
  | some ⟨.variableKeyword kind, keyword, afterKeyword, _⟩ =>
    match variableDeclaration kind keyword.range afterKeyword with
    | ⟨declaration, next, _⟩ => ⟨some (.variableDeclaration declaration), next, by omega⟩

/-- The declarations up to the end of the input. -/
def declarations (state : State) : Step state (List Declaration) :=
  if goesOn : state.rest = [] then
    state.stay []
  else
    match declaration state with
    | ⟨item, afterItem, fewer⟩ =>
      match state.resync afterItem .topLevel fewer goesOn with
      | ⟨(skipped, resumed), progress⟩ =>
        have progress : resumed.rest.length < state.rest.length := progress
        match declarations resumed with
        | ⟨more, next, _⟩ =>
          ⟨item.toList ++ (skipped.map Declaration.error).toList ++ more, next, by omega⟩
termination_by state.rest.length

/-- A program, with what was reported while it was read. -/
structure Reading where
  program : Program
  diagnostics : List Diagnostic

/-- Read a whole program; `range` is the range of its source. -/
def program (lexemes : List Lexeme) (range : Range) : Reading :=
  match declarations (.ofLexemes lexemes) with
  | ⟨declarations, final, _⟩ => ⟨⟨declarations, range⟩, final.diagnostics⟩

end ScriptTree.Grammar
