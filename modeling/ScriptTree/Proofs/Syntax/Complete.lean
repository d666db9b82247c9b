import ScriptTree.Proofs.Syntax.Slots

/-!
# Complete trees

A tree is complete if every part that its productions require is there: no slot
is empty that has to be filled, no node is an error, and no list ends in a comma
that its production does not allow.  Such a tree says by itself which tokens it
is written as.

The conditions of the grammar that no production states by its shape belong to
completeness too: a forward instance names its parent, the condition of an `if`
starts with a parenthesis, an assignment has a target that can be assigned to,
and an array initializer has elements and is the value of a variable.
-/

namespace ScriptTree

/-! ## Marks -/

/-- Tokens whose texts differ from one place to another. -/
def Token.bearsText : Token → Bool
  | .identifier | .number | .string => true
  | _ => false

/-- A token with its text, if its text is not fixed; its place does not matter. -/
structure Mark where
  token : Token
  text : Option String := none
deriving DecidableEq

/-- The mark that a slot is written as. -/
def Slot.mark (slot : Slot) : Mark :=
  ⟨slot.token, slot.text⟩

/-- The mark that a lexeme leaves. -/
def Lexeme.mark (lexeme : Lexeme) : Mark :=
  ⟨lexeme.token, if lexeme.token.bearsText then some lexeme.text else none⟩

/-- A lexeme with the mark of a slot has its token. -/
theorem Lexeme.token_eq_of_mark_eq {lexeme : Lexeme} {slot : Slot}
    (same : lexeme.mark = slot.mark) : lexeme.token = slot.token :=
  congrArg Mark.token same

/-- Where a slot has a text, a lexeme that is marked like it has the same text. -/
theorem Lexeme.text_eq_of_mark_eq {lexeme : Lexeme} {slot : Slot} {text : String}
    (same : lexeme.mark = slot.mark) (written : slot.text = some text) :
    lexeme.text = text := by
  have texts : (if lexeme.token.bearsText then some lexeme.text else none) = some text :=
    (congrArg Mark.text same).trans written
  split at texts
  · exact Option.some.inj texts
  · cases texts

namespace Slot

/-- What the slots are written as. -/
def marks (slots : List Slot) : List Mark :=
  slots.map mark

@[simp]
theorem marks_nil : marks [] = [] :=
  rfl

/-- The marks of two rows of slots follow each other. -/
@[simp]
theorem marks_append (first second : List Slot) :
    marks (first ++ second) = marks first ++ marks second :=
  List.map_append

@[simp]
theorem marks_required (token : Token) (place : Option Range) :
    marks (required token place) = [⟨token, none⟩] :=
  rfl

@[simp]
theorem marks_allowed_none (token : Token) : marks (allowed token none) = [] :=
  rfl

@[simp]
theorem marks_allowed_some (token : Token) (range : Range) :
    marks (allowed token (some range)) = [⟨token, none⟩] :=
  rfl

@[simp]
theorem marks_comma_some (isLast : Bool) (range : Range) :
    marks (comma isLast (some range)) = [⟨.comma, none⟩] := by
  rw [comma_some, marks_required]

@[simp]
theorem marks_comma_last (place : Option Range) :
    marks (comma true place) = marks (allowed .comma place) :=
  rfl

end Slot

/-! ## Completeness -/

/-- Whether a name is there. -/
def Identifier.isComplete (identifier : Identifier) : Bool :=
  !identifier.isMissing

/-- Whether a type is there. -/
def TypeReference.isComplete (reference : TypeReference) : Bool :=
  reference.type ≠ .missing

/-- Whether a comma follows the last item of a list. -/
def hasTrailingComma {α : Type} (items : List (α × Option Range)) : Bool :=
  items.getLast?.any fun item => item.2.isSome

@[simp]
theorem hasTrailingComma_nil {α : Type} : hasTrailingComma ([] : List (α × Option Range)) = false :=
  rfl

@[simp]
theorem hasTrailingComma_singleton {α : Type} (item : α) (comma : Option Range) :
    hasTrailingComma [(item, comma)] = comma.isSome :=
  rfl

/-- Whether a list has a trailing comma is seen at its end. -/
theorem hasTrailingComma_cons {α : Type} {item : α × Option Range}
    {rest : List (α × Option Range)} (nonempty : rest ≠ []) :
    hasTrailingComma (item :: rest) = hasTrailingComma rest := by
  rw [hasTrailingComma, List.getLast?_cons_of_ne_nil nonempty]
  rfl

namespace Expression

mutual

/-- An array initializer is no expression of its own. -/
@[simp]
def isComplete : Expression → Bool
  | .binary _ left _ right => left.isComplete && right.isComplete
  | .unary _ _ operand => operand.isComplete
  | .arrayAccess array _ index closing =>
    array.isComplete && index.isComplete && closing.isSome
  | .memberAccess object _ member => object.isComplete && member.isComplete
  | .call function _ arguments closing =>
    function.isComplete && areComplete arguments && !hasTrailingComma arguments && closing.isSome
  | .parenthesized _ inner closing => inner.isComplete && closing.isSome
  | .boolean _ | .number _ | .string _ => true
  | .identifier name => name.isComplete
  | .arrayInitializer _ _ _ _ | .error _ => false

/-- Complete expressions with commas between them. -/
@[simp]
def areComplete : List (Expression × Option Range) → Bool
  | [] => true
  | (expression, comma) :: rest =>
    expression.isComplete && (rest.isEmpty || comma.isSome) && areComplete rest

end

/-- The value of a variable: an expression, or elements in braces. -/
def isCompleteValue : Expression → Bool
  | .arrayInitializer _ elements gap closing =>
    !elements.isEmpty && areComplete elements && gap.isNone && closing.isSome
  | expression => expression.isComplete

/-- An initializer is complete with complete elements between two braces, and nothing dropped. -/
@[simp]
theorem isCompleteValue_arrayInitializer (opening : Range)
    (elements : List (Expression × Option Range)) (gap closing : Option Range) :
    (arrayInitializer opening elements gap closing).isCompleteValue =
      (!elements.isEmpty && areComplete elements && gap.isNone && closing.isSome) :=
  rfl

/-- A complete expression is the value of a variable as well. -/
theorem isCompleteValue_of_isComplete {expression : Expression}
    (complete : expression.isComplete = true) : expression.isCompleteValue = true := by
  cases expression with
  | arrayInitializer => cases complete
  | _ => exact complete

/-- Whether an expression is written with a parenthesis in front. -/
def startsWithParenthesis (expression : Expression) : Bool :=
  expression.slots.head?.any fun slot => slot.token = .lParen

end Expression

/-- Whether the size of an array is complete and closed. -/
@[simp]
def ArraySize.isComplete (size : ArraySize) : Bool :=
  size.size.isComplete && size.closing.isSome

/-- Whether a variable has a type, a name and a semicolon, and is complete in what else it has. -/
@[simp]
def VariableDeclaration.isComplete (declaration : VariableDeclaration) : Bool :=
  declaration.type.isComplete && declaration.name.isComplete &&
    declaration.size.all ArraySize.isComplete &&
    (declaration.initializer.all fun initializer => initializer.value.isCompleteValue) &&
    declaration.terminator.isSome

/-- Whether an assignment has two sides, an operator and a semicolon, and a target that can be
assigned to. -/
@[simp]
def AssignmentStatement.isComplete (assignment : AssignmentStatement) : Bool :=
  assignment.left.isComplete && assignment.left.isAssignable && assignment.sign.isSome &&
    assignment.right.isComplete && assignment.terminator.isSome

/-- Whether an expression that makes a statement is complete and has a semicolon. -/
@[simp]
def ExpressionStatement.isComplete (statement : ExpressionStatement) : Bool :=
  statement.expression.isComplete && statement.terminator.isSome

/-- Whether a `return` has a semicolon, and is complete in its value. -/
@[simp]
def ReturnStatement.isComplete (statement : ReturnStatement) : Bool :=
  statement.value.all Expression.isComplete && statement.terminator.isSome

/-- Whether a statement is a block. -/
def Statement.isBlock : Statement → Bool
  | .block _ => true
  | _ => false

mutual

/-- Whether a block is there, closed, and complete in its statements. -/
@[simp]
def Block.isComplete : Block → Bool
  | .missing _ _ => false
  | .written _ statements closing => Statement.areComplete statements && closing.isSome

/-- Whether a statement has everything that it needs. -/
@[simp]
def Statement.isComplete : Statement → Bool
  | .assignmentStatement assignment => assignment.isComplete
  | .expressionStatement statement => statement.isComplete
  | .ifStatement _ condition consequence none =>
    condition.isComplete && condition.startsWithParenthesis && consequence.isComplete
  | .ifStatement _ condition consequence (some (_, alternative)) =>
    condition.isComplete && condition.startsWithParenthesis && consequence.isComplete &&
      alternative.isComplete
  | .returnStatement statement => statement.isComplete
  | .variableDeclaration declaration => declaration.isComplete
  | .block block => block.isComplete
  | .error _ => false

/-- Only a block takes a semicolon of the `if`. -/
@[simp]
def Branch.isComplete : Branch → Bool
  | .missing _ => false
  | .written statement semicolon =>
    statement.isComplete && (semicolon.isNone || statement.isBlock)

/-- Whether all statements of a list are complete. -/
@[simp]
def Statement.areComplete : List Statement → Bool
  | [] => true
  | statement :: rest => statement.isComplete && Statement.areComplete rest

end

/-- Whether a parent is named and its parenthesis is closed. -/
@[simp]
def ParentClause.isComplete (parent : ParentClause) : Bool :=
  parent.name.isComplete && parent.closing.isSome

/-- An instance has a body, or it is a forward declaration with a parent. -/
def InstanceDeclaration.isComplete (declaration : InstanceDeclaration) : Bool :=
  declaration.name.isComplete && declaration.parent.all ParentClause.isComplete &&
    match declaration.body with
    | some body => body.isComplete
    | none => declaration.parent.isSome && declaration.semicolon.isSome

/-- Whether a prototype has a name, a parent between parentheses, and a body. -/
@[simp]
def PrototypeDeclaration.isComplete (declaration : PrototypeDeclaration) : Bool :=
  declaration.name.isComplete && declaration.opening.isSome && declaration.parent.isComplete &&
    declaration.closing.isSome && declaration.body.isComplete

/-- Whether a parameter has a type and a name. -/
@[simp]
def Parameter.isComplete (parameter : Parameter) : Bool :=
  parameter.type.isComplete && parameter.name.isComplete

namespace ParameterList

/-- Complete parameters with commas between them. -/
@[simp]
def areComplete : List (Parameter × Option Range) → Bool
  | [] => true
  | (parameter, comma) :: rest =>
    parameter.isComplete && (rest.isEmpty || comma.isSome) && areComplete rest

/-- Whether a parameter list is there, closed, and complete in its parameters. -/
def isComplete : ParameterList → Bool
  | .missing _ => false
  | .written _ parameters closing =>
    areComplete parameters && !hasTrailingComma parameters && closing.isSome

end ParameterList

/-- Whether a function has a type, a name, parameters and a body. -/
@[simp]
def FunctionDeclaration.isComplete (declaration : FunctionDeclaration) : Bool :=
  declaration.returnType.isComplete && declaration.name.isComplete &&
    declaration.parameters.isComplete && declaration.body.isComplete

/-- Whether a class member is complete.  An error never is. -/
def ClassMember.isComplete : ClassMember → Bool
  | .variableDeclaration declaration => declaration.isComplete
  | .assignmentStatement assignment => assignment.isComplete
  | .error _ => false

/-- Whether an item of a class is complete.  What was dropped never is. -/
def ClassItem.isComplete : ClassItem → Bool
  | .member content => content.isComplete
  | .abandoned _ => false

/-- Whether the body of a class is there, closed, and complete in its items. -/
def ClassBody.isComplete : ClassBody → Bool
  | .missing _ => false
  | .written _ items closing => items.all ClassItem.isComplete && closing.isSome

/-- Whether a class has a name and a body. -/
@[simp]
def ClassDeclaration.isComplete (declaration : ClassDeclaration) : Bool :=
  declaration.name.isComplete && declaration.body.isComplete

/-- Whether a declaration has everything that it needs. -/
def Declaration.isComplete : Declaration → Bool
  | .instanceDeclaration declaration => declaration.isComplete
  | .prototypeDeclaration declaration => declaration.isComplete
  | .functionDeclaration declaration => declaration.isComplete
  | .variableDeclaration declaration => declaration.isComplete
  | .classDeclaration declaration => declaration.isComplete
  | .error _ => false

/-- What a program is written as, slot by slot. -/
def Program.writing (program : Program) : List Mark :=
  Slot.marks program.slots

/-- Whether all declarations of a program are complete. -/
def Program.isComplete (program : Program) : Bool :=
  program.declarations.all Declaration.isComplete

end ScriptTree
