import ScriptTree.Syntax.Program

/-!
# Trees without places

Two trees are alike if they differ in ranges only.  To say so, `unplaced` moves
every part of a tree to one and the same range; what is absent stays absent.  The
reason why a block is missing is forgotten too.
-/

namespace ScriptTree

/-- Whether something is there, without its place. -/
def unplaced? (place : Option Range) : Option Range :=
  place.map fun _ => default

/-- Items without places, each with the comma after it. -/
def unplacedItems {α : Type} (unplaced : α → α) :
    List (α × Option Range) → List (α × Option Range) :=
  List.map fun item => (unplaced item.1, unplaced? item.2)

def Identifier.unplaced (identifier : Identifier) : Identifier :=
  ⟨identifier.name, default⟩

def TypeReference.unplaced (reference : TypeReference) : TypeReference :=
  ⟨reference.type, default⟩

/-- An error keeps which tokens it skips. -/
def ErrorNode.unplaced (node : ErrorNode) : ErrorNode :=
  ⟨node.skipped.map fun skipped => ⟨skipped.token, default⟩, default⟩

namespace Expression

mutual

/-- An expression without places.  A closing bracket or a comma that is missing stays missing. -/
@[simp]
def unplaced : Expression → Expression
  | .binary operator left _ right => .binary operator left.unplaced default right.unplaced
  | .unary operator _ operand => .unary operator default operand.unplaced
  | .arrayAccess array _ index closing =>
    .arrayAccess array.unplaced default index.unplaced (unplaced? closing)
  | .memberAccess object _ member => .memberAccess object.unplaced default member.unplaced
  | .call function _ arguments closing =>
    .call function.unplaced default (listUnplaced arguments) (unplaced? closing)
  | .parenthesized _ inner closing => .parenthesized default inner.unplaced (unplaced? closing)
  | .boolean literal => .boolean ⟨literal.value, default⟩
  | .number literal => .number ⟨literal.text, default⟩
  | .string literal => .string ⟨literal.raw, default⟩
  | .identifier name => .identifier name.unplaced
  | .arrayInitializer _ elements gap closing =>
    .arrayInitializer default (listUnplaced elements) (unplaced? gap) (unplaced? closing)
  | .error node => .error node.unplaced

@[simp]
def listUnplaced : List (Expression × Option Range) → List (Expression × Option Range)
  | [] => []
  | (expression, comma) :: rest =>
    (expression.unplaced, unplaced? comma) :: listUnplaced rest

end

end Expression

def ArraySize.unplaced (size : ArraySize) : ArraySize :=
  ⟨default, size.size.unplaced, unplaced? size.closing⟩

def Initializer.unplaced (initializer : Initializer) : Initializer :=
  ⟨default, initializer.value.unplaced⟩

def VariableDeclaration.unplaced (declaration : VariableDeclaration) : VariableDeclaration :=
  { kind := declaration.kind
    keyword := default
    type := declaration.type.unplaced
    name := declaration.name.unplaced
    size := declaration.size.map ArraySize.unplaced
    initializer := declaration.initializer.map Initializer.unplaced
    terminator := unplaced? declaration.terminator }

def AssignmentStatement.unplaced (assignment : AssignmentStatement) : AssignmentStatement :=
  { left := assignment.left.unplaced
    operator := assignment.operator
    sign := unplaced? assignment.sign
    right := assignment.right.unplaced
    terminator := unplaced? assignment.terminator }

def ExpressionStatement.unplaced (statement : ExpressionStatement) : ExpressionStatement :=
  ⟨statement.expression.unplaced, unplaced? statement.terminator⟩

def ReturnStatement.unplaced (statement : ReturnStatement) : ReturnStatement :=
  ⟨default, statement.value.map Expression.unplaced, unplaced? statement.terminator⟩

mutual

/-- A block without places, and without the reason why it is missing. -/
@[simp]
def Block.unplaced : Block → Block
  | .missing _ _ => .missing default true
  | .written _ statements closing =>
    .written default (Statement.listUnplaced statements) (unplaced? closing)

@[simp]
def Statement.unplaced : Statement → Statement
  | .assignmentStatement assignment => .assignmentStatement assignment.unplaced
  | .expressionStatement statement => .expressionStatement statement.unplaced
  | .ifStatement _ condition consequence none =>
    .ifStatement default condition.unplaced consequence.unplaced none
  | .ifStatement _ condition consequence (some (_, alternative)) =>
    .ifStatement default condition.unplaced consequence.unplaced
      (some (default, alternative.unplaced))
  | .returnStatement statement => .returnStatement statement.unplaced
  | .variableDeclaration declaration => .variableDeclaration declaration.unplaced
  | .block block => .block block.unplaced
  | .error node => .error node.unplaced

@[simp]
def Branch.unplaced : Branch → Branch
  | .missing _ => .missing default
  | .written statement semicolon => .written statement.unplaced (unplaced? semicolon)

@[simp]
def Statement.listUnplaced : List Statement → List Statement
  | [] => []
  | statement :: rest => statement.unplaced :: Statement.listUnplaced rest

end

def ParentClause.unplaced (parent : ParentClause) : ParentClause :=
  ⟨default, parent.name.unplaced, unplaced? parent.closing⟩

def InstanceDeclaration.unplaced (declaration : InstanceDeclaration) : InstanceDeclaration :=
  { keyword := default
    name := declaration.name.unplaced
    parent := declaration.parent.map ParentClause.unplaced
    body := declaration.body.map Block.unplaced
    semicolon := unplaced? declaration.semicolon }

def PrototypeDeclaration.unplaced (declaration : PrototypeDeclaration) :
    PrototypeDeclaration :=
  { keyword := default
    name := declaration.name.unplaced
    opening := unplaced? declaration.opening
    parent := declaration.parent.unplaced
    closing := unplaced? declaration.closing
    body := declaration.body.unplaced
    semicolon := unplaced? declaration.semicolon }

def Parameter.unplaced (parameter : Parameter) : Parameter :=
  { qualifier := parameter.qualifier.map fun qualifier => (qualifier.1, default)
    type := parameter.type.unplaced
    name := parameter.name.unplaced }

def ParameterList.unplaced : ParameterList → ParameterList
  | .missing _ => .missing default
  | .written _ parameters closing =>
    .written default (unplacedItems Parameter.unplaced parameters) (unplaced? closing)

def FunctionDeclaration.unplaced (declaration : FunctionDeclaration) : FunctionDeclaration :=
  { keyword := default
    returnType := declaration.returnType.unplaced
    name := declaration.name.unplaced
    parameters := declaration.parameters.unplaced
    body := declaration.body.unplaced
    semicolon := unplaced? declaration.semicolon }

def ClassMember.unplaced : ClassMember → ClassMember
  | .variableDeclaration declaration => .variableDeclaration declaration.unplaced
  | .assignmentStatement assignment => .assignmentStatement assignment.unplaced
  | .error node => .error node.unplaced

def ClassItem.unplaced : ClassItem → ClassItem
  | .member content => .member content.unplaced
  | .abandoned target => .abandoned target.unplaced

def ClassBody.unplaced : ClassBody → ClassBody
  | .missing _ => .missing default
  | .written _ items closing =>
    .written default (items.map ClassItem.unplaced) (unplaced? closing)

def ClassDeclaration.unplaced (declaration : ClassDeclaration) : ClassDeclaration :=
  { keyword := default
    name := declaration.name.unplaced
    body := declaration.body.unplaced
    semicolon := unplaced? declaration.semicolon }

def Declaration.unplaced : Declaration → Declaration
  | .instanceDeclaration declaration => .instanceDeclaration declaration.unplaced
  | .prototypeDeclaration declaration => .prototypeDeclaration declaration.unplaced
  | .functionDeclaration declaration => .functionDeclaration declaration.unplaced
  | .variableDeclaration declaration => .variableDeclaration declaration.unplaced
  | .classDeclaration declaration => .classDeclaration declaration.unplaced
  | .error node => .error node.unplaced

/-- The declarations of a program without places. -/
def Program.unplaced (program : Program) : List Declaration :=
  program.declarations.map Declaration.unplaced

@[simp]
theorem unplaced?_none : unplaced? none = none :=
  rfl

@[simp]
theorem unplaced?_some (range : Range) : unplaced? (some range) = some default :=
  rfl

/-- What is there is there without its place as well. -/
theorem unplaced?_of_isSome {place : Option Range} (present : place.isSome = true) :
    unplaced? place = some default := by
  rcases Option.isSome_iff_exists.mp present with ⟨range, rfl⟩
  rfl

@[simp]
theorem Identifier.unplaced_missing (range : Range) :
    (Identifier.missing range).unplaced = .missing default :=
  rfl

@[simp]
theorem TypeReference.unplaced_missing (range : Range) :
    (TypeReference.missing range).unplaced = .missing default :=
  rfl

@[simp]
theorem Expression.unplaced_missing (range : Range) :
    (Expression.missing range).unplaced = .missing default :=
  rfl

/-- Statements lose their places one by one. -/
theorem Statement.listUnplaced_eq (statements : List Statement) :
    listUnplaced statements = statements.map unplaced := by
  induction statements with
  | nil => rfl
  | cons statement rest ih => rw [listUnplaced, ih, List.map_cons]

/-! ## What is missing is missing wherever it is -/

/-- An expression without places is missing exactly if it was so before. -/
@[simp]
theorem Expression.isMissing_unplaced (expression : Expression) :
    expression.unplaced.isMissing = expression.isMissing := by
  cases expression with
  | error node =>
    rw [unplaced, isMissing, isMissing, ErrorNode.isMissing, ErrorNode.isMissing,
      ErrorNode.unplaced, List.isEmpty_map]
  | _ =>
    rw [unplaced]
    rfl

@[simp]
theorem Block.isMissing_unplaced (block : Block) :
    block.unplaced.isMissing = block.isMissing := by
  cases block <;> simp [isMissing]

@[simp]
theorem ClassBody.isMissing_unplaced (body : ClassBody) :
    body.unplaced.isMissing = body.isMissing := by
  cases body <;> rfl

end ScriptTree
