import ScriptTree.Proofs.Syntax.Unplaced

/-!
# The structure of a program

Two programs have the same structure if they differ in nothing but ranges, in the
tokens that belong to a node besides its children, and in which tokens an error
skips.  To say so, `erased` moves every part of a tree to one range, drops the
tokens that may be absent, and keeps the number of the tokens that an error
skips.  Whether a block, a class body or a parameter list is missing stays.  A
branch that is missing becomes the statement that it stands for.
-/

namespace ScriptTree

/-- An error that skips so many tokens. -/
def ErrorNode.ofCount (count : Nat) : ErrorNode :=
  ⟨List.replicate count ⟨.error, default⟩, default⟩

/-- An error keeps how many tokens it skips. -/
def ErrorNode.erased (node : ErrorNode) : ErrorNode :=
  .ofCount node.skipped.length

namespace Expression

mutual

/-- The structure of an expression. -/
@[simp]
def erased : Expression → Expression
  | .binary operator left _ right => .binary operator left.erased default right.erased
  | .unary operator _ operand => .unary operator default operand.erased
  | .arrayAccess array _ index _ => .arrayAccess array.erased default index.erased none
  | .memberAccess object _ member => .memberAccess object.erased default member.unplaced
  | .call function _ arguments _ => .call function.erased default (listErased arguments) none
  | .parenthesized _ inner _ => .parenthesized default inner.erased none
  | .boolean literal => .boolean ⟨literal.value, default⟩
  | .number literal => .number ⟨literal.text, default⟩
  | .string literal => .string ⟨literal.raw, default⟩
  | .identifier name => .identifier name.unplaced
  | .arrayInitializer _ elements _ _ => .arrayInitializer default (listErased elements) none none
  | .error node => .error node.erased

@[simp]
def listErased : List (Expression × Option Range) → List (Expression × Option Range)
  | [] => []
  | (expression, _) :: rest => (expression.erased, none) :: listErased rest

end

end Expression

def ArraySize.erased (size : ArraySize) : ArraySize :=
  ⟨default, size.size.erased, none⟩

def Initializer.erased (initializer : Initializer) : Initializer :=
  ⟨default, initializer.value.erased⟩

def VariableDeclaration.erased (declaration : VariableDeclaration) : VariableDeclaration :=
  { kind := declaration.kind
    keyword := default
    type := declaration.type.unplaced
    name := declaration.name.unplaced
    size := declaration.size.map ArraySize.erased
    initializer := declaration.initializer.map Initializer.erased
    terminator := none }

def AssignmentStatement.erased (assignment : AssignmentStatement) : AssignmentStatement :=
  { left := assignment.left.erased
    operator := assignment.operator
    sign := none
    right := assignment.right.erased
    terminator := none }

def ExpressionStatement.erased (statement : ExpressionStatement) : ExpressionStatement :=
  ⟨statement.expression.erased, none⟩

def ReturnStatement.erased (statement : ReturnStatement) : ReturnStatement :=
  ⟨default, statement.value.map Expression.erased, none⟩

mutual

/-- The structure of a block.  One that is missing stays missing. -/
@[simp]
def Block.erased : Block → Block
  | .missing _ _ => .missing default true
  | .written _ statements _ => .written default (Statement.listErased statements) none

@[simp]
def Statement.erased : Statement → Statement
  | .assignmentStatement assignment => .assignmentStatement assignment.erased
  | .expressionStatement statement => .expressionStatement statement.erased
  | .ifStatement _ condition consequence none =>
    .ifStatement default condition.erased consequence.erased none
  | .ifStatement _ condition consequence (some (_, alternative)) =>
    .ifStatement default condition.erased consequence.erased (some (default, alternative.erased))
  | .returnStatement statement => .returnStatement statement.erased
  | .variableDeclaration declaration => .variableDeclaration declaration.erased
  | .block block => .block block.erased
  | .error node => .error node.erased

/-- A branch that is missing is the error that stands for its statement. -/
@[simp]
def Branch.erased : Branch → Branch
  | .missing _ => .written (.error (.ofCount 0)) none
  | .written statement _ => .written statement.erased none

@[simp]
def Statement.listErased : List Statement → List Statement
  | [] => []
  | statement :: rest => statement.erased :: Statement.listErased rest

end

def ParentClause.erased (parent : ParentClause) : ParentClause :=
  ⟨default, parent.name.unplaced, none⟩

def InstanceDeclaration.erased (declaration : InstanceDeclaration) : InstanceDeclaration :=
  { keyword := default
    name := declaration.name.unplaced
    parent := declaration.parent.map ParentClause.erased
    body := declaration.body.map Block.erased
    semicolon := none }

def PrototypeDeclaration.erased (declaration : PrototypeDeclaration) : PrototypeDeclaration :=
  { keyword := default
    name := declaration.name.unplaced
    opening := none
    parent := declaration.parent.unplaced
    closing := none
    body := declaration.body.erased
    semicolon := none }

def ParameterList.erased : ParameterList → ParameterList
  | .missing _ => .missing default
  | .written _ parameters _ =>
    .written default (parameters.map fun parameter => (parameter.1.unplaced, none)) none

def FunctionDeclaration.erased (declaration : FunctionDeclaration) : FunctionDeclaration :=
  { keyword := default
    returnType := declaration.returnType.unplaced
    name := declaration.name.unplaced
    parameters := declaration.parameters.erased
    body := declaration.body.erased
    semicolon := none }

def ClassMember.erased : ClassMember → ClassMember
  | .variableDeclaration declaration => .variableDeclaration declaration.erased
  | .assignmentStatement assignment => .assignmentStatement assignment.erased
  | .error node => .error node.erased

/-- What a class body abandons is no part of its structure. -/
def ClassBody.erased : ClassBody → ClassBody
  | .missing _ => .missing default
  | .written _ items _ =>
    .written default
      ((items.filterMap ClassItem.member?).map fun member => .member member.erased) none

def ClassDeclaration.erased (declaration : ClassDeclaration) : ClassDeclaration :=
  { keyword := default
    name := declaration.name.unplaced
    body := declaration.body.erased
    semicolon := none }

def Declaration.erased : Declaration → Declaration
  | .instanceDeclaration declaration => .instanceDeclaration declaration.erased
  | .prototypeDeclaration declaration => .prototypeDeclaration declaration.erased
  | .functionDeclaration declaration => .functionDeclaration declaration.erased
  | .variableDeclaration declaration => .variableDeclaration declaration.erased
  | .classDeclaration declaration => .classDeclaration declaration.erased
  | .error node => .error node.erased

/-- The structure of a program. -/
def Program.erased (program : Program) : List Declaration :=
  program.declarations.map Declaration.erased

/-- Expressions in a list are erased one by one, and the commas go. -/
theorem Expression.listErased_eq (items : List (Expression × Option Range)) :
    listErased items = (items.map fun item => item.1.erased).map (·, none) := by
  induction items with
  | nil => rfl
  | cons item rest ih => rw [listErased, ih]; rfl

/-- Statements are erased one by one. -/
theorem Statement.listErased_eq (statements : List Statement) :
    listErased statements = statements.map erased := by
  induction statements with
  | nil => rfl
  | cons statement rest ih => rw [listErased, ih, List.map_cons]

end ScriptTree
