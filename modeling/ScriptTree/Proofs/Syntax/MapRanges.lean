import ScriptTree.Syntax.Program

/-!
# Trees in other places

A tree is moved by moving each range in it.  What stands in the tree stays the
same: its names, its operators, and what is absent.
-/

namespace ScriptTree

def PlacedToken.mapRanges (move : Range → Range) (placed : PlacedToken) : PlacedToken :=
  ⟨placed.token, move placed.range⟩

def Identifier.mapRanges (move : Range → Range) (identifier : Identifier) : Identifier :=
  ⟨identifier.name, move identifier.range⟩

def TypeReference.mapRanges (move : Range → Range) (reference : TypeReference) : TypeReference :=
  ⟨reference.type, move reference.range⟩

def ErrorNode.mapRanges (move : Range → Range) (node : ErrorNode) : ErrorNode :=
  ⟨node.skipped.map (PlacedToken.mapRanges move), move node.range⟩

namespace Expression

mutual

/-- An expression in another place. -/
@[simp]
def mapRanges (move : Range → Range) : Expression → Expression
  | .binary operator left sign right =>
    .binary operator (left.mapRanges move) (move sign) (right.mapRanges move)
  | .unary operator sign operand => .unary operator (move sign) (operand.mapRanges move)
  | .arrayAccess array opening index closing =>
    .arrayAccess (array.mapRanges move) (move opening) (index.mapRanges move) (closing.map move)
  | .memberAccess object dot member =>
    .memberAccess (object.mapRanges move) (move dot) (member.mapRanges move)
  | .call function opening arguments closing =>
    .call (function.mapRanges move) (move opening) (listMapRanges move arguments)
      (closing.map move)
  | .parenthesized opening inner closing =>
    .parenthesized (move opening) (inner.mapRanges move) (closing.map move)
  | .boolean literal => .boolean ⟨literal.value, move literal.range⟩
  | .number literal => .number ⟨literal.text, move literal.range⟩
  | .string literal => .string ⟨literal.raw, move literal.range⟩
  | .identifier name => .identifier (name.mapRanges move)
  | .arrayInitializer opening elements gap closing =>
    .arrayInitializer (move opening) (listMapRanges move elements) (gap.map move)
      (closing.map move)
  | .error node => .error (node.mapRanges move)

@[simp]
def listMapRanges (move : Range → Range) :
    List (Expression × Option Range) → List (Expression × Option Range)
  | [] => []
  | (expression, comma) :: rest =>
    (expression.mapRanges move, comma.map move) :: listMapRanges move rest

end

end Expression

def ArraySize.mapRanges (move : Range → Range) (size : ArraySize) : ArraySize :=
  ⟨move size.opening, size.size.mapRanges move, size.closing.map move⟩

def Initializer.mapRanges (move : Range → Range) (initializer : Initializer) : Initializer :=
  ⟨move initializer.sign, initializer.value.mapRanges move⟩

def VariableDeclaration.mapRanges (move : Range → Range) (declaration : VariableDeclaration) :
    VariableDeclaration :=
  { kind := declaration.kind
    keyword := move declaration.keyword
    type := declaration.type.mapRanges move
    name := declaration.name.mapRanges move
    size := declaration.size.map (ArraySize.mapRanges move)
    initializer := declaration.initializer.map (Initializer.mapRanges move)
    terminator := declaration.terminator.map move }

def AssignmentStatement.mapRanges (move : Range → Range) (assignment : AssignmentStatement) :
    AssignmentStatement :=
  { left := assignment.left.mapRanges move
    operator := assignment.operator
    sign := assignment.sign.map move
    right := assignment.right.mapRanges move
    terminator := assignment.terminator.map move }

def ExpressionStatement.mapRanges (move : Range → Range) (statement : ExpressionStatement) :
    ExpressionStatement :=
  ⟨statement.expression.mapRanges move, statement.terminator.map move⟩

def ReturnStatement.mapRanges (move : Range → Range) (statement : ReturnStatement) :
    ReturnStatement :=
  ⟨move statement.keyword, statement.value.map (Expression.mapRanges move),
    statement.terminator.map move⟩

mutual

/-- A block in another place. -/
@[simp]
def Block.mapRanges (move : Range → Range) : Block → Block
  | .missing anchor wasSought => .missing (move anchor) wasSought
  | .written opening statements closing =>
    .written (move opening) (Statement.listMapRanges move statements) (closing.map move)

/-- A statement in another place. -/
@[simp]
def Statement.mapRanges (move : Range → Range) : Statement → Statement
  | .assignmentStatement assignment => .assignmentStatement (assignment.mapRanges move)
  | .expressionStatement statement => .expressionStatement (statement.mapRanges move)
  | .ifStatement keyword condition consequence none =>
    .ifStatement (move keyword) (condition.mapRanges move) (consequence.mapRanges move) none
  | .ifStatement keyword condition consequence (some (elseKeyword, alternative)) =>
    .ifStatement (move keyword) (condition.mapRanges move) (consequence.mapRanges move)
      (some (move elseKeyword, alternative.mapRanges move))
  | .returnStatement statement => .returnStatement (statement.mapRanges move)
  | .variableDeclaration declaration => .variableDeclaration (declaration.mapRanges move)
  | .block block => .block (block.mapRanges move)
  | .error node => .error (node.mapRanges move)

@[simp]
def Branch.mapRanges (move : Range → Range) : Branch → Branch
  | .missing anchor => .missing (move anchor)
  | .written statement semicolon =>
    .written (statement.mapRanges move) (semicolon.map move)

@[simp]
def Statement.listMapRanges (move : Range → Range) : List Statement → List Statement
  | [] => []
  | statement :: rest => statement.mapRanges move :: Statement.listMapRanges move rest

end

def ParentClause.mapRanges (move : Range → Range) (parent : ParentClause) : ParentClause :=
  ⟨move parent.opening, parent.name.mapRanges move, parent.closing.map move⟩

def InstanceDeclaration.mapRanges (move : Range → Range) (declaration : InstanceDeclaration) :
    InstanceDeclaration :=
  { keyword := move declaration.keyword
    name := declaration.name.mapRanges move
    parent := declaration.parent.map (ParentClause.mapRanges move)
    body := declaration.body.map (Block.mapRanges move)
    semicolon := declaration.semicolon.map move }

def PrototypeDeclaration.mapRanges (move : Range → Range) (declaration : PrototypeDeclaration) :
    PrototypeDeclaration :=
  { keyword := move declaration.keyword
    name := declaration.name.mapRanges move
    opening := declaration.opening.map move
    parent := declaration.parent.mapRanges move
    closing := declaration.closing.map move
    body := declaration.body.mapRanges move
    semicolon := declaration.semicolon.map move }

def Parameter.mapRanges (move : Range → Range) (parameter : Parameter) : Parameter :=
  { qualifier := parameter.qualifier.map fun qualifier => (qualifier.1, move qualifier.2)
    type := parameter.type.mapRanges move
    name := parameter.name.mapRanges move }

/-- Parameters in other places, each with the comma after it. -/
def Parameter.listMapRanges (move : Range → Range) :
    List (Parameter × Option Range) → List (Parameter × Option Range) :=
  List.map fun item => (item.1.mapRanges move, item.2.map move)

def ParameterList.mapRanges (move : Range → Range) : ParameterList → ParameterList
  | .missing anchor => .missing (move anchor)
  | .written opening parameters closing =>
    .written (move opening) (Parameter.listMapRanges move parameters) (closing.map move)

def FunctionDeclaration.mapRanges (move : Range → Range) (declaration : FunctionDeclaration) :
    FunctionDeclaration :=
  { keyword := move declaration.keyword
    returnType := declaration.returnType.mapRanges move
    name := declaration.name.mapRanges move
    parameters := declaration.parameters.mapRanges move
    body := declaration.body.mapRanges move
    semicolon := declaration.semicolon.map move }

def ClassMember.mapRanges (move : Range → Range) : ClassMember → ClassMember
  | .variableDeclaration declaration => .variableDeclaration (declaration.mapRanges move)
  | .assignmentStatement assignment => .assignmentStatement (assignment.mapRanges move)
  | .error node => .error (node.mapRanges move)

def ClassItem.mapRanges (move : Range → Range) : ClassItem → ClassItem
  | .member content => .member (content.mapRanges move)
  | .abandoned target => .abandoned (target.mapRanges move)

def ClassBody.mapRanges (move : Range → Range) : ClassBody → ClassBody
  | .missing anchor => .missing (move anchor)
  | .written opening items closing =>
    .written (move opening) (items.map (ClassItem.mapRanges move)) (closing.map move)

def ClassDeclaration.mapRanges (move : Range → Range) (declaration : ClassDeclaration) :
    ClassDeclaration :=
  { keyword := move declaration.keyword
    name := declaration.name.mapRanges move
    body := declaration.body.mapRanges move
    semicolon := declaration.semicolon.map move }

/-- A declaration in another place. -/
def Declaration.mapRanges (move : Range → Range) : Declaration → Declaration
  | .instanceDeclaration declaration => .instanceDeclaration (declaration.mapRanges move)
  | .prototypeDeclaration declaration => .prototypeDeclaration (declaration.mapRanges move)
  | .functionDeclaration declaration => .functionDeclaration (declaration.mapRanges move)
  | .variableDeclaration declaration => .variableDeclaration (declaration.mapRanges move)
  | .classDeclaration declaration => .classDeclaration (declaration.mapRanges move)
  | .error node => .error (node.mapRanges move)

variable {move : Range → Range}

/-! ## What does not depend on places -/

@[simp]
theorem Identifier.mapRanges_missing (anchor : Range) :
    (Identifier.missing anchor).mapRanges move = .missing (move anchor) :=
  rfl

@[simp]
theorem TypeReference.mapRanges_missing (anchor : Range) :
    (TypeReference.missing anchor).mapRanges move = .missing (move anchor) :=
  rfl

@[simp]
theorem Expression.mapRanges_missing (anchor : Range) :
    (Expression.missing anchor).mapRanges move = .missing (move anchor) :=
  rfl

/-- A moved expression is missing exactly if it was so before. -/
@[simp]
theorem Expression.isMissing_mapRanges (expression : Expression) :
    (expression.mapRanges move).isMissing = expression.isMissing := by
  cases expression with
  | error node =>
    rw [mapRanges, isMissing, isMissing, ErrorNode.isMissing, ErrorNode.isMissing,
      ErrorNode.mapRanges, List.isEmpty_map]
  | _ =>
    rw [mapRanges]
    rfl

@[simp]
theorem Block.isMissing_mapRanges (block : Block) :
    (block.mapRanges move).isMissing = block.isMissing := by
  cases block <;> simp [isMissing]

@[simp]
theorem ClassBody.isMissing_mapRanges (body : ClassBody) :
    (body.mapRanges move).isMissing = body.isMissing := by
  cases body <;> rfl

/-- Statements are moved one by one. -/
theorem Statement.listMapRanges_eq (statements : List Statement) :
    listMapRanges move statements = statements.map (mapRanges move) := by
  induction statements with
  | nil => rfl
  | cons statement rest ih => rw [listMapRanges, ih, List.map_cons]

/-! ## A move that moves nothing -/

@[simp]
theorem PlacedToken.mapRanges_id : mapRanges id = id :=
  rfl

@[simp]
theorem Identifier.mapRanges_id (identifier : Identifier) : identifier.mapRanges id = identifier :=
  rfl

@[simp]
theorem TypeReference.mapRanges_id (reference : TypeReference) :
    reference.mapRanges id = reference :=
  rfl

@[simp]
theorem ErrorNode.mapRanges_id (node : ErrorNode) : node.mapRanges id = node := by
  simp [mapRanges]

mutual

/-- An expression whose ranges stay is itself. -/
@[simp]
theorem Expression.mapRanges_id : (expression : Expression) → expression.mapRanges id = expression
  | .binary _ left _ right => by simp [left.mapRanges_id, right.mapRanges_id]
  | .unary _ _ operand => by simp [operand.mapRanges_id]
  | .arrayAccess array _ index _ => by simp [array.mapRanges_id, index.mapRanges_id]
  | .memberAccess object _ _ => by simp [object.mapRanges_id]
  | .call function _ arguments _ => by
    simp [function.mapRanges_id, Expression.listMapRanges_id arguments]
  | .parenthesized _ inner _ => by simp [inner.mapRanges_id]
  | .boolean _ | .number _ | .string _ => rfl
  | .identifier _ => rfl
  | .arrayInitializer _ elements _ _ => by simp [Expression.listMapRanges_id elements]
  | .error _ => by simp

@[simp]
theorem Expression.listMapRanges_id :
    (items : List (Expression × Option Range)) → listMapRanges id items = items
  | [] => rfl
  | (expression, _) :: rest => by
    simp [expression.mapRanges_id, Expression.listMapRanges_id rest]

end

@[simp]
theorem ArraySize.mapRanges_id (size : ArraySize) : size.mapRanges id = size := by
  simp [mapRanges]

@[simp]
theorem Initializer.mapRanges_id (initializer : Initializer) :
    initializer.mapRanges id = initializer := by
  simp [mapRanges]

@[simp]
theorem VariableDeclaration.mapRanges_id (declaration : VariableDeclaration) :
    declaration.mapRanges id = declaration := by
  simp [mapRanges, funext ArraySize.mapRanges_id,
    funext Initializer.mapRanges_id]

@[simp]
theorem AssignmentStatement.mapRanges_id (assignment : AssignmentStatement) :
    assignment.mapRanges id = assignment := by
  simp [mapRanges]

@[simp]
theorem ExpressionStatement.mapRanges_id (statement : ExpressionStatement) :
    statement.mapRanges id = statement := by
  simp [mapRanges]

@[simp]
theorem ReturnStatement.mapRanges_id (statement : ReturnStatement) :
    statement.mapRanges id = statement := by
  simp [mapRanges, funext Expression.mapRanges_id]

mutual

@[simp]
theorem Block.mapRanges_id : (block : Block) → block.mapRanges id = block
  | .missing _ _ => rfl
  | .written _ statements _ => by simp [Statement.listMapRanges_id statements]

/-- A statement whose ranges stay is itself. -/
@[simp]
theorem Statement.mapRanges_id : (statement : Statement) → statement.mapRanges id = statement
  | .assignmentStatement _ | .expressionStatement _ | .returnStatement _
  | .variableDeclaration _ | .error _ => by simp
  | .ifStatement _ _ consequence none => by simp [consequence.mapRanges_id]
  | .ifStatement _ _ consequence (some (_, alternative)) => by
    simp [consequence.mapRanges_id, alternative.mapRanges_id]
  | .block block => by simp [block.mapRanges_id]

@[simp]
theorem Branch.mapRanges_id : (branch : Branch) → branch.mapRanges id = branch
  | .missing _ => rfl
  | .written statement _ => by simp [statement.mapRanges_id]

@[simp]
theorem Statement.listMapRanges_id :
    (statements : List Statement) → Statement.listMapRanges id statements = statements
  | [] => rfl
  | statement :: rest => by simp [statement.mapRanges_id, Statement.listMapRanges_id rest]

end

@[simp]
theorem ParentClause.mapRanges_id (parent : ParentClause) : parent.mapRanges id = parent := by
  simp [mapRanges]

@[simp]
theorem InstanceDeclaration.mapRanges_id (declaration : InstanceDeclaration) :
    declaration.mapRanges id = declaration := by
  simp [mapRanges, funext ParentClause.mapRanges_id,
    funext Block.mapRanges_id]

@[simp]
theorem PrototypeDeclaration.mapRanges_id (declaration : PrototypeDeclaration) :
    declaration.mapRanges id = declaration := by
  simp [mapRanges]

@[simp]
theorem Parameter.mapRanges_id (parameter : Parameter) : parameter.mapRanges id = parameter := by
  simp [mapRanges]

@[simp]
theorem Parameter.listMapRanges_id (items : List (Parameter × Option Range)) :
    listMapRanges id items = items := by
  simp [listMapRanges]

@[simp]
theorem ParameterList.mapRanges_id (parameters : ParameterList) :
    parameters.mapRanges id = parameters := by
  cases parameters <;> simp [mapRanges]

@[simp]
theorem FunctionDeclaration.mapRanges_id (declaration : FunctionDeclaration) :
    declaration.mapRanges id = declaration := by
  simp [mapRanges]

@[simp]
theorem ClassMember.mapRanges_id (member : ClassMember) : member.mapRanges id = member := by
  cases member <;> simp [mapRanges]

@[simp]
theorem ClassItem.mapRanges_id (item : ClassItem) : item.mapRanges id = item := by
  cases item <;> simp [mapRanges]

@[simp]
theorem ClassBody.mapRanges_id (body : ClassBody) : body.mapRanges id = body := by
  cases body <;> simp [mapRanges, funext ClassItem.mapRanges_id]

@[simp]
theorem ClassDeclaration.mapRanges_id (declaration : ClassDeclaration) :
    declaration.mapRanges id = declaration := by
  simp [mapRanges]

/-- A declaration whose ranges stay is itself. -/
@[simp]
theorem Declaration.mapRanges_id (declaration : Declaration) :
    declaration.mapRanges id = declaration := by
  cases declaration <;> simp [mapRanges]

end ScriptTree
