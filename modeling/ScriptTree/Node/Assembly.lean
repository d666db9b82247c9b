import ScriptTree.Node
import ScriptTree.Node.Draft

/-!
# From the typed tree to the uniform tree

A node is assembled from its parts in source order: its own tokens and its
children.  Its range is the hull of its parts.  Assembling never fails; the
first overlap that it meets, going through the source from left to right, is
kept beside the node.
-/

namespace ScriptTree

/-- A node, with the first overlap met while it was put together. -/
structure Assembly where
  node : Node
  overlap : Option Overlap

/-- What a node is assembled from, in the order of the source. -/
inductive Part where
  | token (placed : PlacedToken)
  | child (field : Field) (assembly : Assembly)
  /-- A child that stands for something never looked for.  It marks where the parse gave up, and
  that place need not follow the parts before it. -/
  | standIn (field : Field) (assembly : Assembly)
  /-- The place of a child that was sought, not found, and left out. -/
  | gap (range : Range)
  /-- Something read at this place that is no part of the node. -/
  | abandoned (assembly : Assembly)

namespace Part

/-- The token at a place, if it is there. -/
def optional (token : Token) : Option Range → List Part
  | none => []
  | some range => [.token ⟨token, range⟩]

/-- The range by which a part must follow the parts before it. -/
def range? : Part → Option Range
  | .token placed => some placed.range
  | .child _ assembly => some assembly.node.range
  | .standIn _ _ => none
  | .gap range => some range
  | .abandoned _ => none

/-- The first overlap inside of a part. -/
def innerOverlap : Part → Option Overlap
  | .token _ => none
  | .child _ assembly => assembly.overlap
  | .standIn _ assembly => assembly.overlap
  | .gap _ => none
  | .abandoned assembly => assembly.overlap

/-- The token that a part gives to its node. -/
def token? : Part → Option PlacedToken
  | .token placed => some placed
  | _ => none

/-- The child that a part gives to its node. -/
def child? : Part → Option (Field × Node)
  | .child field assembly => some (field, assembly.node)
  | .standIn field assembly => some (field, assembly.node)
  | _ => none

section

variable {α : Type}

/-- What is made of a part that is a token of its node or a child; nothing is made of others. -/
def contribute (ofToken : PlacedToken → List α) (ofChild : Field → Assembly → List α) :
    Part → List α
  | .token placed => ofToken placed
  | .child field assembly | .standIn field assembly => ofChild field assembly
  | .gap _ | .abandoned _ => []

variable (ofToken : PlacedToken → List α) (ofChild : Field → Assembly → List α)

@[simp]
theorem contribute_token (placed : PlacedToken) :
    (token placed).contribute ofToken ofChild = ofToken placed :=
  rfl

@[simp]
theorem contribute_child (field : Field) (assembly : Assembly) :
    (child field assembly).contribute ofToken ofChild = ofChild field assembly :=
  rfl

@[simp]
theorem contribute_standIn (field : Field) (assembly : Assembly) :
    (standIn field assembly).contribute ofToken ofChild = ofChild field assembly :=
  rfl

@[simp]
theorem contribute_gap (range : Range) : (gap range).contribute ofToken ofChild = [] :=
  rfl

@[simp]
theorem contribute_abandoned (assembly : Assembly) :
    (abandoned assembly).contribute ofToken ofChild = [] :=
  rfl

/-- An optional token gives no children. -/
@[simp]
theorem flatMap_optional_children (token : Token) (place : Option Range) :
    (optional token place).flatMap (contribute (fun _ => []) ofChild) = [] := by
  cases place <;> rfl

/-- An optional token gives itself where it is written. -/
@[simp]
theorem flatMap_optional_tokens (make : PlacedToken → α) (token : Token) (place : Option Range) :
    (optional token place).flatMap (contribute (fun placed => [make placed]) ofChild) =
      place.toList.map fun range => make ⟨token, range⟩ := by
  cases place <;> rfl

/-- The tokens of a node, one part after the other. -/
theorem map_filterMap_token? (make : PlacedToken → α) (parts : List Part) :
    (parts.filterMap token?).map make =
      parts.flatMap (contribute (fun placed => [make placed]) fun _ _ => []) := by
  induction parts with
  | nil => rfl
  | cons part rest ih => cases part <;> simp [List.filterMap_cons, token?, ih]

/-- The children of a node, one part after the other. -/
theorem map_filterMap_child? (make : Field × Node → α) (parts : List Part) :
    (parts.filterMap child?).map make =
      parts.flatMap (contribute (fun _ => []) fun field assembly =>
        [make (field, assembly.node)]) := by
  induction parts with
  | nil => rfl
  | cons part rest ih => cases part <;> simp [List.filterMap_cons, child?, ih]

end

end Part

namespace Assembly

/-- The first overlap among parts that follow one that ends at `cursor`. -/
def overlapFrom (kind : NodeKind) (cursor : Nat) : List Part → Option Overlap
  | [] => none
  | part :: rest =>
    part.innerOverlap.or <|
      match part.range? with
      | none => overlapFrom kind cursor rest
      | some range =>
        if range.span.start < cursor then
          some ⟨kind, range.span.start, cursor⟩
        else
          overlapFrom kind range.span.stop rest

/-- Assemble a node from its parts. -/
def ofParts (content : Content) (parts : List Part) : Assembly where
  node :=
    .mk content (((Hull.ofRanges (parts.filterMap Part.range?)).range?).getD default)
      (parts.filterMap Part.token?) (parts.filterMap Part.child?)
  overlap := overlapFrom content.kind 0 parts

/-- A node that stands for one token, or for none. -/
def leaf (content : Content) (range : Range) : Assembly :=
  ⟨.mk content range [] [], none⟩

@[simp]
theorem content_ofParts (content : Content) (parts : List Part) :
    (ofParts content parts).node.content = content :=
  rfl

@[simp]
theorem tokens_ofParts (content : Content) (parts : List Part) :
    (ofParts content parts).node.tokens = parts.filterMap Part.token? :=
  rfl

@[simp]
theorem fields_ofParts (content : Content) (parts : List Part) :
    (ofParts content parts).node.fields = parts.filterMap Part.child? :=
  rfl

@[simp]
theorem node_leaf (content : Content) (range : Range) :
    (leaf content range).node = .mk content range [] [] :=
  rfl

end Assembly

/-- A name is a leaf.  Where it is missing, the leaf is empty. -/
def Identifier.assembly (identifier : Identifier) : Assembly :=
  .leaf (.identifier identifier.name) identifier.range

/-- A type is a leaf.  Where it is missing, the leaf is empty. -/
def TypeReference.assembly (reference : TypeReference) : Assembly :=
  .leaf (.type reference.type) reference.range

/-- An error node owns the tokens it skips, whatever their order. -/
def ErrorNode.assembly (node : ErrorNode) : Assembly :=
  ⟨.mk .error node.range node.skipped [], none⟩

namespace Expression

mutual

/-- The node of an expression, with the first overlap inside of it. -/
def assembly : Expression → Assembly
  | .binary operator left sign right =>
    .ofParts (.binaryExpression operator)
      [.child .left left.assembly, .token ⟨operator.token, sign⟩, .child .right right.assembly]
  | .unary operator sign operand =>
    .ofParts (.unaryExpression operator)
      [.token ⟨operator.token, sign⟩, .child .operand operand.assembly]
  | .arrayAccess array opening index closing =>
    .ofParts .arrayAccess
      ([.child .array array.assembly, .token ⟨.lBracket, opening⟩,
        .child .index index.assembly] ++ Part.optional .rBracket closing)
  | .memberAccess object dot member =>
    .ofParts .memberAccess
      [.child .object object.assembly, .token ⟨.dot, dot⟩, .child .member member.assembly]
  | .call function opening arguments closing =>
    .ofParts .callExpression
      [.child .function function.assembly,
        .child .arguments
          (.ofParts .argumentList
            (.token ⟨.lParen, opening⟩ ::
              (listParts .arguments arguments ++ Part.optional .rParen closing)))]
  | .parenthesized opening inner closing =>
    .ofParts .parenthesizedExpression
      ([.token ⟨.lParen, opening⟩, .child .expression inner.assembly] ++
        Part.optional .rParen closing)
  | .boolean literal => .leaf (.boolean literal.value) literal.range
  | .number literal => .leaf (.number literal.text) literal.range
  | .string literal => .leaf (.string literal.raw) literal.range
  | .identifier name => name.assembly
  | .arrayInitializer opening elements gap closing =>
    .ofParts .arrayInitializer
      (.token ⟨.lBrace, opening⟩ ::
        (listParts .elements elements ++ (gap.map Part.gap).toList ++
          Part.optional .rBrace closing))
  | .error node => node.assembly

/-- The parts of a list of expressions, each with the comma after it. -/
def listParts (field : Field) : List (Expression × Option Range) → List Part
  | [] => []
  | (expression, comma) :: rest =>
    .child field expression.assembly :: (Part.optional .comma comma ++ listParts field rest)

end

/-- The node of an expression. -/
def toNode (expression : Expression) : Node :=
  expression.assembly.node

/-- Where an expression is: the range of its node. -/
def range (expression : Expression) : Range :=
  expression.toNode.range

/-- The node of an expression can be assigned to if the expression can. -/
theorem isAssignable_kind_toNode (expression : Expression) :
    expression.toNode.kind.isAssignable = expression.isAssignable := by
  cases expression <;> rfl

end Expression

namespace VariableDeclaration

/-- The brackets of an array with the size between them. -/
def sizeParts : Option ArraySize → List Part
  | none => []
  | some size =>
    [.token ⟨.lBracket, size.opening⟩, .child .size size.size.assembly] ++
      Part.optional .rBracket size.closing

/-- The equals sign of an initial value with the value. -/
def initializerParts : Option Initializer → List Part
  | none => []
  | some initializer =>
    [.token ⟨.assign, initializer.sign⟩, .child .value initializer.value.assembly]

/-- The node of a variable: keyword, type and name, and then what the declaration has of the
rest. -/
def assembly (declaration : VariableDeclaration) : Assembly :=
  .ofParts (.variableDeclaration declaration.kind)
    ([.token ⟨declaration.kind.token, declaration.keyword⟩,
      .child .type declaration.type.assembly, .child .name declaration.name.assembly] ++
      sizeParts declaration.size ++ initializerParts declaration.initializer ++
      Part.optional .semicolon declaration.terminator)

/-- The node of a variable. -/
def toNode (declaration : VariableDeclaration) : Node :=
  declaration.assembly.node

end VariableDeclaration

namespace AssignmentStatement

/-- The node of an assignment: target, operator, value and semicolon. -/
def assembly (assignment : AssignmentStatement) : Assembly :=
  .ofParts (.assignmentStatement assignment.operator)
    (.child .left assignment.left.assembly ::
      (Part.optional assignment.operator.token assignment.sign ++
        .child .right assignment.right.assembly ::
          Part.optional .semicolon assignment.terminator))

/-- The node of an assignment. -/
def toNode (assignment : AssignmentStatement) : Node :=
  assignment.assembly.node

end AssignmentStatement

namespace ExpressionStatement

/-- The node of an expression that makes a statement. -/
def assembly (statement : ExpressionStatement) : Assembly :=
  .ofParts .expressionStatement
    (.child .expression statement.expression.assembly ::
      Part.optional .semicolon statement.terminator)

end ExpressionStatement

namespace ReturnStatement

/-- The node of a `return`, with the value if there is one. -/
def assembly (statement : ReturnStatement) : Assembly :=
  .ofParts .returnStatement
    (.token ⟨.kwReturn, statement.keyword⟩ ::
      ((statement.value.map fun value => Part.child .value value.assembly).toList ++
        Part.optional .semicolon statement.terminator))

end ReturnStatement

mutual

/-- The node of a block.  One that is missing is an empty leaf. -/
def Block.assembly : Block → Assembly
  | .missing anchor _ => .leaf .block anchor
  | .written opening statements closing =>
    .ofParts .block
      (.token ⟨.lBrace, opening⟩ ::
        (Statement.listParts statements ++ Part.optional .rBrace closing))

/-- The node of a statement.  A block is a statement without a node around it. -/
def Statement.assembly : Statement → Assembly
  | .assignmentStatement assignment => assignment.assembly
  | .expressionStatement statement => statement.assembly
  | .ifStatement keyword condition consequence otherwise =>
    .ofParts .ifStatement
      ([.token ⟨.kwIf, keyword⟩, .child .condition condition.assembly] ++
        consequence.parts .consequence ++ Branch.alternativeParts otherwise)
  | .returnStatement statement => statement.assembly
  | .variableDeclaration declaration => declaration.assembly
  | .block block => block.assembly
  | .error node => node.assembly

/-- A branch of an `if` under a field, with the semicolon after its block. -/
def Branch.parts (field : Field) : Branch → List Part
  | .missing anchor => [.standIn field (ErrorNode.missing anchor).assembly]
  | .written statement semicolon =>
    .child field statement.assembly :: Part.optional .semicolon semicolon

/-- The `else` with the branch after it. -/
def Branch.alternativeParts : Option (Range × Branch) → List Part
  | none => []
  | some (keyword, branch) => .token ⟨.kwElse, keyword⟩ :: branch.parts .alternative

/-- The statements of a block, each a child. -/
def Statement.listParts : List Statement → List Part
  | [] => []
  | statement :: rest => .child .statements statement.assembly :: Statement.listParts rest

end

/-- The node of a block. -/
def Block.toNode (block : Block) : Node :=
  block.assembly.node

/-- The body of a declaration. -/
def Block.part (block : Block) : Part :=
  match block with
  | .missing _ false => .standIn .body block.assembly
  | _ => .child .body block.assembly

/-- A missing body that was never sought gives a child like any other. -/
@[simp]
theorem Block.contribute_part {α : Type} (ofToken : PlacedToken → List α)
    (ofChild : Field → Assembly → List α) (block : Block) :
    block.part.contribute ofToken ofChild = ofChild .body block.assembly := by
  rcases block with ⟨anchor, _ | _⟩ | _ <;> rfl

/-- The node of a statement. -/
def Statement.toNode (statement : Statement) : Node :=
  statement.assembly.node

namespace InstanceDeclaration

/-- The parentheses after the name of an instance, with the parent between them. -/
def parentParts : Option ParentClause → List Part
  | none => []
  | some parent =>
    [.token ⟨.lParen, parent.opening⟩, .child .parent parent.name.assembly] ++
      Part.optional .rParen parent.closing

/-- The node of an instance.  A forward declaration has no body. -/
def assembly (declaration : InstanceDeclaration) : Assembly :=
  .ofParts .instanceDeclaration
    ([.token ⟨.kwInstance, declaration.keyword⟩, .child .name declaration.name.assembly] ++
      parentParts declaration.parent ++
      (declaration.body.map fun body => Part.child .body body.assembly).toList ++
      Part.optional .semicolon declaration.semicolon)

end InstanceDeclaration

namespace PrototypeDeclaration

/-- The node of a prototype: its parent stands between parentheses, and its body follows. -/
def assembly (declaration : PrototypeDeclaration) : Assembly :=
  .ofParts .prototypeDeclaration
    ([.token ⟨.kwPrototype, declaration.keyword⟩, .child .name declaration.name.assembly] ++
      Part.optional .lParen declaration.opening ++
      .child .parent declaration.parent.assembly ::
        (Part.optional .rParen declaration.closing ++
          declaration.body.part ::
            Part.optional .semicolon declaration.semicolon))

end PrototypeDeclaration

namespace Parameter

/-- The keyword in front of a parameter. -/
def qualifierParts : Option (VariableKind × Range) → List Part
  | none => []
  | some (kind, range) => [.token ⟨kind.token, range⟩]

/-- The node of a parameter: keyword, type and name. -/
def assembly (parameter : Parameter) : Assembly :=
  .ofParts (.parameter (parameter.qualifier.map (·.1)))
    (qualifierParts parameter.qualifier ++
      [.child .type parameter.type.assembly, .child .name parameter.name.assembly])

end Parameter

namespace ParameterList

/-- The parameters of a list, each with the comma after it. -/
def parts : List (Parameter × Option Range) → List Part
  | [] => []
  | (parameter, comma) :: rest =>
    .child .parameters parameter.assembly :: (Part.optional .comma comma ++ parts rest)

/-- The node of a parameter list.  One that is missing is an empty leaf. -/
def assembly : ParameterList → Assembly
  | .missing anchor => .leaf .parameterList anchor
  | .written opening parameters closing =>
    .ofParts .parameterList
      (.token ⟨.lParen, opening⟩ :: (parts parameters ++ Part.optional .rParen closing))

end ParameterList

namespace FunctionDeclaration

/-- The node of a function: keyword, result, name, parameters and body. -/
def assembly (declaration : FunctionDeclaration) : Assembly :=
  .ofParts .functionDeclaration
    ([.token ⟨.kwFunc, declaration.keyword⟩, .child .returnType declaration.returnType.assembly,
      .child .name declaration.name.assembly,
      .child .parameters declaration.parameters.assembly,
      declaration.body.part] ++
      Part.optional .semicolon declaration.semicolon)

end FunctionDeclaration

namespace ClassMember

/-- The node of a class member. -/
def assembly : ClassMember → Assembly
  | .variableDeclaration declaration => declaration.assembly
  | .assignmentStatement assignment => assignment.assembly
  | .error node => node.assembly

/-- The node of a class member. -/
def toNode (member : ClassMember) : Node :=
  member.assembly.node

end ClassMember

/-- What stands in the body of a class gives a member, unless it was abandoned. -/
def ClassItem.part : ClassItem → Part
  | .member content => .child .members content.assembly
  | .abandoned target => .abandoned target.assembly

/-- The node of the body of a class.  One that is missing is an empty leaf. -/
def ClassBody.assembly : ClassBody → Assembly
  | .missing anchor => .leaf .classBody anchor
  | .written opening items closing =>
    .ofParts .classBody
      (.token ⟨.lBrace, opening⟩ ::
        (items.map ClassItem.part ++ Part.optional .rBrace closing))

namespace ClassDeclaration

/-- The node of a class: keyword, name and body. -/
def assembly (declaration : ClassDeclaration) : Assembly :=
  .ofParts .classDeclaration
    ([.token ⟨.kwClass, declaration.keyword⟩, .child .name declaration.name.assembly,
      .child .body declaration.body.assembly] ++
      Part.optional .semicolon declaration.semicolon)

end ClassDeclaration

namespace Declaration

/-- The node of a declaration, whatever it declares. -/
def assembly : Declaration → Assembly
  | .instanceDeclaration declaration => declaration.assembly
  | .prototypeDeclaration declaration => declaration.assembly
  | .functionDeclaration declaration => declaration.assembly
  | .variableDeclaration declaration => declaration.assembly
  | .classDeclaration declaration => declaration.assembly
  | .error node => node.assembly

/-- The node of a declaration. -/
def toNode (declaration : Declaration) : Node :=
  declaration.assembly.node

/-- Where a declaration is: the range of its node. -/
def range (declaration : Declaration) : Range :=
  declaration.toNode.range

end Declaration

namespace Program

/-- The root covers the whole source, whatever its declarations cover. -/
def assembly (program : Program) : Assembly where
  node :=
    .mk .program program.range []
      (program.declarations.map fun declaration => (.declarations, declaration.toNode))
  overlap := program.declarations.findSome? fun declaration => declaration.assembly.overlap

/-- The root of the tree. -/
def toNode (program : Program) : Node :=
  program.assembly.node

end Program

end ScriptTree
