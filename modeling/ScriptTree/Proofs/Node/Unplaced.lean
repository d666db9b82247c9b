import ScriptTree.Proofs.Syntax.Unplaced
import ScriptTree.Snapshot

/-!
# Snapshots without ranges

A node has its ranges from the parts of the tree that it is assembled from, and
nothing else.  So trees that are the same places apart are assembled to nodes
that are the same ranges apart, and a snapshot without ranges cannot tell them
from each other.
-/

namespace ScriptTree

/-- A token without its place. -/
def PlacedToken.unplaced (placed : PlacedToken) : PlacedToken :=
  ⟨placed.token, default⟩

namespace Node

mutual

/-- A node with every range replaced by one and the same. -/
def unplaced : Node → Node
  | .mk content _ tokens children =>
    .mk content default (tokens.map PlacedToken.unplaced) (forestUnplaced children)

/-- The children of a node, without places. -/
def forestUnplaced : List (Field × Node) → List (Field × Node)
  | [] => []
  | (field, child) :: rest => (field, child.unplaced) :: forestUnplaced rest

end

@[simp]
theorem forestUnplaced_nil : forestUnplaced [] = [] :=
  rfl

@[simp]
theorem forestUnplaced_cons (field : Field) (child : Node) (rest : List (Field × Node)) :
    forestUnplaced ((field, child) :: rest) = (field, child.unplaced) :: forestUnplaced rest :=
  rfl

/-- Each child loses its places and keeps its field. -/
theorem forestUnplaced_eq_map (children : List (Field × Node)) :
    forestUnplaced children = children.map fun child => (child.1, child.2.unplaced) := by
  induction children with
  | nil => rfl
  | cons child rest ih => rw [forestUnplaced_cons, ih, List.map_cons]

theorem isEmpty_forestUnplaced (children : List (Field × Node)) :
    (forestUnplaced children).isEmpty = children.isEmpty := by
  cases children <;> rfl

end Node

/-! ## Snapshots -/

namespace Snapshot

/-- Attributes without ranges do not depend on places. -/
theorem attributesOf_unplaced (node : Node) :
    attributesOf false node.unplaced = attributesOf false node := by
  rcases node with ⟨content, range, tokens, children⟩
  have missing : (Node.mk content range tokens children).unplaced.isMissing =
      (Node.mk content range tokens children).isMissing := by
    cases content <;>
      simp [Node.unplaced, Node.isMissing, Node.content, Node.tokens, Node.fields,
        Node.isEmpty_forestUnplaced]
  have tokensLeft : (Node.mk content range tokens children).unplaced.tokens =
      tokens.map PlacedToken.unplaced := rfl
  rw [attributesOf, attributesOf, missing, tokensLeft, List.isEmpty_map, List.length_map]
  rfl

mutual

/-- A snapshot without ranges does not depend on places. -/
theorem ofNodeUnder_unplaced (field : Option Field) :
    (node : Node) → ofNodeUnder false field node.unplaced = ofNodeUnder false field node
  | .mk content range tokens children => by
    have attributes := attributesOf_unplaced (.mk content range tokens children)
    rw [Node.unplaced] at attributes
    rw [Node.unplaced, ofNodeUnder, ofNodeUnder, attributes, ofForest_unplaced children]

theorem ofForest_unplaced :
    (children : List (Field × Node)) →
      ofForest false (Node.forestUnplaced children) = ofForest false children
  | [] => rfl
  | (field, child) :: rest => by
    rw [Node.forestUnplaced, ofForest, ofForest, ofNodeUnder_unplaced (some field) child,
      ofForest_unplaced rest]

end

/-- Without ranges, nodes that are the same ranges apart have one snapshot. -/
theorem ofNode_congr {first second : Node} (same : first.unplaced = second.unplaced) :
    ofNode false first = ofNode false second := by
  rw [ofNode, ofNode, ← ofNodeUnder_unplaced, same, ofNodeUnder_unplaced]

end Snapshot

/-! ## Parts -/

namespace Part

/-- The tokens that parts give to a node, without places. -/
abbrev ownTokens (parts : List Part) : List PlacedToken :=
  parts.flatMap (contribute (fun placed => [placed.unplaced]) fun _ _ => [])

/-- The children that parts give to a node, without places. -/
abbrev ownChildren (parts : List Part) : List (Field × Node) :=
  parts.flatMap (contribute (fun _ => []) fun field assembly => [(field, assembly.node.unplaced)])

/-- Whether a token is there does not depend on where it is. -/
@[simp]
theorem length_toList_unplaced? (place : Option Range) :
    (unplaced? place).toList.length = place.toList.length := by
  cases place <;> rfl

/-- What a list takes from an optional place is only that it is there. -/
@[simp]
theorem map_toList_unplaced? {α : Type} (here : α) (place : Option Range) :
    ((unplaced? place).toList.map fun _ => here) = place.toList.map fun _ => here := by
  rw [List.map_const', length_toList_unplaced?, ← List.map_const']

end Part

/-- Without places a node has the tokens and children of its parts, without theirs. -/
@[simp]
theorem Assembly.unplaced_ofParts (content : Content) (parts : List Part) :
    (ofParts content parts).node.unplaced =
      .mk content default (Part.ownTokens parts) (Part.ownChildren parts) := by
  rw [Part.ownTokens, ← Part.map_filterMap_token?, Part.ownChildren,
    ← Part.map_filterMap_child? fun entry => (entry.1, entry.2.unplaced),
    ← Node.forestUnplaced_eq_map]
  rfl

/-- Without places a leaf is its content. -/
@[simp]
theorem Assembly.unplaced_leaf (content : Content) (range : Range) :
    (leaf content range).node.unplaced = .mk content default [] [] :=
  rfl

@[simp]
theorem PlacedToken.unplaced_mk (token : Token) (range : Range) :
    (PlacedToken.mk token range).unplaced = ⟨token, default⟩ :=
  rfl

/-! ## Expressions -/

@[simp]
theorem Identifier.unplaced_assembly (identifier : Identifier) :
    identifier.unplaced.assembly.node.unplaced = identifier.assembly.node.unplaced :=
  rfl

@[simp]
theorem TypeReference.unplaced_assembly (reference : TypeReference) :
    reference.unplaced.assembly.node.unplaced = reference.assembly.node.unplaced :=
  rfl

@[simp]
theorem ErrorNode.unplaced_assembly (node : ErrorNode) :
    node.unplaced.assembly.node.unplaced = node.assembly.node.unplaced := by
  simp [ErrorNode.unplaced, ErrorNode.assembly, Node.unplaced, PlacedToken.unplaced]

namespace Expression

mutual

/-- The node of an expression without places is its node without places, up to its own range. -/
@[simp]
theorem unplaced_assembly :
    (expression : Expression) →
      expression.unplaced.assembly.node.unplaced = expression.assembly.node.unplaced
  | .binary _ left _ right => by
    simp [assembly, unplaced_assembly left, unplaced_assembly right]
  | .unary _ _ operand => by simp [assembly, unplaced_assembly operand]
  | .arrayAccess array _ index _ => by
    simp [assembly, unplaced_assembly array, unplaced_assembly index]
  | .memberAccess object _ _ => by simp [assembly, unplaced_assembly object]
  | .call function _ arguments _ => by
    simp [assembly, unplaced_assembly function, ownTokens_listParts, ownChildren_listParts]
  | .parenthesized _ inner _ => by simp [assembly, unplaced_assembly inner]
  | .boolean _ | .number _ | .string _ => rfl
  | .identifier name => by simp [assembly]
  | .arrayInitializer _ elements gap _ => by
    cases gap <;> simp [assembly, ownTokens_listParts, ownChildren_listParts]
  | .error node => by simp [assembly]

theorem ownTokens_listParts (field : Field) :
    (items : List (Expression × Option Range)) →
      Part.ownTokens (listParts field (listUnplaced items)) =
        Part.ownTokens (listParts field items)
  | [] => rfl
  | (expression, comma) :: rest => by simp [listParts, ownTokens_listParts field rest]

theorem ownChildren_listParts (field : Field) :
    (items : List (Expression × Option Range)) →
      Part.ownChildren (listParts field (listUnplaced items)) =
        Part.ownChildren (listParts field items)
  | [] => rfl
  | (expression, comma) :: rest => by
    simp [listParts, unplaced_assembly expression, ownChildren_listParts field rest]

end

end Expression

/-! ## Statements -/

@[simp]
theorem VariableDeclaration.unplaced_assembly (declaration : VariableDeclaration) :
    declaration.unplaced.assembly.node.unplaced = declaration.assembly.node.unplaced := by
  rcases declaration with ⟨kind, keyword, type, name, size, initializer, terminator⟩
  cases size <;> cases initializer <;>
    simp [unplaced, assembly, sizeParts, initializerParts, ArraySize.unplaced,
      Initializer.unplaced]

@[simp]
theorem AssignmentStatement.unplaced_assembly (assignment : AssignmentStatement) :
    assignment.unplaced.assembly.node.unplaced = assignment.assembly.node.unplaced := by
  simp [unplaced, assembly]

@[simp]
theorem ExpressionStatement.unplaced_assembly (statement : ExpressionStatement) :
    statement.unplaced.assembly.node.unplaced = statement.assembly.node.unplaced := by
  simp [unplaced, assembly]

@[simp]
theorem ReturnStatement.unplaced_assembly (statement : ReturnStatement) :
    statement.unplaced.assembly.node.unplaced = statement.assembly.node.unplaced := by
  rcases statement with ⟨keyword, value, terminator⟩
  cases value <;> simp [unplaced, assembly]

mutual

@[simp]
theorem Block.unplaced_assembly :
    (block : Block) → block.unplaced.assembly.node.unplaced = block.assembly.node.unplaced
  | .missing _ _ => rfl
  | .written _ statements _ => by
    simp [Block.assembly, Statement.ownTokens_listParts statements,
      Statement.ownChildren_listParts statements]

/-- A statement comes to the same node wherever its parts are placed. -/
@[simp]
theorem Statement.unplaced_assembly :
    (statement : Statement) →
      statement.unplaced.assembly.node.unplaced = statement.assembly.node.unplaced
  | .assignmentStatement _ | .expressionStatement _ | .returnStatement _
  | .variableDeclaration _ | .error _ => by simp [Statement.assembly]
  | .ifStatement _ _ consequence none => by
    simp [Statement.assembly, Branch.alternativeParts, consequence.ownTokens_parts,
      consequence.ownChildren_parts]
  | .ifStatement _ _ consequence (some (_, alternative)) => by
    simp [Statement.assembly, Branch.alternativeParts, consequence.ownTokens_parts,
      consequence.ownChildren_parts, alternative.ownTokens_parts, alternative.ownChildren_parts]
  | .block block => by simp [Statement.assembly, Block.unplaced_assembly block]

theorem Branch.ownTokens_parts (field : Field) :
    (branch : Branch) →
      Part.ownTokens (branch.unplaced.parts field) = Part.ownTokens (branch.parts field)
  | .missing _ => rfl
  | .written _ _ => by simp [Branch.parts]

theorem Branch.ownChildren_parts (field : Field) :
    (branch : Branch) →
      Part.ownChildren (branch.unplaced.parts field) = Part.ownChildren (branch.parts field)
  | .missing _ => rfl
  | .written statement _ => by simp [Branch.parts, Statement.unplaced_assembly statement]

theorem Statement.ownTokens_listParts :
    (statements : List Statement) →
      Part.ownTokens (Statement.listParts (Statement.listUnplaced statements)) =
        Part.ownTokens (Statement.listParts statements)
  | [] => rfl
  | _ :: rest => by simp [Statement.listParts, Statement.ownTokens_listParts rest]

theorem Statement.ownChildren_listParts :
    (statements : List Statement) →
      Part.ownChildren (Statement.listParts (Statement.listUnplaced statements)) =
        Part.ownChildren (Statement.listParts statements)
  | [] => rfl
  | statement :: rest => by
    simp [Statement.listParts, Statement.unplaced_assembly statement,
      Statement.ownChildren_listParts rest]

end

/-! ## Declarations -/

@[simp]
theorem InstanceDeclaration.unplaced_assembly (declaration : InstanceDeclaration) :
    declaration.unplaced.assembly.node.unplaced = declaration.assembly.node.unplaced := by
  rcases declaration with ⟨keyword, name, parent, body, semicolon⟩
  cases parent <;> cases body <;>
    simp [unplaced, assembly, parentParts, ParentClause.unplaced]

@[simp]
theorem PrototypeDeclaration.unplaced_assembly (declaration : PrototypeDeclaration) :
    declaration.unplaced.assembly.node.unplaced = declaration.assembly.node.unplaced := by
  simp [unplaced, assembly]

@[simp]
theorem Parameter.unplaced_assembly (parameter : Parameter) :
    parameter.unplaced.assembly.node.unplaced = parameter.assembly.node.unplaced := by
  rcases parameter with ⟨qualifier, type, name⟩
  cases qualifier <;> simp [unplaced, assembly, qualifierParts]

namespace ParameterList

theorem ownTokens_parts (items : List (Parameter × Option Range)) :
    Part.ownTokens (parts (unplacedItems Parameter.unplaced items)) =
      Part.ownTokens (parts items) := by
  induction items with
  | nil => rfl
  | cons item rest ih =>
    rw [unplacedItems] at ih ⊢
    simpa [parts] using ih

theorem ownChildren_parts (items : List (Parameter × Option Range)) :
    Part.ownChildren (parts (unplacedItems Parameter.unplaced items)) =
      Part.ownChildren (parts items) := by
  induction items with
  | nil => rfl
  | cons item rest ih =>
    rw [unplacedItems] at ih ⊢
    simpa [parts] using ih

@[simp]
theorem unplaced_assembly (parameters : ParameterList) :
    parameters.unplaced.assembly.node.unplaced = parameters.assembly.node.unplaced := by
  cases parameters with
  | missing => rfl
  | written => simp [unplaced, assembly, ownTokens_parts, ownChildren_parts]

end ParameterList

@[simp]
theorem FunctionDeclaration.unplaced_assembly (declaration : FunctionDeclaration) :
    declaration.unplaced.assembly.node.unplaced = declaration.assembly.node.unplaced := by
  simp [unplaced, assembly]

@[simp]
theorem ClassMember.unplaced_assembly (member : ClassMember) :
    member.unplaced.assembly.node.unplaced = member.assembly.node.unplaced := by
  cases member <;> simp [unplaced, assembly]

namespace ClassBody

theorem ownTokens_parts (items : List ClassItem) :
    Part.ownTokens ((items.map ClassItem.unplaced).map ClassItem.part) =
      Part.ownTokens (items.map ClassItem.part) := by
  induction items with
  | nil => rfl
  | cons item rest ih => cases item <;> simpa [ClassItem.unplaced, ClassItem.part] using ih

theorem ownChildren_parts (items : List ClassItem) :
    Part.ownChildren ((items.map ClassItem.unplaced).map ClassItem.part) =
      Part.ownChildren (items.map ClassItem.part) := by
  induction items with
  | nil => rfl
  | cons item rest ih => cases item <;> simpa [ClassItem.unplaced, ClassItem.part] using ih

@[simp]
theorem unplaced_assembly (body : ClassBody) :
    body.unplaced.assembly.node.unplaced = body.assembly.node.unplaced := by
  cases body with
  | missing => rfl
  | written opening items closing =>
    rw [unplaced, assembly, assembly]
    simp [ownTokens_parts, ownChildren_parts, -List.map_map]

end ClassBody

@[simp]
theorem ClassDeclaration.unplaced_assembly (declaration : ClassDeclaration) :
    declaration.unplaced.assembly.node.unplaced = declaration.assembly.node.unplaced := by
  simp [unplaced, assembly]

namespace Declaration

/-- A declaration comes to the same node wherever its parts are placed. -/
theorem unplaced_toNode (declaration : Declaration) :
    declaration.unplaced.toNode.unplaced = declaration.toNode.unplaced := by
  rw [toNode, toNode]
  cases declaration <;> simp [unplaced, assembly]

/-- Declarations that are the same places apart have one snapshot. -/
theorem snapshot_congr {first second : Declaration} (same : first.unplaced = second.unplaced) :
    Snapshot.ofNode false first.toNode = Snapshot.ofNode false second.toNode := by
  apply Snapshot.ofNode_congr
  rw [← first.unplaced_toNode, same, second.unplaced_toNode]

end Declaration

end ScriptTree
