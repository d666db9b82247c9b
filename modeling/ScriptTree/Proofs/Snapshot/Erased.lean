import ScriptTree.Proofs.Node.Terminators
import ScriptTree.Proofs.Syntax.Erased

/-!
# The snapshot of a structure

A snapshot without ranges shows nothing that is erased from a program to get at its
structure.  Of the tokens that an error skips it shows how many there are.
-/

namespace ScriptTree

open Snapshot

/-- Where a leaf stands is not shown. -/
theorem Snapshot.viewUnder_leaf (field : Option Field) (content : Content) (first second : Range) :
    viewUnder field (.leaf content first) = viewUnder field (.leaf content second) :=
  rfl

/-! ## Expressions -/

@[simp]
theorem ErrorNode.viewUnder_erased (field : Option Field) (node : ErrorNode) :
    viewUnder field node.erased.assembly = viewUnder field node.assembly := by
  rcases node with ⟨_ | ⟨placed, rest⟩, range⟩
  · rfl
  · simp [viewUnder, erased, ofCount, assembly, ofNodeUnder, attributesOf, Node.isMissing,
      Node.isError, Node.tokens, Node.content, Node.kind, Content.kind]

@[simp]
theorem Identifier.viewUnder_unplaced (field : Option Field) (name : Identifier) :
    viewUnder field name.unplaced.assembly = viewUnder field name.assembly :=
  viewUnder_leaf ..

@[simp]
theorem TypeReference.viewUnder_unplaced (field : Option Field) (reference : TypeReference) :
    viewUnder field reference.unplaced.assembly = viewUnder field reference.assembly :=
  viewUnder_leaf ..

mutual

/-- An expression is viewed alike with its places and tokens erased. -/
@[simp]
theorem Expression.viewUnder_erased (field : Option Field) : (expression : Expression) →
    viewUnder field expression.erased.assembly = viewUnder field expression.assembly
  | .binary _ left _ right => by
    rw [Expression.erased, Expression.assembly, Expression.assembly]
    exact viewUnder_ofParts
      (by simp [Expression.viewUnder_erased _ left, Expression.viewUnder_erased _ right])
      nofun rfl rfl
  | .unary _ _ operand => by
    rw [Expression.erased, Expression.assembly, Expression.assembly]
    exact viewUnder_ofParts (by simp [Expression.viewUnder_erased _ operand]) nofun rfl rfl
  | .arrayAccess array _ index _ => by
    rw [Expression.erased, Expression.assembly, Expression.assembly]
    exact viewUnder_ofParts
      (by simp [Expression.viewUnder_erased _ array, Expression.viewUnder_erased _ index])
      nofun rfl rfl
  | .memberAccess object _ _ => by
    rw [Expression.erased, Expression.assembly, Expression.assembly]
    exact viewUnder_ofParts (by simp [Expression.viewUnder_erased _ object]) nofun rfl rfl
  | .call function opening items closing => by
    rw [Expression.erased, Expression.assembly, Expression.assembly]
    refine viewUnder_ofParts ?_ nofun rfl rfl
    -- The argument list is a node of its own, which is one level further down.
    change [_, _] = [_, _]
    rw [Expression.viewUnder_erased _ function]
    refine congrArg (fun list => [_, list]) ?_
    exact viewUnder_ofParts (by simp [Expression.views_listErased _ items]) nofun rfl rfl
  | .parenthesized _ inner _ => by
    rw [Expression.erased, Expression.assembly, Expression.assembly]
    exact viewUnder_ofParts (by simp [Expression.viewUnder_erased _ inner]) nofun rfl rfl
  | .boolean _ | .number _ | .string _ | .identifier _ => viewUnder_leaf ..
  | .arrayInitializer _ items gap _ => by
    rw [Expression.erased, Expression.assembly, Expression.assembly]
    exact viewUnder_ofParts
      (by cases gap <;> simp [Expression.views_listErased _ items]) nofun rfl rfl
  | .error node => node.viewUnder_erased field

theorem Expression.views_listErased (field : Field) : (items : List (Expression × Option Range)) →
    views (Expression.listParts field (Expression.listErased items)) =
      views (Expression.listParts field items)
  | [] => rfl
  | (expression, _) :: rest => by
    simp [Expression.listParts, Expression.viewUnder_erased (some field) expression,
      Expression.views_listErased field rest]

end

/-! ## Statements -/

@[simp]
theorem VariableDeclaration.viewUnder_erased (field : Option Field)
    (declaration : VariableDeclaration) :
    viewUnder field declaration.erased.assembly = viewUnder field declaration.assembly := by
  rcases declaration with ⟨kind, keyword, type, name, size, initializer, terminator⟩
  refine viewUnder_ofParts ?_ nofun rfl rfl
  cases size <;> cases initializer <;>
    simp [erased, sizeParts, initializerParts, ArraySize.erased, Initializer.erased]

@[simp]
theorem AssignmentStatement.viewUnder_erased (field : Option Field)
    (assignment : AssignmentStatement) :
    viewUnder field assignment.erased.assembly = viewUnder field assignment.assembly :=
  viewUnder_ofParts (by simp [erased]) nofun rfl rfl

@[simp]
theorem ExpressionStatement.viewUnder_erased (field : Option Field)
    (statement : ExpressionStatement) :
    viewUnder field statement.erased.assembly = viewUnder field statement.assembly :=
  viewUnder_ofParts (by simp [erased]) nofun rfl rfl

@[simp]
theorem ReturnStatement.viewUnder_erased (field : Option Field) (statement : ReturnStatement) :
    viewUnder field statement.erased.assembly = viewUnder field statement.assembly := by
  rcases statement with ⟨keyword, value, terminator⟩
  refine viewUnder_ofParts ?_ nofun rfl rfl
  cases value <;> simp [erased]

mutual

/-- A block is viewed alike with its places and tokens erased. -/
@[simp]
theorem Block.viewUnder_erased (field : Option Field) : (block : Block) →
    viewUnder field block.erased.assembly = viewUnder field block.assembly
  | .missing _ _ => viewUnder_leaf ..
  | .written _ statements _ => by
    rw [Block.erased, Block.assembly, Block.assembly]
    exact viewUnder_ofParts (by simp [Statement.views_listErased statements]) nofun rfl rfl

/-- A statement is viewed alike with its places and tokens erased. -/
@[simp]
theorem Statement.viewUnder_erased (field : Option Field) : (statement : Statement) →
    viewUnder field statement.erased.assembly = viewUnder field statement.assembly
  | .assignmentStatement _ | .expressionStatement _ | .returnStatement _
  | .variableDeclaration _ | .error _ => by simp [Statement.assembly]
  | .ifStatement _ _ consequence none => by
    rw [Statement.erased, Statement.assembly, Statement.assembly]
    exact viewUnder_ofParts (by simp [consequence.views_erased]) nofun rfl rfl
  | .ifStatement _ _ consequence (some (_, alternative)) => by
    rw [Statement.erased, Statement.assembly, Statement.assembly]
    exact viewUnder_ofParts
      (by simp [Branch.alternativeParts, consequence.views_erased, alternative.views_erased])
      nofun rfl rfl
  | .block block => by simp [Statement.assembly, Block.viewUnder_erased field block]

/-- A branch shows the same nodes when it is erased, with the semicolon behind it or without. -/
theorem Branch.views_erased (field : Field) : (branch : Branch) →
    views (branch.erased.parts field) = views (branch.parts field)
  | .missing _ => rfl
  | .written statement _ => by
    simp [Branch.parts, Statement.viewUnder_erased (some field) statement]

theorem Statement.views_listErased : (statements : List Statement) →
    views (Statement.listParts (Statement.listErased statements)) =
      views (Statement.listParts statements)
  | [] => rfl
  | statement :: rest => by
    simp [Statement.listParts, Statement.viewUnder_erased (some .statements) statement,
      Statement.views_listErased rest]

end

/-! ## Declarations and programs -/

theorem InstanceDeclaration.viewUnder_erased (field : Option Field)
    (declaration : InstanceDeclaration) :
    viewUnder field declaration.erased.assembly = viewUnder field declaration.assembly := by
  rcases declaration with ⟨keyword, name, parent, body, semicolon⟩
  refine viewUnder_ofParts ?_ nofun rfl rfl
  cases parent <;> cases body <;> simp [erased, parentParts, ParentClause.erased]

theorem PrototypeDeclaration.viewUnder_erased (field : Option Field)
    (declaration : PrototypeDeclaration) :
    viewUnder field declaration.erased.assembly = viewUnder field declaration.assembly :=
  viewUnder_ofParts (by simp [erased]) nofun rfl rfl

@[simp]
theorem Parameter.viewUnder_unplaced (field : Option Field) (parameter : Parameter) :
    viewUnder field parameter.unplaced.assembly = viewUnder field parameter.assembly := by
  rcases parameter with ⟨_ | _, type, name⟩ <;>
    exact viewUnder_ofParts (by simp [unplaced, qualifierParts]) nofun rfl rfl

theorem ParameterList.views_unplaced (parameters : List (Parameter × Option Range)) :
    views (parts (parameters.map fun parameter => (parameter.1.unplaced, none))) =
      views (parts parameters) := by
  induction parameters with
  | nil => rfl
  | cons parameter rest ih => simp [parts, ih]

/-- A parameter list is viewed alike with its places and tokens erased. -/
@[simp]
theorem ParameterList.viewUnder_erased (field : Option Field) (parameters : ParameterList) :
    viewUnder field parameters.erased.assembly = viewUnder field parameters.assembly := by
  cases parameters with
  | missing => exact viewUnder_leaf ..
  | written opening parameters closing =>
    rw [erased, assembly, assembly]
    exact viewUnder_ofParts (by simp [views_unplaced]) (by rintro ⟨⟩) rfl rfl

theorem FunctionDeclaration.viewUnder_erased (field : Option Field)
    (declaration : FunctionDeclaration) :
    viewUnder field declaration.erased.assembly = viewUnder field declaration.assembly :=
  viewUnder_ofParts (by simp [erased]) nofun rfl rfl

@[simp]
theorem ClassMember.viewUnder_erased (field : Option Field) (member : ClassMember) :
    viewUnder field member.erased.assembly = viewUnder field member.assembly := by
  cases member <;> simp [erased, assembly]

/-- What a class body abandons is not shown. -/
theorem ClassBody.views_erased (items : List ClassItem) :
    views (((items.filterMap ClassItem.member?).map fun member =>
      ClassItem.member member.erased).map ClassItem.part) = views (items.map ClassItem.part) := by
  induction items with
  | nil => rfl
  | cons item rest ih =>
    cases item with
    | member content => simpa [ClassItem.member?, ClassItem.part] using ih
    | abandoned => exact ih

/-- A class body is viewed alike with its places and tokens erased. -/
@[simp]
theorem ClassBody.viewUnder_erased (field : Option Field) (body : ClassBody) :
    viewUnder field body.erased.assembly = viewUnder field body.assembly := by
  cases body with
  | missing => exact viewUnder_leaf ..
  | written opening items closing =>
    rw [erased, assembly, assembly]
    exact viewUnder_ofParts (by simp [views_erased, -List.map_map]) (by rintro ⟨⟩) rfl rfl

theorem ClassDeclaration.viewUnder_erased (field : Option Field)
    (declaration : ClassDeclaration) :
    viewUnder field declaration.erased.assembly = viewUnder field declaration.assembly :=
  viewUnder_ofParts (by simp [erased]) nofun rfl rfl

/-- A declaration is viewed alike with its places and tokens erased. -/
theorem Declaration.viewUnder_erased (field : Option Field) (declaration : Declaration) :
    viewUnder field declaration.erased.assembly = viewUnder field declaration.assembly := by
  cases declaration <;>
    simp [erased, assembly, InstanceDeclaration.viewUnder_erased,
      PrototypeDeclaration.viewUnder_erased, FunctionDeclaration.viewUnder_erased,
      ClassDeclaration.viewUnder_erased]

/-- The snapshot of a program is that of its structure, wherever its range is. -/
theorem Program.snapshot_erased (program : Program) (range : Range) :
    ofNode false (Program.mk program.erased range).toNode = ofNode false program.toNode :=
  program.snapshot_map Declaration.viewUnder_erased range

end ScriptTree
