import ScriptTree.Proofs.Node.Parts

/-!
# The fields of a kind

Each kind of node has a schema, and the children of a node stand under fields of the
schema of its kind.  So under a node whose children are one list all of them stand
under the same field, which need not be named.
-/

namespace ScriptTree

/-- A kind whose children are one list has one field. -/
theorem NodeKind.head?_fields {kind : NodeKind} {field : Field} (list : kind.isList = true)
    (filed : field ∈ kind.fields) : kind.fields.head? = some field := by
  rcases (isList_iff kind).mp list with ⟨only, schema⟩
  rw [fields, schema, List.map_singleton, List.mem_singleton] at filed
  rw [fields, schema, filed]
  rfl

/-- The children of a node stand under fields of its kind. -/
def Node.IsFiled (node : Node) : Prop :=
  ∀ entry ∈ node.fields, entry.1 ∈ node.kind.fields

open Node

namespace Part

/-- The children among some parts stand under fields of a kind, and so do the children of every node
below. -/
def AreFiled (kind : NodeKind) (parts : List Part) : Prop :=
  (parts.flatMap (contribute (fun _ => []) fun field assembly => [(field, assembly.node)])).Forall
    fun entry => entry.1 ∈ kind.fields ∧ Every IsFiled [entry.2]

/-- What is asked of the parts holds of each child among them. -/
theorem AreFiled.of_child? {kind : NodeKind} {parts : List Part} (filed : AreFiled kind parts) :
    ∀ entry ∈ parts.filterMap child?, entry.1 ∈ kind.fields ∧ Every IsFiled [entry.2] := by
  have same : (parts.filterMap child?).map id = _ := map_filterMap_child? id parts
  rw [List.map_id] at same
  rw [same]
  exact List.forall_iff_forall_mem.mp filed

end Part

open ScriptTree.Part

/-- A node is filed throughout if its parts are. -/
theorem Assembly.every_isFiled_ofParts {content : Content} {parts : List Part}
    (filed : AreFiled content.kind parts) : Every IsFiled [(ofParts content parts).node] := by
  refine every_singleton.mpr ⟨fun entry member => (filed.of_child? entry member).1, ?_⟩
  refine every_of_forall fun node member => ?_
  rcases List.mem_map.mp member with ⟨entry, among, rfl⟩
  exact (filed.of_child? entry among).2

@[simp]
theorem Node.every_isFiled_leaf {content : Content} {range : Range} {tokens : List PlacedToken} :
    Every IsFiled [.mk content range tokens []] :=
  every_singleton.mpr ⟨List.forall_mem_nil _, every_nil⟩

/-! ## Each kind of node -/

@[simp]
theorem Identifier.every_isFiled (name : Identifier) : Every IsFiled [name.assembly.node] :=
  every_isFiled_leaf

@[simp]
theorem TypeReference.every_isFiled (reference : TypeReference) :
    Every IsFiled [reference.assembly.node] :=
  every_isFiled_leaf

@[simp]
theorem ErrorNode.every_isFiled (node : ErrorNode) : Every IsFiled [node.assembly.node] :=
  every_isFiled_leaf

section

attribute [local simp] Content.kind NodeKind.fields NodeKind.schema Part.AreFiled

namespace Expression

mutual

/-- The children in an expression stand under fields of their nodes. -/
theorem every_isFiled : (expression : Expression) → Every IsFiled [expression.assembly.node]
  | .binary _ left _ right => by
    rw [assembly]
    exact Assembly.every_isFiled_ofParts (by simp [left.every_isFiled, right.every_isFiled])
  | .unary _ _ operand => by
    rw [assembly]
    exact Assembly.every_isFiled_ofParts (by simp [operand.every_isFiled])
  | .arrayAccess array _ index _ => by
    rw [assembly]
    exact Assembly.every_isFiled_ofParts (by simp [array.every_isFiled, index.every_isFiled])
  | .memberAccess object _ _ => by
    rw [assembly]
    exact Assembly.every_isFiled_ofParts (by simp [object.every_isFiled])
  | .call function opening items closing => by
    have listed := areFiled_listParts .argumentList .arguments (by decide) items
    have arguments : Every IsFiled
        [(Assembly.ofParts .argumentList (.token ⟨.lParen, opening⟩ ::
          (listParts .arguments items ++ optional .rParen closing))).node] :=
      Assembly.every_isFiled_ofParts (by simpa using listed)
    rw [assembly]
    exact Assembly.every_isFiled_ofParts (by simp [function.every_isFiled, arguments])
  | .parenthesized _ inner _ => by
    rw [assembly]
    exact Assembly.every_isFiled_ofParts (by simp [inner.every_isFiled])
  | .boolean _ | .number _ | .string _ | .identifier _ | .error _ => every_isFiled_leaf
  | .arrayInitializer _ items sought _ => by
    have listed := areFiled_listParts .arrayInitializer .elements (by decide) items
    rw [assembly]
    refine Assembly.every_isFiled_ofParts ?_
    cases sought <;> simpa using listed

/-- Expressions in a list are filed under any field of the node they stand in. -/
theorem areFiled_listParts (kind : NodeKind) (field : Field) (filed : field ∈ kind.fields) :
    (items : List (Expression × Option Range)) → AreFiled kind (listParts field items)
  | [] => trivial
  | (expression, comma) :: rest => by
    have later := areFiled_listParts kind field filed rest
    simpa [listParts, filed, expression.every_isFiled, -NodeKind.fields] using later

end

end Expression

theorem VariableDeclaration.every_isFiled (declaration : VariableDeclaration) :
    Every IsFiled [declaration.assembly.node] := by
  rw [assembly]
  refine Assembly.every_isFiled_ofParts ?_
  cases declaration.size <;> cases declaration.initializer <;>
    simp [sizeParts, initializerParts, Expression.every_isFiled]

theorem AssignmentStatement.every_isFiled (assignment : AssignmentStatement) :
    Every IsFiled [assignment.assembly.node] := by
  rw [assembly]
  exact Assembly.every_isFiled_ofParts (by simp [Expression.every_isFiled])

theorem ExpressionStatement.every_isFiled (statement : ExpressionStatement) :
    Every IsFiled [statement.assembly.node] := by
  rw [assembly]
  exact Assembly.every_isFiled_ofParts (by simp [Expression.every_isFiled])

theorem ReturnStatement.every_isFiled (statement : ReturnStatement) :
    Every IsFiled [statement.assembly.node] := by
  rw [assembly]
  refine Assembly.every_isFiled_ofParts ?_
  cases statement.value <;> simp [Expression.every_isFiled]

mutual

theorem Block.every_isFiled : (block : Block) → Every IsFiled [block.assembly.node]
  | .missing _ _ => every_isFiled_leaf
  | .written _ statements _ => by
    rw [Block.assembly]
    exact Assembly.every_isFiled_ofParts (by simpa using Statement.areFiled_listParts statements)

/-- The children in a statement stand under fields of their nodes. -/
theorem Statement.every_isFiled : (statement : Statement) → Every IsFiled [statement.assembly.node]
  | .assignmentStatement assignment => assignment.every_isFiled
  | .expressionStatement statement => statement.every_isFiled
  | .ifStatement _ condition consequence otherwise => by
    have first := Branch.areFiled_parts .consequence (by decide) consequence
    have second := Branch.areFiled_alternativeParts otherwise
    rw [Statement.assembly]
    exact Assembly.every_isFiled_ofParts
      (by simpa [condition.every_isFiled] using And.intro first second)
  | .returnStatement statement => statement.every_isFiled
  | .variableDeclaration declaration => declaration.every_isFiled
  | .block block => Block.every_isFiled block
  | .error node => node.every_isFiled

/-- A branch is filed under a field of the `if` it belongs to. -/
theorem Branch.areFiled_parts (field : Field) (filed : field ∈ NodeKind.fields .ifStatement) :
    (branch : Branch) → AreFiled .ifStatement (branch.parts field)
  | .missing _ => ⟨filed, ErrorNode.every_isFiled _⟩
  | .written statement _ => by
    simpa [Branch.parts, Statement.every_isFiled statement] using filed

theorem Branch.areFiled_alternativeParts : (otherwise : Option (Range × Branch)) →
    AreFiled .ifStatement (Branch.alternativeParts otherwise)
  | none => trivial
  | some (_, branch) => Branch.areFiled_parts .alternative (by decide) branch

/-- The statements of a block are filed under it. -/
theorem Statement.areFiled_listParts : (statements : List Statement) →
    AreFiled .block (Statement.listParts statements)
  | [] => trivial
  | statement :: rest => by
    have later := Statement.areFiled_listParts rest
    simpa [Statement.listParts, Statement.every_isFiled statement] using later

end

theorem InstanceDeclaration.every_isFiled (declaration : InstanceDeclaration) :
    Every IsFiled [declaration.assembly.node] := by
  rw [assembly]
  refine Assembly.every_isFiled_ofParts ?_
  cases declaration.parent <;> cases declaration.body <;> simp [parentParts, Block.every_isFiled]

theorem PrototypeDeclaration.every_isFiled (declaration : PrototypeDeclaration) :
    Every IsFiled [declaration.assembly.node] := by
  rw [assembly]
  exact Assembly.every_isFiled_ofParts (by simp [Block.every_isFiled])

theorem Parameter.every_isFiled (parameter : Parameter) :
    Every IsFiled [parameter.assembly.node] := by
  rw [assembly]
  refine Assembly.every_isFiled_ofParts ?_
  cases parameter.qualifier <;> simp [qualifierParts]

theorem ParameterList.every_isFiled (parameters : ParameterList) :
    Every IsFiled [parameters.assembly.node] := by
  have listed : ∀ items, AreFiled .parameterList (parts items) := by
    intro items
    induction items with
    | nil => trivial
    | cons item rest ih => simpa [parts, Parameter.every_isFiled] using ih
  cases parameters with
  | missing => exact every_isFiled_leaf
  | written _ items _ => exact Assembly.every_isFiled_ofParts (by simpa using listed items)

theorem FunctionDeclaration.every_isFiled (declaration : FunctionDeclaration) :
    Every IsFiled [declaration.assembly.node] := by
  rw [assembly]
  exact Assembly.every_isFiled_ofParts (by simp [ParameterList.every_isFiled, Block.every_isFiled])

theorem ClassMember.every_isFiled (content : ClassMember) :
    Every IsFiled [content.assembly.node] := by
  cases content with
  | variableDeclaration declaration => exact declaration.every_isFiled
  | assignmentStatement assignment => exact assignment.every_isFiled
  | error node => exact node.every_isFiled

theorem ClassBody.every_isFiled (body : ClassBody) : Every IsFiled [body.assembly.node] := by
  have listed : ∀ items : List ClassItem, AreFiled .classBody (items.map ClassItem.part) := by
    intro items
    induction items with
    | nil => trivial
    | cons item rest ih =>
      cases item <;> simpa [ClassItem.part, ClassMember.every_isFiled] using ih
  cases body with
  | missing => exact every_isFiled_leaf
  | written _ items _ => exact Assembly.every_isFiled_ofParts (by simpa using listed items)

theorem ClassDeclaration.every_isFiled (declaration : ClassDeclaration) :
    Every IsFiled [declaration.assembly.node] := by
  rw [assembly]
  exact Assembly.every_isFiled_ofParts (by simp [ClassBody.every_isFiled])

end

/-- The children in a declaration stand under fields of their nodes. -/
theorem Declaration.every_isFiled (declaration : Declaration) :
    Every IsFiled [declaration.toNode] := by
  cases declaration with
  | instanceDeclaration declaration => exact declaration.every_isFiled
  | prototypeDeclaration declaration => exact declaration.every_isFiled
  | functionDeclaration declaration => exact declaration.every_isFiled
  | variableDeclaration declaration => exact declaration.every_isFiled
  | classDeclaration declaration => exact declaration.every_isFiled
  | error node => exact node.every_isFiled

/-- In the tree of every program the children of each node stand under fields of its kind. -/
theorem Program.every_isFiled (program : Program) : Every IsFiled [program.toNode] := by
  refine every_singleton.mpr ⟨?_, every_of_forall ?_⟩
  · intro entry member
    rcases List.mem_map.mp member with ⟨declaration, -, rfl⟩
    exact List.mem_cons_self
  · intro node member
    rcases List.mem_map.mp member with ⟨entry, among, rfl⟩
    rcases List.mem_map.mp among with ⟨declaration, -, rfl⟩
    exact declaration.every_isFiled

end ScriptTree
