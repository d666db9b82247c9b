import ScriptTree.Snapshot
import ScriptTree.Syntax.Program

/-!
# Snapshots without a semicolon

A snapshot without ranges shows what a node is and what its children are, and of
its tokens only those that an error node skips.  So it cannot tell whether a
statement has the semicolon that ends it.
-/

/-!
## Trees without a semicolon

A tree owns the semicolons that end its statements by their places.  Without the
one at some place, a tree is the same in all its other parts.  The semicolons
that come after a body end no statement, and they stay.
-/

namespace ScriptTree

/-- The place of a semicolon, unless it is the one that is left out. -/
def withoutPlace (place : Range) (terminator : Option Range) : Option Range :=
  terminator.filter (· ≠ place)

variable (place : Range)

/-- A variable without the semicolon at a place. -/
def VariableDeclaration.without (declaration : VariableDeclaration) : VariableDeclaration :=
  { declaration with terminator := withoutPlace place declaration.terminator }

/-- An assignment without the semicolon at a place. -/
def AssignmentStatement.without (assignment : AssignmentStatement) : AssignmentStatement :=
  { assignment with terminator := withoutPlace place assignment.terminator }

/-- An expression that makes a statement, without the semicolon at a place. -/
def ExpressionStatement.without (statement : ExpressionStatement) : ExpressionStatement :=
  { statement with terminator := withoutPlace place statement.terminator }

/-- A `return` without the semicolon at a place. -/
def ReturnStatement.without (statement : ReturnStatement) : ReturnStatement :=
  { statement with terminator := withoutPlace place statement.terminator }

mutual

/-- A block in which no statement ends at a place any more. -/
@[simp]
def Block.without : Block → Block
  | .missing anchor wasSought => .missing anchor wasSought
  | .written opening statements closing =>
    .written opening (Statement.listWithout statements) closing

/-- A statement without the semicolon at a place, wherever in it that is. -/
@[simp]
def Statement.without : Statement → Statement
  | .assignmentStatement assignment => .assignmentStatement (assignment.without place)
  | .expressionStatement statement => .expressionStatement (statement.without place)
  | .ifStatement keyword condition consequence none =>
    .ifStatement keyword condition consequence.without none
  | .ifStatement keyword condition consequence (some (elseKeyword, alternative)) =>
    .ifStatement keyword condition consequence.without (some (elseKeyword, alternative.without))
  | .returnStatement statement => .returnStatement (statement.without place)
  | .variableDeclaration declaration => .variableDeclaration (declaration.without place)
  | .block block => .block block.without
  | .error node => .error node

/-- A branch whose statement lost the semicolon at a place.  The one after its block is kept. -/
@[simp]
def Branch.without : Branch → Branch
  | .missing anchor => .missing anchor
  | .written statement semicolon => .written statement.without semicolon

/-- Statements without the semicolon at a place. -/
@[simp]
def Statement.listWithout : List Statement → List Statement
  | [] => []
  | statement :: rest => statement.without :: Statement.listWithout rest

end

/-- An instance whose body lost the semicolon at a place. -/
def InstanceDeclaration.without (declaration : InstanceDeclaration) : InstanceDeclaration :=
  { declaration with body := declaration.body.map (Block.without place) }

/-- A prototype whose body lost the semicolon at a place. -/
def PrototypeDeclaration.without (declaration : PrototypeDeclaration) : PrototypeDeclaration :=
  { declaration with body := declaration.body.without place }

/-- A function whose body lost the semicolon at a place. -/
def FunctionDeclaration.without (declaration : FunctionDeclaration) : FunctionDeclaration :=
  { declaration with body := declaration.body.without place }

/-- A class member without the semicolon at a place. -/
def ClassMember.without : ClassMember → ClassMember
  | .variableDeclaration declaration => .variableDeclaration (declaration.without place)
  | .assignmentStatement assignment => .assignmentStatement (assignment.without place)
  | .error node => .error node

/-- An item of a class without the semicolon at a place. -/
def ClassItem.without : ClassItem → ClassItem
  | .member content => .member (content.without place)
  | .abandoned target => .abandoned target

/-- The body of a class whose members lost the semicolon at a place. -/
def ClassBody.without : ClassBody → ClassBody
  | .missing anchor => .missing anchor
  | .written opening items closing =>
    .written opening (items.map (ClassItem.without place)) closing

/-- A class whose members lost the semicolon at a place. -/
def ClassDeclaration.without (declaration : ClassDeclaration) : ClassDeclaration :=
  { declaration with body := declaration.body.without place }

/-- A declaration without the semicolon at a place, wherever in it that is. -/
def Declaration.without : Declaration → Declaration
  | .instanceDeclaration declaration => .instanceDeclaration (declaration.without place)
  | .prototypeDeclaration declaration => .prototypeDeclaration (declaration.without place)
  | .functionDeclaration declaration => .functionDeclaration (declaration.without place)
  | .variableDeclaration declaration => .variableDeclaration (declaration.without place)
  | .classDeclaration declaration => .classDeclaration (declaration.without place)
  | .error node => .error node

/-- A program without the semicolon at a place. -/
def Program.without (program : Program) : Program :=
  { program with declarations := program.declarations.map (Declaration.without place) }

/-! ## What stays -/

@[simp]
theorem withoutPlace_self : withoutPlace place (some place) = none := by
  simp [withoutPlace]

/-- What stands elsewhere stays. -/
theorem withoutPlace_of_ne {place range : Range} (other : range ≠ place) :
    withoutPlace place (some range) = some range := by
  simp [withoutPlace, other]

/-- No block gets missing by the loss of a semicolon. -/
@[simp]
theorem Block.isMissing_without (block : Block) :
    (block.without place).isMissing = block.isMissing := by
  cases block <;> simp [isMissing]

@[simp]
theorem ClassBody.isMissing_without (body : ClassBody) :
    (body.without place).isMissing = body.isMissing := by
  cases body <;> rfl

end ScriptTree

/-! ## Snapshots -/

namespace ScriptTree

namespace Snapshot

/-- The snapshot of a node under a field, without ranges. -/
def viewUnder (field : Option Field) (assembly : Assembly) : Snapshot :=
  ofNodeUnder false field assembly.node

/-- The snapshots of the children among some parts. -/
abbrev views (parts : List Part) : List Snapshot :=
  parts.flatMap (Part.contribute (fun _ => []) fun field assembly =>
    [viewUnder (some field) assembly])

/-- The children of a node are shown one by one, each with its field. -/
theorem ofForest_eq_map (withRanges : Bool) (children : List (Field × Node)) :
    ofForest withRanges children =
      children.map fun child => ofNodeUnder withRanges (some child.1) child.2 := by
  induction children with
  | nil => rfl
  | cons child rest ih => rw [ofForest, ih, List.map_cons]

/-- Without ranges the children among some parts are shown as the views of the parts. -/
theorem ofForest_eq_views (parts : List Part) :
    ofForest false (parts.filterMap Part.child?) = views parts := by
  rw [ofForest_eq_map, Part.map_filterMap_child?]
  rfl

/-- A node that is written, and is no error, shows its children only. -/
theorem viewUnder_ofParts {field : Option Field} {content : Content} {first second : List Part}
    (same : views first = views second) (written : content.kind ≠ .error)
    (present : (Assembly.ofParts content first).node.isMissing = false)
    (remains : (Assembly.ofParts content second).node.isMissing = false) :
    viewUnder field (.ofParts content first) = viewUnder field (.ofParts content second) := by
  have sound : ∀ parts, (Assembly.ofParts content parts).node.isError = false := fun parts =>
    decide_eq_false written
  have attributes : attributesOf false (Assembly.ofParts content first).node =
      attributesOf false (Assembly.ofParts content second).node := by
    rw [attributesOf, attributesOf, present, remains, sound, sound]
    rfl
  have shown : ∀ parts, viewUnder field (.ofParts content parts) =
      .mk content.kind.label content.caption (field.map Field.label)
        (attributesOf false (Assembly.ofParts content parts).node) (views parts) := fun parts => by
    rw [← ofForest_eq_views]
    rfl
  rw [shown, shown, attributes, same]

end Snapshot

open Snapshot

variable (place : Range)

/-! ## Statements -/

@[simp]
theorem VariableDeclaration.viewUnder_without (field : Option Field)
    (declaration : VariableDeclaration) :
    viewUnder field (declaration.without place).assembly =
      viewUnder field declaration.assembly :=
  viewUnder_ofParts (by simp [without]) nofun rfl rfl

@[simp]
theorem AssignmentStatement.viewUnder_without (field : Option Field)
    (assignment : AssignmentStatement) :
    viewUnder field (assignment.without place).assembly = viewUnder field assignment.assembly :=
  viewUnder_ofParts (by simp [without]) nofun rfl rfl

@[simp]
theorem ExpressionStatement.viewUnder_without (field : Option Field)
    (statement : ExpressionStatement) :
    viewUnder field (statement.without place).assembly = viewUnder field statement.assembly :=
  viewUnder_ofParts (by simp [without]) nofun rfl rfl

@[simp]
theorem ReturnStatement.viewUnder_without (field : Option Field) (statement : ReturnStatement) :
    viewUnder field (statement.without place).assembly = viewUnder field statement.assembly :=
  viewUnder_ofParts (by simp [without]) nofun rfl rfl

mutual

@[simp]
theorem Block.viewUnder_without (field : Option Field) : (block : Block) →
    viewUnder field (block.without place).assembly = viewUnder field block.assembly
  | .missing _ _ => by simp
  | .written _ items _ => by
    rw [Block.without, Block.assembly, Block.assembly]
    exact viewUnder_ofParts (by simp [Statement.views_listWithout items]) nofun rfl rfl

/-- A statement is viewed alike without a semicolon in it. -/
@[simp]
theorem Statement.viewUnder_without (field : Option Field) : (statement : Statement) →
    viewUnder field (statement.without place).assembly = viewUnder field statement.assembly
  | .assignmentStatement _ | .expressionStatement _ | .returnStatement _
  | .variableDeclaration _ | .error _ => by simp [Statement.assembly]
  | .ifStatement _ _ consequence none => by
    rw [Statement.without, Statement.assembly, Statement.assembly]
    exact viewUnder_ofParts (by simp [consequence.views_without]) nofun rfl rfl
  | .ifStatement _ _ consequence (some (_, alternative)) => by
    rw [Statement.without, Statement.assembly, Statement.assembly]
    exact viewUnder_ofParts
      (by simp [Branch.alternativeParts, consequence.views_without, alternative.views_without])
      nofun rfl rfl
  | .block block => by simp [Statement.assembly, Block.viewUnder_without field block]

theorem Branch.views_without (field : Field) : (branch : Branch) →
    views ((branch.without place).parts field) = views (branch.parts field)
  | .missing _ => by simp
  | .written statement _ => by
    simp [Branch.parts, Statement.viewUnder_without (some field) statement]

theorem Statement.views_listWithout : (items : List Statement) →
    views (Statement.listParts (Statement.listWithout place items)) =
      views (Statement.listParts items)
  | [] => rfl
  | statement :: rest => by
    simp [Statement.listParts, Statement.viewUnder_without (some .statements) statement,
      Statement.views_listWithout rest]

end

/-! ## Declarations and programs -/

theorem InstanceDeclaration.viewUnder_without (field : Option Field)
    (declaration : InstanceDeclaration) :
    viewUnder field (declaration.without place).assembly =
      viewUnder field declaration.assembly := by
  rcases declaration with ⟨keyword, name, parent, body, semicolon⟩
  refine viewUnder_ofParts ?_ nofun rfl rfl
  cases body <;> simp [without]

theorem PrototypeDeclaration.viewUnder_without (field : Option Field)
    (declaration : PrototypeDeclaration) :
    viewUnder field (declaration.without place).assembly = viewUnder field declaration.assembly :=
  viewUnder_ofParts (by simp [without]) nofun rfl rfl

theorem FunctionDeclaration.viewUnder_without (field : Option Field)
    (declaration : FunctionDeclaration) :
    viewUnder field (declaration.without place).assembly = viewUnder field declaration.assembly :=
  viewUnder_ofParts (by simp [without]) nofun rfl rfl

theorem ClassBody.views_items (items : List ClassItem) :
    views ((items.map (ClassItem.without place)).map ClassItem.part) =
      views (items.map ClassItem.part) := by
  induction items with
  | nil => rfl
  | cons item rest ih =>
    rw [List.map_cons, List.map_cons, List.map_cons]
    match item with
    | .member (.variableDeclaration _) | .member (.assignmentStatement _) | .member (.error _)
    | .abandoned _ =>
      simpa [ClassItem.without, ClassMember.without, ClassItem.part, ClassMember.assembly] using ih

theorem ClassBody.viewUnder_without (field : Option Field) (body : ClassBody) :
    viewUnder field (body.without place).assembly = viewUnder field body.assembly := by
  cases body with
  | missing => rfl
  | written opening items closing =>
    rw [without, assembly, assembly]
    exact viewUnder_ofParts (by simp [views_items, -List.map_map]) (by rintro ⟨⟩) rfl rfl

theorem ClassDeclaration.viewUnder_without (field : Option Field)
    (declaration : ClassDeclaration) :
    viewUnder field (declaration.without place).assembly = viewUnder field declaration.assembly :=
  viewUnder_ofParts (by simp [without, ClassBody.viewUnder_without]) nofun rfl rfl

/-- A declaration is viewed alike without a semicolon in it. -/
theorem Declaration.viewUnder_without (field : Option Field) (declaration : Declaration) :
    viewUnder field (declaration.without place).assembly =
      viewUnder field declaration.assembly := by
  cases declaration <;>
    simp [without, assembly, InstanceDeclaration.viewUnder_without,
      PrototypeDeclaration.viewUnder_without, FunctionDeclaration.viewUnder_without,
      ClassDeclaration.viewUnder_without]

/-- A program keeps its snapshot when each of its declarations does, wherever its range is. -/
theorem Program.snapshot_map {change : Declaration → Declaration}
    (same : ∀ (field : Option Field) (declaration : Declaration),
      viewUnder field (change declaration).assembly = viewUnder field declaration.assembly)
    (program : Program) (range : Range) :
    ofNode false (Program.mk (program.declarations.map change) range).toNode =
      ofNode false program.toNode := by
  have children : ∀ declarations : List Declaration,
      ofForest false ((declarations.map change).map
        fun declaration => (Field.declarations, declaration.toNode)) =
      ofForest false (declarations.map
        fun declaration => (Field.declarations, declaration.toNode)) := by
    intro declarations
    induction declarations with
    | nil => rfl
    | cons declaration rest ih =>
      have first := same (some .declarations) declaration
      rw [viewUnder, viewUnder] at first
      rw [List.map_cons, List.map_cons, List.map_cons, ofForest, ofForest, ih,
        Declaration.toNode, Declaration.toNode, first]
  rw [Program.toNode, Program.toNode, Program.assembly, Program.assembly, ofNode, ofNode,
    ofNodeUnder, ofNodeUnder]
  exact congrArg _ (children program.declarations)

/-- A program has the same snapshot without a semicolon that ends one of its statements, wherever
its range is. -/
theorem Program.snapshot_without (program : Program) (range : Range) :
    ofNode false (Program.mk (program.without place).declarations range).toNode =
      ofNode false program.toNode :=
  program.snapshot_map (Declaration.viewUnder_without place) range

end ScriptTree
