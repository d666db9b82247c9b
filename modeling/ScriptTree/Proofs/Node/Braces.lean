import ScriptTree.Proofs.Lexeme.Braces
import ScriptTree.Proofs.Node.Held

/-!
# The braces of a tree

Blocks, class bodies and array initializers own the braces around them.  An array
initializer that was given up owns its opening brace only.  A body that owns an
opening brace reaches to a closing brace; that one is the match if and only if
no array initializer inside of the body was given up, since each of those leaves
one brace more open.
-/

namespace ScriptTree

namespace Node

/-- Whether a node is an array initializer that was given up after its opening brace. -/
def leavesOpen (node : Node) : Bool :=
  node.kind = .arrayInitializer && node.tokens.any (·.token = .lBrace) &&
    !node.tokens.any (·.token = .rBrace)

/-- How many array initializers were given up among some nodes and below them. -/
def openCount (nodes : List Node) : Nat :=
  (nodes.flatMap descendants).countP leavesOpen

/-- Whether a node is a block or a class body. -/
def isBody (node : Node) : Bool :=
  node.kind = .block || node.kind = .classBody

/-- From its opening brace a body reaches to a closing brace, between which it leaves as many braces
open as array initializers were given up inside of it. -/
def Reaches (tokens : List PlacedToken) (node : Node) : Prop :=
  node.isBody = true → ∀ opening ∈ node.tokens, opening.token = .lBrace →
    ∃ before between closing after, tokens = before ++ opening :: (between ++ closing :: after) ∧
      node.tokens.getLast? = some closing ∧ closing.token = .rBrace ∧
      openBraces 0 between = some (openCount [node])

/-- A node that holds no opening brace. -/
def IsQuiet (node : Node) : Prop :=
  ∀ placed ∈ node.held, placed.token ≠ .lBrace

@[simp]
theorem openCount_nil : openCount [] = 0 :=
  rfl

/-- The initializers given up among two groups of nodes add up. -/
@[simp]
theorem openCount_append (first second : List Node) :
    openCount (first ++ second) = openCount first + openCount second := by
  simp [openCount]

/-- Given up under a node are those below it, and itself if it leaves its brace open. -/
theorem openCount_singleton (node : Node) :
    openCount [node] = openCount node.children + (if node.leavesOpen then 1 else 0) := by
  rw [openCount, openCount, List.flatMap_singleton, descendants_eq, List.countP_cons]

/-- A body is no array initializer, so it leaves nothing open. -/
theorem leavesOpen_of_isBody {node : Node} (body : node.isBody = true) :
    node.leavesOpen = false := by
  have other : node.kind ≠ .arrayInitializer := by
    intro same
    rw [isBody, same] at body
    cases body
  simp [leavesOpen, other]

/-- The tokens of an inner node are held by the whole. -/
theorem mem_held_of_mem_tokens {node inner : Node} {placed : PlacedToken}
    (within : inner ∈ node.descendants) (member : placed ∈ inner.tokens) : placed ∈ node.held :=
  List.mem_flatMap.mpr ⟨inner, within, List.mem_append_left _ member⟩

namespace IsQuiet

variable {node : Node}

/-- No token below a quiet node is an opening brace. -/
theorem ne_lBrace (quiet : node.IsQuiet) {inner : Node} (within : inner ∈ node.descendants)
    {placed : PlacedToken} (member : placed ∈ inner.tokens) : placed.token ≠ .lBrace :=
  quiet placed (mem_held_of_mem_tokens within member)

/-- Nothing is given up where no opening brace is held. -/
theorem openCount_eq_zero {nodes : List Node} (quiet : ∀ node ∈ nodes, node.IsQuiet) :
    openCount nodes = 0 := by
  rw [openCount, List.countP_eq_zero]
  intro inner member opens
  rcases List.mem_flatMap.mp member with ⟨node, among, within⟩
  simp only [leavesOpen, Bool.and_eq_true, List.any_eq_true, decide_eq_true_eq] at opens
  rcases opens.1.2 with ⟨placed, owned, brace⟩
  exact (quiet node among).ne_lBrace within owned brace

/-- A body below a quiet node has no opening brace to reach from. -/
theorem reaches (quiet : node.IsQuiet) {inner : Node} (within : inner ∈ node.descendants)
    (tokens : List PlacedToken) : inner.Reaches tokens :=
  fun _ _ owned brace => absurd brace (quiet.ne_lBrace within owned)

end IsQuiet

/-! ### A property of all nodes of some trees -/

/-- A property of all nodes among some nodes and below them. -/
def Every (holds : Node → Prop) (nodes : List Node) : Prop :=
  ∀ node ∈ nodes.flatMap descendants, holds node

section

variable {holds : Node → Prop}

@[simp]
theorem every_nil : Every holds [] :=
  nofun

/-- What holds everywhere in two groups of nodes holds everywhere in each of them. -/
@[simp]
theorem every_append {first second : List Node} :
    Every holds (first ++ second) ↔ Every holds first ∧ Every holds second := by
  simp [Every, or_imp, forall_and]

/-- What holds everywhere holds everywhere in the first node and in the others. -/
theorem every_cons {node : Node} {rest : List Node} :
    Every holds (node :: rest) ↔ Every holds [node] ∧ Every holds rest := by
  change Every holds ([node] ++ rest) ↔ _
  exact every_append

/-- What holds everywhere in a node holds of it and everywhere below. -/
theorem every_singleton {node : Node} :
    Every holds [node] ↔ holds node ∧ Every holds node.children := by
  rw [Every, List.flatMap_singleton, descendants_eq, List.forall_mem_cons, Every]

/-- Around some nodes, a node that has the property itself makes no difference. -/
theorem every_of_holds {node : Node} (here : holds node) :
    Every holds [node] ↔ Every holds node.children :=
  every_singleton.trans (and_iff_right here)

end

/-- Whether all bodies among some nodes and below them reach to closing braces. -/
def AllReach (tokens : List PlacedToken) (nodes : List Node) : Prop :=
  ∀ node ∈ nodes.flatMap descendants, node.Reaches tokens

variable {tokens : List PlacedToken}

@[simp]
theorem allReach_nil : AllReach tokens [] :=
  every_nil

/-- Quiet nodes have no body that would have to reach to a closing brace. -/
theorem IsQuiet.allReach {nodes : List Node} (quiet : ∀ node ∈ nodes, node.IsQuiet) :
    AllReach tokens nodes := by
  intro inner member
  rcases List.mem_flatMap.mp member with ⟨node, among, within⟩
  exact (quiet node among).reaches within tokens

/-- The bodies of two groups of nodes reach where those of each group do. -/
@[simp]
theorem allReach_append {first second : List Node} :
    AllReach tokens (first ++ second) ↔ AllReach tokens first ∧ AllReach tokens second :=
  every_append

/-- The bodies of a node reach where it does and where those below it do. -/
theorem allReach_singleton {node : Node} :
    AllReach tokens [node] ↔ node.Reaches tokens ∧ AllReach tokens node.children :=
  every_singleton

/-- Only bodies have to reach to a closing brace. -/
theorem reaches_of_not_isBody {node : Node} (other : node.isBody = false) :
    node.Reaches tokens := by
  intro body
  rw [other] at body
  cases body

end Node

/-! ## Skipped tokens -/

/-- Skipped tokens leave no initializer open. -/
@[simp]
theorem Node.openCount_skipped (skipped : Option ErrorNode) :
    openCount (skipped.toList.map fun node => node.assembly.node) = 0 := by
  cases skipped with
  | none => rfl
  | some node => exact openCount_singleton _

/-- Skipped tokens are no body. -/
theorem Node.allReach_skipped (skipped : Option ErrorNode) (tokens : List PlacedToken) :
    AllReach tokens (skipped.toList.map fun node => node.assembly.node) := by
  cases skipped with
  | none => exact allReach_nil
  | some node => exact allReach_singleton.mpr ⟨reaches_of_not_isBody rfl, allReach_nil⟩

/-! ## Children of assembled nodes -/

namespace Part

/-- The nodes that parts give to a node as its children. -/
abbrev nodes (parts : List Part) : List Node :=
  parts.flatMap (contribute (fun _ => []) fun _ assembly => [assembly.node])

end Part

/-- The children of a node are those its parts contribute. -/
@[simp]
theorem Assembly.children_ofParts (content : Content) (parts : List Part) :
    (ofParts content parts).node.children = Part.nodes parts :=
  Part.map_filterMap_child? Prod.snd parts

@[simp]
theorem Expression.nodes_listParts (field : Field) (items : List (Expression × Option Range)) :
    Part.nodes (listParts field items) = items.map fun item => item.1.toNode := by
  induction items with
  | nil => rfl
  | cons item rest ih => simp [listParts, ih, toNode]

@[simp]
theorem Statement.nodes_listParts (statements : List Statement) :
    Part.nodes (listParts statements) = statements.map toNode := by
  induction statements with
  | nil => rfl
  | cons statement rest ih => simp [listParts, ih, toNode]

@[simp]
theorem Statement.tokens_listParts (statements : List Statement) :
    (listParts statements).filterMap Part.token? = [] := by
  induction statements with
  | nil => rfl
  | cons statement rest ih => exact ih

@[simp]
theorem ClassItem.tokens_part (items : List ClassItem) :
    (items.map part).filterMap Part.token? = [] := by
  rw [List.filterMap_eq_nil_iff]
  intro _ member
  rcases List.mem_map.mp member with ⟨_ | _, _, rfl⟩ <;> rfl

/-- Between the items of a list there are commas. -/
theorem Expression.eq_comma_of_mem_listParts {field : Field}
    {items : List (Expression × Option Range)} {placed : PlacedToken}
    (member : placed ∈ (listParts field items).filterMap Part.token?) :
    placed.token = .comma := by
  induction items with
  | nil => cases member
  | cons item rest ih =>
    rcases item with ⟨expression, _ | comma⟩
    · exact ih member
    · rcases List.mem_cons.mp member with rfl | later
      · rfl
      · exact ih later

/-- An array initializer leaves its brace open if no closing brace was there. -/
theorem Expression.leavesOpen_arrayInitializer (opening : Range)
    (items : List (Expression × Option Range)) (gap closing : Option Range) :
    (arrayInitializer opening items gap closing).toNode.leavesOpen = closing.isNone := by
  have commas : ((listParts .elements items).filterMap Part.token?).any
      (·.token = .rBrace) = false := by
    rw [List.any_eq_false]
    intro placed member closes
    rw [eq_comma_of_mem_listParts member] at closes
    cases closes
  cases gap <;> cases closing <;>
    simp [toNode, assembly, Node.leavesOpen, Node.kind, Part.token?, Part.optional, commas,
      Content.kind, -List.any_filterMap]

@[simp]
theorem VariableDeclaration.nodes_sizeParts (size : Option ArraySize) :
    Part.nodes (sizeParts size) = size.toList.map fun written => written.size.toNode := by
  cases size <;> simp [sizeParts, Expression.toNode]

@[simp]
theorem VariableDeclaration.nodes_initializerParts (initializer : Option Initializer) :
    Part.nodes (initializerParts initializer) =
      initializer.toList.map fun written => written.value.toNode := by
  cases initializer <;> simp [initializerParts, Expression.toNode]

@[simp]
theorem InstanceDeclaration.nodes_parentParts (parent : Option ParentClause) :
    Part.nodes (parentParts parent) =
      parent.toList.map fun written => written.name.assembly.node := by
  cases parent <;> simp [parentParts]

@[simp]
theorem Block.nodes_toList (body : Option Block) :
    Part.nodes (body.map fun body => Part.child .body body.assembly).toList =
      body.toList.map toNode := by
  cases body <;> simp [toNode]

/-- The node of a branch, or the stand-in for it. -/
def Branch.nodes : Branch → List Node
  | .missing anchor => [(ErrorNode.missing anchor).assembly.node]
  | .written statement _ => [statement.toNode]

@[simp]
theorem Branch.nodes_parts (field : Field) (branch : Branch) :
    Part.nodes (branch.parts field) = branch.nodes := by
  cases branch with
  | missing => rfl
  | written => simp [parts, nodes, Statement.toNode]

@[simp]
theorem Block.nodes_part (block : Block) (rest : List Part) :
    Part.nodes (block.part :: rest) = block.toNode :: Part.nodes rest := by
  unfold Block.part
  split <;> rfl

@[simp]
theorem ClassItem.nodes_part (items : List ClassItem) :
    Part.nodes (items.map part) = (items.filterMap member?).map ClassMember.toNode := by
  induction items with
  | nil => rfl
  | cons item rest ih =>
    cases item <;> simp [part, member?, ih, List.filterMap_cons, ClassMember.toNode]

/-! ### Each kind of node -/

namespace Expression

/-- Under a binary operation stand its two operands. -/
theorem children_binary (operator : BinaryOperator) (left : Expression) (sign : Range)
    (right : Expression) :
    (binary operator left sign right).toNode.children = [left.toNode, right.toNode] := by
  simp [toNode, assembly]

theorem children_unary (operator : UnaryOperator) (sign : Range) (operand : Expression) :
    (unary operator sign operand).toNode.children = [operand.toNode] := by
  simp [toNode, assembly]

theorem children_arrayAccess (array : Expression) (opening : Range) (index : Expression)
    (closing : Option Range) :
    (arrayAccess array opening index closing).toNode.children = [array.toNode, index.toNode] := by
  simp [toNode, assembly]

theorem children_memberAccess (object : Expression) (dot : Range) (member : Identifier) :
    (memberAccess object dot member).toNode.children =
      [object.toNode, member.assembly.node] := by
  simp [toNode, assembly]

theorem children_parenthesized (opening : Range) (inner : Expression) (closing : Option Range) :
    (parenthesized opening inner closing).toNode.children = [inner.toNode] := by
  simp [toNode, assembly]

theorem children_arrayInitializer (opening : Range) (items : List (Expression × Option Range))
    (gap closing : Option Range) :
    (arrayInitializer opening items gap closing).toNode.children =
      items.map fun item => item.1.toNode := by
  cases gap <;> simp [toNode, assembly]

end Expression

/-- Under a call stand the function and a list with the arguments. -/
theorem Expression.children_call (function : Expression) (opening : Range)
    (items : List (Expression × Option Range)) (closing : Option Range) :
    ∃ arguments, (call function opening items closing).toNode.children =
        [function.toNode, arguments] ∧ arguments.kind = .argumentList ∧
      arguments.isFaulty = false ∧ arguments.children = items.map fun item => item.1.toNode := by
  refine ⟨_, rfl, rfl, rfl, ?_⟩
  simp

/-- Under a variable declaration stand its type and name, and what it has of size and value. -/
theorem VariableDeclaration.children_toNode (declaration : VariableDeclaration) :
    declaration.toNode.children =
      [declaration.type.assembly.node, declaration.name.assembly.node] ++
        (declaration.size.toList.map fun written => written.size.toNode) ++
        declaration.initializer.toList.map fun written => written.value.toNode := by
  simp [toNode, assembly]

theorem AssignmentStatement.children_toNode (assignment : AssignmentStatement) :
    assignment.toNode.children = [assignment.left.toNode, assignment.right.toNode] := by
  simp [toNode, assembly, Expression.toNode]

namespace Statement

theorem children_expressionStatement (statement : ExpressionStatement) :
    (expressionStatement statement).toNode.children = [statement.expression.toNode] := by
  simp [toNode, assembly, ExpressionStatement.assembly, Expression.toNode]

theorem children_returnStatement (statement : ReturnStatement) :
    (returnStatement statement).toNode.children =
      statement.value.toList.map Expression.toNode := by
  cases found : statement.value <;>
    simp [toNode, assembly, ReturnStatement.assembly, found, Expression.toNode]

/-- Under an `if` stand the condition and the nodes of its branches. -/
theorem children_ifStatement (keyword : Range) (condition : Expression) (consequence : Branch)
    (otherwise : Option (Range × Branch)) :
    (ifStatement keyword condition consequence otherwise).toNode.children =
      condition.toNode :: (consequence.nodes ++ otherwise.toList.flatMap fun written =>
        written.2.nodes) := by
  rcases otherwise with _ | ⟨_, _⟩ <;>
    simp [toNode, assembly, Branch.alternativeParts, Expression.toNode]

end Statement

/-- Under a block stand its statements. -/
theorem Block.children_written (opening : Range) (statements : List Statement)
    (closing : Option Range) :
    (written opening statements closing).toNode.children = statements.map Statement.toNode := by
  simp [toNode, assembly]

/-- Under a class body stand its members, without the stray semicolons. -/
theorem ClassBody.children_written (opening : Range) (items : List ClassItem)
    (closing : Option Range) :
    (written opening items closing).assembly.node.children =
      (items.filterMap ClassItem.member?).map ClassMember.toNode := by
  simp [assembly]

/-- Under an instance stand its name, and what it has of parent and body. -/
theorem InstanceDeclaration.children_toNode (declaration : InstanceDeclaration) :
    declaration.assembly.node.children =
      declaration.name.assembly.node ::
        ((declaration.parent.toList.map fun written => written.name.assembly.node) ++
          declaration.body.toList.map Block.toNode) := by
  simp [assembly]

theorem PrototypeDeclaration.children_toNode (declaration : PrototypeDeclaration) :
    declaration.assembly.node.children =
      [declaration.name.assembly.node, declaration.parent.assembly.node,
        declaration.body.toNode] := by
  simp [assembly, Block.toNode]

theorem Parameter.children_toNode (parameter : Parameter) :
    parameter.assembly.node.children =
      [parameter.type.assembly.node, parameter.name.assembly.node] := by
  cases found : parameter.qualifier <;> simp [assembly, qualifierParts, found]

theorem ParameterList.nodes_parts (items : List (Parameter × Option Range)) :
    Part.nodes (parts items) = items.map fun item => item.1.assembly.node := by
  induction items with
  | nil => rfl
  | cons item rest ih => simp [parts, ih]

theorem ParameterList.children_written (opening : Range)
    (parameters : List (Parameter × Option Range)) (closing : Option Range) :
    (written opening parameters closing).assembly.node.children =
      parameters.map fun item => item.1.assembly.node := by
  simp [assembly, nodes_parts]

theorem FunctionDeclaration.children_toNode (declaration : FunctionDeclaration) :
    declaration.assembly.node.children =
      [declaration.returnType.assembly.node, declaration.name.assembly.node,
        declaration.parameters.assembly.node, declaration.body.toNode] := by
  simp [assembly, Block.toNode]

theorem ClassDeclaration.children_toNode (declaration : ClassDeclaration) :
    declaration.assembly.node.children =
      [declaration.name.assembly.node, declaration.body.assembly.node] := by
  simp [assembly]

end ScriptTree
