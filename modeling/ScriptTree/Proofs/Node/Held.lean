import Mathlib.Algebra.BigOperators.Group.Multiset.Basic
import ScriptTree.Node.Traversal
import ScriptTree.Proofs.Syntax.Slots

/-!
# The tokens that a tree holds

A node holds its own tokens, and a node that stands for one token holds that
one.  A tree holds what its nodes hold.  As far as the order does not matter,
that is what the filled slots of the typed tree say, the targets that a class
body abandoned apart.
-/

namespace ScriptTree

open Slot

/-- The token that a node stands for, if it stands for one. -/
def Content.leafToken? : Content → Option Token
  | .identifier name => if name.isEmpty then none else some .identifier
  | .type .void => some .kwVoid
  | .type .int => some .kwInt
  | .type .float => some .kwFloat
  | .type .string => some .kwString
  | .type (.named _) => some .identifier
  | .number _ => some .number
  | .string _ => some .string
  | .boolean true => some .kwTrue
  | .boolean false => some .kwFalse
  | _ => none

namespace Node

/-- The tokens of one node: those it owns, or the one it stands for. -/
def ownTokens (node : Node) : List PlacedToken :=
  node.tokens ++ (node.content.leafToken?.map fun token => ⟨token, node.range⟩).toList

/-- The tokens of a node and of everything below it. -/
def held (node : Node) : List PlacedToken :=
  node.descendants.flatMap ownTokens

/-- A stack is visited node by node. -/
theorem visitStack_append (first second : List Node) :
    visitStack (first ++ second) = visitStack first ++ visitStack second := by
  fun_induction visitStack first with
  | case1 => rfl
  | case2 node rest ih =>
    rw [List.cons_append, visitStack, ← List.append_assoc, ih, List.cons_append]

/-- What is visited from a stack are the nodes of the stack with all that is below each. -/
theorem visitStack_eq_flatMap (stack : List Node) :
    visitStack stack = stack.flatMap descendants := by
  induction stack with
  | nil => rw [visitStack, List.flatMap_nil]
  | cons node rest ih =>
    rw [← List.singleton_append, visitStack_append, ih]
    rfl

/-- The descendants of a node are the node and the descendants of its children. -/
theorem descendants_eq (node : Node) :
    node.descendants = node :: node.children.flatMap descendants := by
  rw [descendants, visitStack, List.append_nil, visitStack_eq_flatMap]

/-- A node is one of those in it. -/
theorem mem_descendants (node : Node) : node ∈ node.descendants := by
  rw [descendants_eq]
  exact List.mem_cons_self

/-- A node holds its own tokens, and what its children hold. -/
theorem held_eq (node : Node) :
    node.held = node.ownTokens ++ node.children.flatMap held := by
  rw [held, descendants_eq, List.flatMap_cons, List.flatMap_assoc]
  rfl

end Node

/-! ## Bags of tokens -/

/-- The filled slots, whatever their order. -/
def Slot.bag (slots : List Slot) : Multiset PlacedToken :=
  Slot.placed slots

namespace Slot

@[simp]
theorem bag_nil : bag [] = 0 :=
  rfl

/-- The tokens in two rows of slots add up. -/
@[simp]
theorem bag_append (first second : List Slot) :
    bag (first ++ second) = bag first + bag second := by
  simp [bag]

/-- A token that stands where it is required is in the bag. -/
@[simp]
theorem bag_required_some (token : Token) (range : Range) :
    bag (required token (some range)) = {⟨token, range⟩} :=
  rfl

@[simp]
theorem bag_required_none (token : Token) : bag (required token none) = 0 :=
  rfl

@[simp]
theorem bag_allowed (token : Token) (place : Option Range) :
    bag (allowed token place) = bag (required token place) := by
  simp [bag]

@[simp]
theorem bag_comma (isLast : Bool) (place : Option Range) :
    bag (comma isLast place) = bag (required .comma place) := by
  simp [bag]

end Slot

namespace Assembly

/-- What the node of an assembly holds. -/
def bag (assembly : Assembly) : Multiset PlacedToken :=
  assembly.node.held

end Assembly

namespace Part

/-- What a part gives to the node; what is abandoned gives nothing. -/
def bag : Part → Multiset PlacedToken
  | .token placed => {placed}
  | .child _ assembly | .standIn _ assembly => assembly.bag
  | .gap _ | .abandoned _ => 0

@[simp]
theorem bag_token (placed : PlacedToken) : (token placed).bag = {placed} :=
  rfl

@[simp]
theorem bag_child (field : Field) (assembly : Assembly) :
    (child field assembly).bag = assembly.bag :=
  rfl

@[simp]
theorem bag_standIn (field : Field) (assembly : Assembly) :
    (standIn field assembly).bag = assembly.bag :=
  rfl

@[simp]
theorem bag_gap (range : Range) : (gap range).bag = 0 :=
  rfl

/-- What is abandoned gives nothing to the node. -/
@[simp]
theorem bag_abandoned (assembly : Assembly) : (abandoned assembly).bag = 0 :=
  rfl

/-- The tokens in some parts, with their multiplicity. -/
def bagOfList (parts : List Part) : Multiset PlacedToken :=
  (parts.map bag).sum

@[simp]
theorem bagOfList_nil : bagOfList [] = 0 :=
  rfl

@[simp]
theorem bagOfList_cons (part : Part) (rest : List Part) :
    bagOfList (part :: rest) = part.bag + bagOfList rest := by
  simp [bagOfList]

/-- What two groups of parts give adds up. -/
@[simp]
theorem bagOfList_append (first second : List Part) :
    bagOfList (first ++ second) = bagOfList first + bagOfList second := by
  simp [bagOfList]

@[simp]
theorem bagOfList_optional (token : Token) (place : Option Range) :
    bagOfList (optional token place) = Slot.bag (required token place) := by
  cases place <;> simp [optional]

end Part

namespace Assembly

/-- A node has in its bag its own tokens and what its children hold. -/
theorem bag_eq (assembly : Assembly) :
    assembly.bag =
      (assembly.node.ownTokens : Multiset PlacedToken) +
        (assembly.node.children.flatMap Node.held : List PlacedToken) := by
  rw [bag, Node.held_eq, ← Multiset.coe_add]

/-- An inner node holds what its parts give to it. -/
theorem bag_ofParts {content : Content} (inner : content.leafToken? = none)
    (parts : List Part) : (ofParts content parts).bag = Part.bagOfList parts := by
  have split : ((parts.filterMap Part.token? : List PlacedToken) : Multiset PlacedToken) +
      (((parts.filterMap Part.child?).map (·.2)).flatMap Node.held : List PlacedToken) =
      Part.bagOfList parts := by
    induction parts with
    | nil => rfl
    | cons part rest ih =>
      rw [Part.bagOfList_cons, ← ih]
      cases part with
      | token placed =>
        change (↑(placed :: rest.filterMap Part.token?) : Multiset PlacedToken) + _ = {placed} + _
        rw [← Multiset.cons_coe, Multiset.singleton_add, Multiset.cons_add]
        rfl
      | child _ assembly | standIn _ assembly =>
        change _ + (↑(assembly.node.held ++ _) : Multiset PlacedToken) = assembly.bag + _
        rw [← Multiset.coe_add, add_left_comm]
        rfl
      | gap | abandoned =>
        rw [Part.bag, zero_add]
        rfl
  rw [bag_eq, ← split]
  simp [Node.ownTokens, Node.children, inner]

/-- A leaf holds the token that it stands for, if it stands for one. -/
theorem bag_leaf (content : Content) (range : Range) :
    (leaf content range).bag =
      ((content.leafToken?.map fun token => (⟨token, range⟩ : PlacedToken)).toList :
        Multiset PlacedToken) := by
  simp [bag_eq, Node.ownTokens, Node.children, Node.content, Node.tokens, Node.fields, Node.range]

end Assembly

/-! ## Nodes and their slots -/

open Assembly

@[simp]
theorem Identifier.bag_assembly (identifier : Identifier) :
    identifier.assembly.bag = Slot.bag identifier.slots := by
  rw [assembly, bag_leaf]
  cases missing : identifier.name.isEmpty <;>
    simp [Content.leafToken?, slots, isMissing, missing, Slot.bag, Slot.placed,
      List.filterMap_cons, Slot.placed?]

@[simp]
theorem TypeReference.bag_assembly (reference : TypeReference) :
    reference.assembly.bag = Slot.bag reference.slots := by
  obtain ⟨type, range⟩ := reference
  rw [assembly, bag_leaf]
  cases type <;> rfl

@[simp]
theorem ErrorNode.bag_assembly (node : ErrorNode) :
    node.assembly.bag = Slot.bag node.slots := by
  rw [bag_eq, Slot.bag, placed_slots]
  simp [assembly, Node.ownTokens, Node.children, Node.content, Node.tokens, Node.fields,
    Content.leafToken?]

namespace Expression

mutual

/-- An expression holds the tokens of its slots, each of them as often as it stands there. -/
@[simp]
theorem bag_assembly (expression : Expression) :
    expression.assembly.bag = Slot.bag expression.slots := by
  cases expression with
  | boolean literal =>
    obtain ⟨value, range⟩ := literal
    rw [assembly, bag_leaf]
    cases value <;> simp [Content.leafToken?]
  | number | string =>
    rw [assembly, bag_leaf, slots]
    rfl
  | identifier name => exact name.bag_assembly
  | error node => exact node.bag_assembly
  | arrayInitializer opening elements gap closing =>
    have items := bag_listParts .elements elements
    rw [assembly, bag_ofParts rfl]
    cases gap <;> simp [items]
  | call function opening items closing =>
    have head := bag_assembly function
    have inner := bag_listParts .arguments items
    have list : Content.argumentList.leafToken? = none := rfl
    rw [assembly, bag_ofParts rfl]
    simp [bag_ofParts list, head, inner]
  | binary _ left _ right =>
    have first := bag_assembly left
    have second := bag_assembly right
    rw [assembly, bag_ofParts rfl]
    simp [first, second]
  | unary _ _ operand =>
    have inner := bag_assembly operand
    rw [assembly, bag_ofParts rfl]
    simp [inner]
  | arrayAccess array _ index _ =>
    have first := bag_assembly array
    have second := bag_assembly index
    rw [assembly, bag_ofParts rfl]
    simp [first, second]
  | memberAccess object _ _ =>
    have inner := bag_assembly object
    rw [assembly, bag_ofParts rfl]
    simp [inner]
  | parenthesized _ inner _ =>
    have same := bag_assembly inner
    rw [assembly, bag_ofParts rfl]
    simp [same]

theorem bag_listParts (field : Field) (items : List (Expression × Option Range)) :
    Part.bagOfList (listParts field items) = Slot.bag (listSlots items) := by
  match items with
  | [] => rfl
  | (expression, place) :: rest =>
    have first := bag_assembly expression
    have later := bag_listParts field rest
    simp [listParts, first, later]

end

end Expression

@[simp]
theorem VariableDeclaration.bag_assembly (declaration : VariableDeclaration) :
    declaration.assembly.bag = Slot.bag declaration.slots := by
  obtain ⟨_, _, _, _, size, initializer, _⟩ := declaration
  rw [assembly, bag_ofParts rfl]
  cases size <;> cases initializer <;> simp [sizeParts, initializerParts, ← add_assoc]

@[simp]
theorem AssignmentStatement.bag_assembly (assignment : AssignmentStatement) :
    assignment.assembly.bag = Slot.bag assignment.slots := by
  rw [assembly, bag_ofParts rfl]
  simp

@[simp]
theorem ExpressionStatement.bag_assembly (statement : ExpressionStatement) :
    statement.assembly.bag = Slot.bag statement.slots := by
  rw [assembly, bag_ofParts rfl]
  simp

@[simp]
theorem ReturnStatement.bag_assembly (statement : ReturnStatement) :
    statement.assembly.bag = Slot.bag statement.slots := by
  obtain ⟨_, value, _⟩ := statement
  rw [assembly, bag_ofParts rfl]
  cases value <;> simp

mutual

@[simp]
theorem Block.bag_assembly (block : Block) : block.assembly.bag = Slot.bag block.slots := by
  cases block with
  | missing =>
    rw [Block.assembly, bag_leaf, Block.slots]
    rfl
  | written _ statements _ =>
    have items := Statement.bag_listParts statements
    rw [Block.assembly, bag_ofParts rfl]
    simp [items]

/-- A statement holds the tokens of its slots. -/
@[simp]
theorem Statement.bag_assembly (statement : Statement) :
    statement.assembly.bag = Slot.bag statement.slots := by
  match statement with
  | .assignmentStatement assignment => exact assignment.bag_assembly
  | .expressionStatement statement => exact statement.bag_assembly
  | .ifStatement _ _ consequence none =>
    have taken := Branch.bag_parts .consequence consequence
    rw [Statement.assembly, bag_ofParts rfl]
    simp [Branch.alternativeParts, taken]
  | .ifStatement _ _ consequence (some (_, alternative)) =>
    have taken := Branch.bag_parts .consequence consequence
    have refused := Branch.bag_parts .alternative alternative
    rw [Statement.assembly, bag_ofParts rfl]
    simp [Branch.alternativeParts, taken, refused]
  | .returnStatement statement => exact statement.bag_assembly
  | .variableDeclaration declaration => exact declaration.bag_assembly
  | .block block => exact Block.bag_assembly block
  | .error node => exact node.bag_assembly

theorem Branch.bag_parts (field : Field) (branch : Branch) :
    Part.bagOfList (branch.parts field) = Slot.bag branch.slots := by
  cases branch with
  | missing anchor =>
    rw [Branch.parts, Part.bagOfList_cons, Part.bag_standIn, ErrorNode.bag_assembly]
    rfl
  | written statement _ =>
    have same := statement.bag_assembly
    simp [Branch.parts, same]

theorem Statement.bag_listParts (statements : List Statement) :
    Part.bagOfList (Statement.listParts statements) =
      Slot.bag (Statement.listSlots statements) := by
  match statements with
  | [] => rfl
  | statement :: rest =>
    have first := statement.bag_assembly
    have later := Statement.bag_listParts rest
    simp [Statement.listParts, first, later]

end

@[simp]
theorem Block.bag_part (block : Block) : block.part.bag = Slot.bag block.slots := by
  unfold Block.part
  split <;> exact Block.bag_assembly _

theorem InstanceDeclaration.bag_assembly (declaration : InstanceDeclaration) :
    declaration.assembly.bag = Slot.bag declaration.slots := by
  obtain ⟨_, _, parent, body, _⟩ := declaration
  rw [assembly, bag_ofParts rfl]
  cases parent <;> cases body <;> simp [parentParts, bodySlots]

theorem PrototypeDeclaration.bag_assembly (declaration : PrototypeDeclaration) :
    declaration.assembly.bag = Slot.bag declaration.slots := by
  rw [assembly, bag_ofParts rfl]
  simp

@[simp]
theorem Parameter.bag_assembly (parameter : Parameter) :
    parameter.assembly.bag = Slot.bag parameter.slots := by
  obtain ⟨qualifier, _, _⟩ := parameter
  rw [assembly, bag_ofParts rfl]
  cases qualifier <;> simp [qualifierParts]

namespace ParameterList

@[simp]
theorem bag_parts (items : List (Parameter × Option Range)) :
    Part.bagOfList (parts items) = Slot.bag (itemSlots items) := by
  induction items with
  | nil => rfl
  | cons item rest ih =>
    rw [parts, itemSlots, Part.bagOfList_cons, Part.bagOfList_append, ih, Part.bag_child,
      Parameter.bag_assembly, Slot.bag_append, Slot.bag_append, Slot.bag_comma,
      Part.bagOfList_optional, add_assoc]

@[simp]
theorem bag_assembly (parameters : ParameterList) :
    parameters.assembly.bag = Slot.bag parameters.slots := by
  cases parameters with
  | missing =>
    rw [assembly, bag_leaf]
    rfl
  | written =>
    rw [assembly, bag_ofParts rfl]
    simp [slots]

end ParameterList

theorem FunctionDeclaration.bag_assembly (declaration : FunctionDeclaration) :
    declaration.assembly.bag = Slot.bag declaration.slots := by
  rw [assembly, bag_ofParts rfl]
  simp

theorem ClassMember.bag_assembly (member : ClassMember) :
    member.assembly.bag = Slot.bag member.slots := by
  cases member with
  | variableDeclaration declaration => exact declaration.bag_assembly
  | assignmentStatement assignment => exact assignment.bag_assembly
  | error node => exact node.bag_assembly

/-! ## Abandoned targets -/

/-- The tokens of some expressions. -/
def Expression.heldBy (expressions : List Expression) : List PlacedToken :=
  expressions.flatMap fun expression => expression.toNode.held

theorem Expression.coe_heldBy_cons (first : Expression) (rest : List Expression) :
    (heldBy (first :: rest) : Multiset PlacedToken) = Slot.bag first.slots + heldBy rest := by
  have same : (first.toNode.held : Multiset PlacedToken) = Slot.bag first.slots :=
    first.bag_assembly
  rw [heldBy, List.flatMap_cons, ← Multiset.coe_add, same]
  rfl

/-- A class body and the targets abandoned in it hold the tokens of its slots. -/
theorem ClassBody.bag_assembly (body : ClassBody) :
    body.assembly.bag + Expression.heldBy body.abandoned = Slot.bag body.slots := by
  cases body with
  | missing =>
    rw [assembly, bag_leaf]
    rfl
  | written opening items closing =>
    have split : Part.bagOfList (items.map ClassItem.part) +
        Expression.heldBy (items.filterMap ClassItem.abandoned?) =
        Slot.bag (items.flatMap ClassItem.slots) := by
      induction items with
      | nil => rfl
      | cons item rest ih =>
        cases item with
        | member content =>
          have same := content.bag_assembly
          rw [List.map_cons, Part.bagOfList_cons, List.flatMap_cons, Slot.bag_append, ← ih,
            List.filterMap_cons_none rfl, ClassItem.part, Part.bag_child, same, add_assoc]
          rfl
        | abandoned target =>
          have found : (ClassItem.abandoned target).abandoned? = some target := rfl
          rw [List.map_cons, Part.bagOfList_cons, List.flatMap_cons, Slot.bag_append, ← ih,
            List.filterMap_cons_some found, Expression.coe_heldBy_cons, ClassItem.part,
            Part.bag_abandoned, zero_add, add_left_comm]
          rfl
    rw [assembly, bag_ofParts rfl, abandoned, slots, Slot.bag_append, Slot.bag_append, ← split,
      Part.bagOfList_cons,
      Part.bagOfList_append, Part.bagOfList_optional, Part.bag_token, Slot.bag_required_some]
    ac_rfl

/-- A declaration and the targets abandoned in it hold the tokens of its slots. -/
theorem Declaration.bag_assembly (declaration : Declaration) :
    declaration.assembly.bag + Expression.heldBy declaration.abandoned =
      Slot.bag declaration.slots := by
  cases declaration with
  | instanceDeclaration declaration => exact (add_zero _).trans declaration.bag_assembly
  | prototypeDeclaration declaration => exact (add_zero _).trans declaration.bag_assembly
  | functionDeclaration declaration => exact (add_zero _).trans declaration.bag_assembly
  | variableDeclaration declaration => exact (add_zero _).trans declaration.bag_assembly
  | classDeclaration declaration =>
    have body := declaration.body.bag_assembly
    rw [assembly, ClassDeclaration.assembly, bag_ofParts rfl]
    simp only [slots, ClassDeclaration.slots, Slot.bag_append, ← body]
    simp [abandoned]
    ac_rfl
  | error node => exact (add_zero _).trans node.bag_assembly

/-- A program holds what its slots say, apart from what it abandoned. -/
theorem Program.held_perm (program : Program) :
    (program.toNode.held ++ Expression.heldBy program.abandoned).Perm
      (Slot.placed program.slots) := by
  have split : ((program.declarations.flatMap fun declaration => declaration.toNode.held :
        List PlacedToken) : Multiset PlacedToken) +
      Expression.heldBy (program.declarations.flatMap Declaration.abandoned) =
      Slot.bag (program.declarations.flatMap Declaration.slots) := by
    induction program.declarations with
    | nil => rfl
    | cons declaration rest ih =>
      have first := declaration.bag_assembly
      simp only [List.flatMap_cons, Slot.bag_append, ← first, ← ih, Expression.heldBy,
        List.flatMap_append, ← Multiset.coe_add]
      change _ = (declaration.toNode.held : Multiset PlacedToken) + _ + _
      ac_rfl
  have whole : program.toNode.held =
      program.declarations.flatMap fun declaration => declaration.toNode.held := by
    rw [Node.held_eq]
    simp [toNode, assembly, Node.ownTokens, Node.children, Node.fields, Node.tokens,
      Node.content, Content.leafToken?, List.flatMap_map]
  rw [← Multiset.coe_eq_coe, ← Multiset.coe_add, whole]
  exact split

end ScriptTree
