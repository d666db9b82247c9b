import Mathlib.Data.List.Forall2
import ScriptTree.Proofs.Node.Fitting
import ScriptTree.Proofs.Node.Unplaced
import ScriptTree.Proofs.Syntax.MapRanges

/-!
# Nodes in other places

The range of a node is made of the ranges of its parts.  So a tree that was
moved is assembled to the node of the tree, moved in the same way, provided that
ranges may be moved before they are put together or after.  That is so for a
move that keeps widths, and for a move to one and the same empty range.
-/

namespace ScriptTree

/-- A move of ranges that goes along with putting them together. -/
structure Range.IsRelocation (move : Range → Range) : Prop where
  after : ∀ range, move range.after = (move range).after
  through : ∀ first last, move (first.through last) = (move first).through (move last)
  hull : ∀ ranges : List Range,
    (Hull.ofRanges (ranges.map move)).range? = (Hull.ofRanges ranges).range?.map move

/-- The hull of the same parts in other places. -/
def Hull.mapRanges (move : Range → Range) (hull : Hull) : Hull :=
  ⟨hull.stretch.map move, hull.firstEmpty.map move⟩

section

variable {move : Range → Range}
  (through : ∀ first last, move (first.through last) = (move first).through (move last))
  (empty : ∀ range, (move range).isEmpty = range.isEmpty)

include through empty

/-- A moved hull is extended by a moved range as the hull is by the range. -/
theorem Hull.add_mapRanges (hull : Hull) (range : Range) :
    (hull.mapRanges move).add (move range) = (hull.add range).mapRanges move := by
  rcases hull with ⟨stretch, firstEmpty⟩
  unfold add
  rw [empty]
  split
  · cases firstEmpty <;> rfl
  · cases stretch with
    | none => rfl
    | some whole => simp [mapRanges, through]

/-- A moved hull is extended by moved ranges as the hull is by the ranges. -/
theorem Hull.foldl_mapRanges (ranges : List Range) (hull : Hull) :
    (ranges.map move).foldl add (hull.mapRanges move) = (ranges.foldl add hull).mapRanges move := by
  induction ranges generalizing hull with
  | nil => rfl
  | cons range rest ih =>
    rw [List.map_cons, List.foldl_cons, add_mapRanges through empty, ih, List.foldl_cons]

/-- A move that keeps empty what is empty, and only that, goes along with putting ranges
together. -/
theorem Range.IsRelocation.of_isEmpty_eq
    (after : ∀ range, move range.after = (move range).after) : IsRelocation move where
  after
  through
  hull := by
    intro ranges
    have found : Hull.ofRanges (ranges.map move) = (Hull.ofRanges ranges).mapRanges move :=
      Hull.foldl_mapRanges through empty ranges {}
    rw [found, Hull.range?, Hull.range?, Hull.mapRanges]
    cases (Hull.ofRanges ranges).stretch <;> rfl

end

namespace Range.IsRelocation

/-- The identity relocates ranges. -/
theorem id : IsRelocation id :=
  of_isEmpty_eq (fun _ _ => rfl) (fun _ => rfl) fun _ => rfl

/-- All ranges are moved to one place. -/
theorem const : IsRelocation fun _ => default where
  after := fun _ => rfl
  through := fun _ _ => rfl
  hull := by
    intro ranges
    cases ranges with
    | nil => rfl
    | cons range rest =>
      have present : (Hull.ofRanges (range :: rest)).range?.isSome = true :=
        Hull.isSome_range?_foldl rest (Hull.isSome_range?_add {} range)
      have stays : ∀ ranges : List Range,
          (ranges.map fun _ => default).foldl Hull.add ⟨none, some (default : Range)⟩ =
            ⟨none, some default⟩ := by
        intro ranges
        induction ranges with
        | nil => rfl
        | cons _ _ ih => exact ih
      rcases Option.isSome_iff_exists.mp present with ⟨whole, found⟩
      rw [found, Hull.ofRanges, List.map_cons, List.foldl_cons]
      exact congrArg Hull.range? (stays rest)

end Range.IsRelocation

namespace Node

mutual

/-- A node with all its ranges moved. -/
def mapRanges (move : Range → Range) : Node → Node
  | .mk content range tokens children =>
    .mk content (move range) (tokens.map (PlacedToken.mapRanges move))
      (forestMapRanges move children)

/-- The children of a node, moved. -/
def forestMapRanges (move : Range → Range) : List (Field × Node) → List (Field × Node)
  | [] => []
  | (field, child) :: rest => (field, child.mapRanges move) :: forestMapRanges move rest

end

mutual

/-- Where the tokens of a node stand does not matter once it has no places. -/
theorem unplaced_mapRanges (move : Range → Range) :
    (node : Node) → (node.mapRanges move).unplaced = node.unplaced
  | .mk _ _ tokens children => by
    rw [mapRanges, unplaced, unplaced, forestUnplaced_mapRanges move children, List.map_map]
    rfl

/-- The same of the nodes below. -/
theorem forestUnplaced_mapRanges (move : Range → Range) :
    (children : List (Field × Node)) →
      forestUnplaced (forestMapRanges move children) = forestUnplaced children
  | [] => rfl
  | (_, child) :: rest => by
    rw [forestMapRanges, forestUnplaced, forestUnplaced, unplaced_mapRanges move child,
      forestUnplaced_mapRanges move rest]

end

theorem range_mapRanges (move : Range → Range) (node : Node) :
    (node.mapRanges move).range = move node.range := by
  cases node
  rfl

end Node

/-! ## Parts -/

variable {move : Range → Range}

/-- A part and the same part in another place. -/
inductive Part.Moved (move : Range → Range) : Part → Part → Prop
  | token {token range} : Moved move (.token ⟨token, range⟩) (.token ⟨token, move range⟩)
  | child {field assembly moved} (same : moved.node = assembly.node.mapRanges move) :
      Moved move (.child field assembly) (.child field moved)
  | standIn {field assembly moved} (same : moved.node = assembly.node.mapRanges move) :
      Moved move (.standIn field assembly) (.standIn field moved)
  | gap {range} : Moved move (.gap range) (.gap (move range))
  | abandoned {assembly moved} : Moved move (.abandoned assembly) (.abandoned moved)

/-- Parts and the same parts in other places. -/
def Part.AllMoved (move : Range → Range) (parts moved : List Part) : Prop :=
  List.Forall₂ (Part.Moved move) parts moved

namespace Part.AllMoved

variable {parts moved more moreMoved : List Part}

/-- Parts are moved group by group. -/
theorem append (first : AllMoved move parts moved) (second : AllMoved move more moreMoved) :
    AllMoved move (parts ++ more) (moved ++ moreMoved) :=
  List.rel_append first second

theorem optional (token : Token) (place : Option Range) :
    AllMoved move (Part.optional token place) (Part.optional token (place.map move)) := by
  cases place with
  | none => exact .nil
  | some range => exact .cons .token .nil

/-- Moved parts have the moved ranges. -/
theorem ranges (all : AllMoved move parts moved) :
    moved.filterMap range? = (parts.filterMap range?).map move := by
  induction all with
  | nil => rfl
  | cons one _ ih =>
    cases one with
    | standIn | abandoned => exact ih
    | token | gap => exact congrArg _ ih
    | child same =>
      exact List.cons_eq_cons.mpr ⟨(congrArg _ same).trans (Node.range_mapRanges ..), ih⟩

/-- Moved parts give the moved tokens. -/
theorem tokens (all : AllMoved move parts moved) :
    moved.filterMap token? = (parts.filterMap token?).map (PlacedToken.mapRanges move) := by
  induction all with
  | nil => rfl
  | cons one _ ih =>
    cases one with
    | token => exact congrArg _ ih
    | child | standIn | gap | abandoned => exact ih

/-- Moved parts give the moved children. -/
theorem children (all : AllMoved move parts moved) :
    moved.filterMap child? = Node.forestMapRanges move (parts.filterMap child?) := by
  induction all with
  | nil => rfl
  | cons one _ ih =>
    cases one with
    | child same | standIn same =>
      exact List.cons_eq_cons.mpr ⟨congrArg _ same, ih⟩
    | token | gap | abandoned => exact ih

end Part.AllMoved

namespace Assembly

/-- A node of moved parts is the moved node of the parts. -/
theorem node_ofParts (relocates : Range.IsRelocation move) {content : Content}
    {parts moved : List Part} (all : Part.AllMoved move parts moved)
    (placed : parts.filterMap Part.range? ≠ []) :
    (ofParts content moved).node = (ofParts content parts).node.mapRanges move := by
  have present : (Hull.ofRanges (parts.filterMap Part.range?)).range?.isSome = true := by
    cases ranges : parts.filterMap Part.range? with
    | nil => exact absurd ranges placed
    | cons range rest => exact Hull.isSome_range?_foldl rest (Hull.isSome_range?_add {} range)
  rcases Option.isSome_iff_exists.mp present with ⟨whole, found⟩
  rw [ofParts, ofParts, Node.mapRanges, all.ranges, all.tokens, all.children, relocates.hull, found]
  rfl

end Assembly

/-! ## Trees -/

open Part.AllMoved (optional)

theorem ErrorNode.node_mapRanges (node : ErrorNode) :
    (node.mapRanges move).assembly.node = node.assembly.node.mapRanges move :=
  rfl

namespace Expression

mutual

/-- The node of a moved expression is its node, moved. -/
theorem node_mapRanges (relocates : Range.IsRelocation move) :
    (expression : Expression) →
      (expression.mapRanges move).assembly.node = expression.assembly.node.mapRanges move
  | .binary _ left _ right =>
    Assembly.node_ofParts relocates
      (.cons (.child (node_mapRanges relocates left)) (.cons .token
        (.cons (.child (node_mapRanges relocates right)) .nil))) nofun
  | .unary _ _ operand =>
    Assembly.node_ofParts relocates
      (.cons .token (.cons (.child (node_mapRanges relocates operand)) .nil)) nofun
  | .arrayAccess array _ index closing =>
    Assembly.node_ofParts relocates
      (.cons (.child (node_mapRanges relocates array)) (.cons .token
        (.cons (.child (node_mapRanges relocates index)) (optional .rBracket closing)))) nofun
  | .memberAccess object _ _ =>
    Assembly.node_ofParts relocates
      (.cons (.child (node_mapRanges relocates object)) (.cons .token (.cons (.child rfl) .nil)))
      nofun
  | .call function _ arguments closing =>
    Assembly.node_ofParts relocates
      (.cons (.child (node_mapRanges relocates function))
        (.cons (.child (Assembly.node_ofParts relocates
          (.cons .token ((moved_listParts relocates .arguments arguments).append
            (optional .rParen closing))) nofun)) .nil)) nofun
  | .parenthesized _ inner closing =>
    Assembly.node_ofParts relocates
      (.cons .token (.cons (.child (node_mapRanges relocates inner)) (optional .rParen closing)))
      nofun
  | .boolean _ | .number _ | .string _ | .identifier _ | .error _ => rfl
  | .arrayInitializer _ elements gap closing => by
    have places : Part.AllMoved move (gap.map Part.gap).toList
        ((gap.map move).map Part.gap).toList := by
      cases gap with
      | none => exact .nil
      | some => exact .cons .gap .nil
    exact Assembly.node_ofParts relocates
      (.cons .token (((moved_listParts relocates .elements elements).append places).append
        (optional .rBrace closing))) nofun

theorem moved_listParts (relocates : Range.IsRelocation move) (field : Field) :
    (items : List (Expression × Option Range)) →
      Part.AllMoved move (listParts field items) (listParts field (listMapRanges move items))
  | [] => .nil
  | (expression, comma) :: rest =>
    .cons (.child (node_mapRanges relocates expression))
      ((optional .comma comma).append (moved_listParts relocates field rest))

end

/-- A moved expression has the moved range. -/
theorem range_mapRanges (relocates : Range.IsRelocation move) (expression : Expression) :
    (expression.mapRanges move).range = move expression.range := by
  rw [range, toNode, node_mapRanges relocates, Node.range_mapRanges]
  rfl

end Expression

section

variable (relocates : Range.IsRelocation move)

include relocates

namespace VariableDeclaration

theorem moved_sizeParts (size : Option ArraySize) :
    Part.AllMoved move (sizeParts size) (sizeParts (size.map (ArraySize.mapRanges move))) := by
  cases size with
  | none => exact .nil
  | some size =>
    exact .cons .token (.cons (.child (size.size.node_mapRanges relocates))
      (optional .rBracket size.closing))

theorem moved_initializerParts (initializer : Option Initializer) :
    Part.AllMoved move (initializerParts initializer)
      (initializerParts (initializer.map (Initializer.mapRanges move))) := by
  cases initializer with
  | none => exact .nil
  | some initializer =>
    exact .cons .token (.cons (.child (initializer.value.node_mapRanges relocates)) .nil)

theorem node_mapRanges (declaration : VariableDeclaration) :
    (declaration.mapRanges move).assembly.node = declaration.assembly.node.mapRanges move :=
  Assembly.node_ofParts relocates
    (.cons .token (.cons (.child rfl) (.cons (.child rfl)
      (((moved_sizeParts relocates declaration.size).append
        (moved_initializerParts relocates declaration.initializer)).append
          (optional .semicolon declaration.terminator))))) nofun

end VariableDeclaration

theorem AssignmentStatement.node_mapRanges (assignment : AssignmentStatement) :
    (assignment.mapRanges move).assembly.node = assignment.assembly.node.mapRanges move :=
  Assembly.node_ofParts relocates
    (.cons (.child (assignment.left.node_mapRanges relocates))
      ((optional assignment.operator.token assignment.sign).append
        (.cons (.child (assignment.right.node_mapRanges relocates))
          (optional .semicolon assignment.terminator)))) nofun

theorem ExpressionStatement.node_mapRanges (statement : ExpressionStatement) :
    (statement.mapRanges move).assembly.node = statement.assembly.node.mapRanges move :=
  Assembly.node_ofParts relocates
    (.cons (.child (statement.expression.node_mapRanges relocates))
      (optional .semicolon statement.terminator)) nofun

theorem ReturnStatement.node_mapRanges (statement : ReturnStatement) :
    (statement.mapRanges move).assembly.node = statement.assembly.node.mapRanges move := by
  rcases statement with ⟨keyword, value, terminator⟩
  have parts : Part.AllMoved move
      (value.map fun value => Part.child .value value.assembly).toList
      ((value.map (Expression.mapRanges move)).map fun value =>
        Part.child .value value.assembly).toList := by
    cases value with
    | none => exact .nil
    | some value => exact .cons (.child (value.node_mapRanges relocates)) .nil
  exact Assembly.node_ofParts relocates
    (.cons .token (parts.append (optional .semicolon terminator))) nofun

end

mutual

theorem Block.node_mapRanges (relocates : Range.IsRelocation move) :
    (block : Block) → (block.mapRanges move).assembly.node = block.assembly.node.mapRanges move
  | .missing _ _ => rfl
  | .written _ statements closing =>
    Assembly.node_ofParts relocates
      (.cons .token ((Statement.moved_listParts relocates statements).append
        (optional .rBrace closing))) nofun

/-- The node of a moved statement is its node, moved. -/
theorem Statement.node_mapRanges (relocates : Range.IsRelocation move) :
    (statement : Statement) →
      (statement.mapRanges move).assembly.node = statement.assembly.node.mapRanges move
  | .assignmentStatement assignment => assignment.node_mapRanges relocates
  | .expressionStatement statement => statement.node_mapRanges relocates
  | .ifStatement _ condition consequence none =>
    Assembly.node_ofParts relocates
      (.append (.append
        (.cons .token (.cons (.child (condition.node_mapRanges relocates)) .nil))
        (Branch.moved_parts relocates .consequence consequence)) .nil) nofun
  | .ifStatement _ condition consequence (some (_, alternative)) =>
    Assembly.node_ofParts relocates
      (.append (.append
        (.cons .token (.cons (.child (condition.node_mapRanges relocates)) .nil))
        (Branch.moved_parts relocates .consequence consequence))
        (.cons .token (Branch.moved_parts relocates .alternative alternative))) nofun
  | .returnStatement statement => statement.node_mapRanges relocates
  | .variableDeclaration declaration => declaration.node_mapRanges relocates
  | .block block => Block.node_mapRanges relocates block
  | .error node => node.node_mapRanges

theorem Branch.moved_parts (relocates : Range.IsRelocation move) (field : Field) :
    (branch : Branch) →
      Part.AllMoved move (branch.parts field) ((branch.mapRanges move).parts field)
  | .missing _ => .cons (.standIn rfl) .nil
  | .written statement semicolon =>
    .cons (.child (Statement.node_mapRanges relocates statement)) (optional .semicolon semicolon)

theorem Statement.moved_listParts (relocates : Range.IsRelocation move) :
    (statements : List Statement) →
      Part.AllMoved move (Statement.listParts statements)
        (Statement.listParts (Statement.listMapRanges move statements))
  | [] => .nil
  | statement :: rest =>
    .cons (.child (Statement.node_mapRanges relocates statement))
      (Statement.moved_listParts relocates rest)

end

section

variable (relocates : Range.IsRelocation move)

include relocates

/-- A body stands for a block, or for one that was never looked for, wherever it is. -/
theorem Block.moved_part (block : Block) :
    Part.Moved move block.part (block.mapRanges move).part := by
  have node := block.node_mapRanges relocates
  rcases block with ⟨anchor, _ | _⟩ | _
  · exact .standIn node
  · exact .child node
  · exact .child node

theorem InstanceDeclaration.node_mapRanges (declaration : InstanceDeclaration) :
    (declaration.mapRanges move).assembly.node = declaration.assembly.node.mapRanges move := by
  rcases declaration with ⟨keyword, name, parent, body, semicolon⟩
  have parentParts : Part.AllMoved move (parentParts parent)
      (parentParts (parent.map (ParentClause.mapRanges move))) := by
    cases parent with
    | none => exact .nil
    | some parent => exact .cons .token (.cons (.child rfl) (optional .rParen parent.closing))
  have bodyParts : Part.AllMoved move
      (body.map fun body => Part.child .body body.assembly).toList
      ((body.map (Block.mapRanges move)).map fun body =>
        Part.child .body body.assembly).toList := by
    cases body with
    | none => exact .nil
    | some body => exact .cons (.child (body.node_mapRanges relocates)) .nil
  exact Assembly.node_ofParts relocates
    (.append (.append (.cons .token (.cons (.child rfl) parentParts)) bodyParts)
      (optional .semicolon semicolon)) nofun

theorem PrototypeDeclaration.node_mapRanges (declaration : PrototypeDeclaration) :
    (declaration.mapRanges move).assembly.node = declaration.assembly.node.mapRanges move :=
  Assembly.node_ofParts relocates
    (.append (.cons .token (.cons (.child rfl) (optional .lParen declaration.opening)))
      (.cons (.child rfl) ((optional .rParen declaration.closing).append
        (.cons (declaration.body.moved_part relocates)
          (optional .semicolon declaration.semicolon))))) nofun

theorem Parameter.node_mapRanges (parameter : Parameter) :
    (parameter.mapRanges move).assembly.node = parameter.assembly.node.mapRanges move := by
  rcases parameter with ⟨_ | ⟨kind, range⟩, type, name⟩
  · exact Assembly.node_ofParts relocates (.cons (.child rfl) (.cons (.child rfl) .nil)) nofun
  · exact Assembly.node_ofParts relocates
      (.cons .token (.cons (.child rfl) (.cons (.child rfl) .nil))) nofun

namespace ParameterList

theorem moved_parts (items : List (Parameter × Option Range)) :
    Part.AllMoved move (parts items) (parts (Parameter.listMapRanges move items)) := by
  induction items with
  | nil => exact .nil
  | cons item rest ih =>
    exact .cons (.child (item.1.node_mapRanges relocates))
      ((optional .comma item.2).append ih)

theorem node_mapRanges (parameters : ParameterList) :
    (parameters.mapRanges move).assembly.node = parameters.assembly.node.mapRanges move := by
  cases parameters with
  | missing => rfl
  | written opening parameters closing =>
    exact Assembly.node_ofParts relocates
      (.cons .token ((moved_parts relocates parameters).append (optional .rParen closing))) nofun

end ParameterList

theorem FunctionDeclaration.node_mapRanges (declaration : FunctionDeclaration) :
    (declaration.mapRanges move).assembly.node = declaration.assembly.node.mapRanges move :=
  Assembly.node_ofParts relocates
    (.cons .token (.cons (.child rfl) (.cons (.child rfl)
      (.cons (.child (declaration.parameters.node_mapRanges relocates))
        (.cons (declaration.body.moved_part relocates)
          (optional .semicolon declaration.semicolon)))))) nofun

theorem ClassMember.node_mapRanges (member : ClassMember) :
    (member.mapRanges move).assembly.node = member.assembly.node.mapRanges move := by
  cases member with
  | variableDeclaration declaration => exact declaration.node_mapRanges relocates
  | assignmentStatement assignment => exact assignment.node_mapRanges relocates
  | error node => exact node.node_mapRanges

namespace ClassBody

theorem moved_parts (items : List ClassItem) :
    Part.AllMoved move (items.map ClassItem.part)
      ((items.map (ClassItem.mapRanges move)).map ClassItem.part) := by
  induction items with
  | nil => exact .nil
  | cons item rest ih =>
    cases item with
    | member content => exact .cons (.child (content.node_mapRanges relocates)) ih
    | abandoned target => exact .cons .abandoned ih

theorem node_mapRanges (body : ClassBody) :
    (body.mapRanges move).assembly.node = body.assembly.node.mapRanges move := by
  cases body with
  | missing => rfl
  | written opening items closing =>
    exact Assembly.node_ofParts relocates
      (.cons .token ((moved_parts relocates items).append (optional .rBrace closing))) nofun

end ClassBody

theorem ClassDeclaration.node_mapRanges (declaration : ClassDeclaration) :
    (declaration.mapRanges move).assembly.node = declaration.assembly.node.mapRanges move :=
  Assembly.node_ofParts relocates
    (.cons .token (.cons (.child rfl) (.cons
      (.child (declaration.body.node_mapRanges relocates))
      (optional .semicolon declaration.semicolon)))) nofun

/-- The node of a moved declaration is its node, moved. -/
theorem Declaration.toNode_mapRanges (declaration : Declaration) :
    (declaration.mapRanges move).toNode = declaration.toNode.mapRanges move := by
  cases declaration with
  | instanceDeclaration declaration => exact declaration.node_mapRanges relocates
  | prototypeDeclaration declaration => exact declaration.node_mapRanges relocates
  | functionDeclaration declaration => exact declaration.node_mapRanges relocates
  | variableDeclaration declaration => exact declaration.node_mapRanges relocates
  | classDeclaration declaration => exact declaration.node_mapRanges relocates
  | error node => exact node.node_mapRanges

/-- A snapshot without ranges does not tell where the declarations of a program stand. -/
theorem Program.snapshot_mapRanges (program : Program) (range : Range) :
    Snapshot.ofNode false
        (Program.mk (program.declarations.map (Declaration.mapRanges move)) range).toNode =
      Snapshot.ofNode false program.toNode := by
  have children : ∀ declarations : List Declaration,
      Node.forestUnplaced ((declarations.map (Declaration.mapRanges move)).map
        fun declaration => (Field.declarations, declaration.toNode)) =
      Node.forestUnplaced (declarations.map
        fun declaration => (Field.declarations, declaration.toNode)) := by
    intro declarations
    induction declarations with
    | nil => rfl
    | cons declaration rest ih =>
      rw [List.map_cons, List.map_cons, List.map_cons, Node.forestUnplaced_cons,
        Node.forestUnplaced_cons, ih, declaration.toNode_mapRanges relocates,
        Node.unplaced_mapRanges]
  apply Snapshot.ofNode_congr
  rw [Program.toNode, Program.toNode, Program.assembly, Program.assembly, Node.unplaced,
    Node.unplaced, children]

end

end ScriptTree
