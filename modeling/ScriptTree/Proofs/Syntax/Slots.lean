import ScriptTree.Node.Assembly

/-!
# The written form of a tree

Every production writes its node as a row of slots, one for each token, in the
order of the source.  A slot that the production requires is always there, even
where the source lacks its token and the slot stays empty; a slot that the
production merely allows is there only where the node owns a token for it.

The filled slots are the tokens that the tree accounts for.  All slots together,
filled or not, are what the tree would be written as.
-/

namespace ScriptTree

/-- A token in the written form of a node, with its text where the tree keeps it and its place
where the source has it. -/
structure Slot where
  token : Token
  text : Option String := none
  place : Option Range
deriving DecidableEq

namespace Slot

/-- The token in the source, if it is there. -/
def placed? (slot : Slot) : Option PlacedToken :=
  slot.place.map fun range => ⟨slot.token, range⟩

/-- A token that the production requires. -/
def required (token : Token) (place : Option Range) : List Slot :=
  [{ token, place }]

/-- A token that the production allows. -/
def allowed (token : Token) : Option Range → List Slot
  | none => []
  | some range => required token (some range)

/-- The comma after an item of a list.  Between two items it is required. -/
def comma (isLast : Bool) (place : Option Range) : List Slot :=
  if isLast then allowed .comma place else required .comma place

/-- A comma that is there is written, whatever follows it. -/
theorem comma_some (isLast : Bool) (range : Range) :
    comma isLast (some range) = required .comma (some range) := by
  cases isLast <;> rfl

/-- The tokens of the filled slots. -/
def placed (slots : List Slot) : List PlacedToken :=
  slots.filterMap placed?

end Slot

open Slot

/-- A name is one slot, which stays empty if the name is missing. -/
def Identifier.slots (identifier : Identifier) : List Slot :=
  [{ token := .identifier
     text := some identifier.name
     place := if identifier.isMissing then none else some identifier.range }]

/-- A builtin type is a keyword, and a class is named by an identifier. -/
def TypeReference.slots (reference : TypeReference) : List Slot :=
  match reference.type with
  | .void => required .kwVoid (some reference.range)
  | .int => required .kwInt (some reference.range)
  | .float => required .kwFloat (some reference.range)
  | .string => required .kwString (some reference.range)
  | .named name => [{ token := .identifier, text := some name, place := some reference.range }]
  | .missing => [{ token := .identifier, place := none }]

/-- An error node stands for the tokens it skips, whatever they are. -/
def ErrorNode.slots (node : ErrorNode) : List Slot :=
  node.skipped.map fun skipped => { token := skipped.token, place := some skipped.range }

namespace Expression

mutual

/-- An expression is written operand by operand, with the brackets around what they enclose. -/
@[simp]
def slots : Expression → List Slot
  | .binary operator left sign right =>
    left.slots ++ required operator.token (some sign) ++ right.slots
  | .unary operator sign operand => required operator.token (some sign) ++ operand.slots
  | .arrayAccess array opening index closing =>
    array.slots ++ required .lBracket (some opening) ++ index.slots ++ required .rBracket closing
  | .memberAccess object dot member =>
    object.slots ++ required .dot (some dot) ++ member.slots
  | .call function opening arguments closing =>
    function.slots ++ required .lParen (some opening) ++ listSlots arguments ++
      required .rParen closing
  | .parenthesized opening inner closing =>
    required .lParen (some opening) ++ inner.slots ++ required .rParen closing
  | .boolean literal =>
    required (if literal.value then .kwTrue else .kwFalse) (some literal.range)
  | .number literal =>
    [{ token := .number, text := some literal.text, place := some literal.range }]
  | .string literal =>
    [{ token := .string, text := some literal.raw, place := some literal.range }]
  | .identifier name => name.slots
  | .arrayInitializer opening elements _ closing =>
    required .lBrace (some opening) ++ listSlots elements ++ required .rBrace closing
  | .error node => node.slots

/-- Expressions, each with the comma after it. -/
@[simp]
def listSlots : List (Expression × Option Range) → List Slot
  | [] => []
  | (expression, place) :: rest =>
    expression.slots ++ comma rest.isEmpty place ++ listSlots rest

end

end Expression

/-- The size of an array is written between brackets. -/
@[simp]
def ArraySize.slots (size : ArraySize) : List Slot :=
  required .lBracket (some size.opening) ++ size.size.slots ++ required .rBracket size.closing

/-- A value is written behind an equals sign. -/
@[simp]
def Initializer.slots (initializer : Initializer) : List Slot :=
  required .assign (some initializer.sign) ++ initializer.value.slots

/-- A variable is written with the semicolon after it. -/
@[simp]
def VariableDeclaration.slots (declaration : VariableDeclaration) : List Slot :=
  required declaration.kind.token (some declaration.keyword) ++ declaration.type.slots ++
    declaration.name.slots ++ (declaration.size.elim [] ArraySize.slots) ++
    (declaration.initializer.elim [] Initializer.slots) ++
    required .semicolon declaration.terminator

/-- An assignment is written with the semicolon after it. -/
@[simp]
def AssignmentStatement.slots (assignment : AssignmentStatement) : List Slot :=
  assignment.left.slots ++ required assignment.operator.token assignment.sign ++
    assignment.right.slots ++ required .semicolon assignment.terminator

/-- An expression that makes a statement is written with the semicolon after it. -/
@[simp]
def ExpressionStatement.slots (statement : ExpressionStatement) : List Slot :=
  statement.expression.slots ++ required .semicolon statement.terminator

/-- A `return` is written with its value, if it has one, and a semicolon. -/
@[simp]
def ReturnStatement.slots (statement : ReturnStatement) : List Slot :=
  required .kwReturn (some statement.keyword) ++ (statement.value.elim [] Expression.slots) ++
    required .semicolon statement.terminator

mutual

/-- Where a block is missing, its braces are. -/
@[simp]
def Block.slots : Block → List Slot
  | .missing _ _ => required .lBrace none ++ required .rBrace none
  | .written opening statements closing =>
    required .lBrace (some opening) ++ Statement.listSlots statements ++
      required .rBrace closing

/-- A statement is written in the order of its parts.  The parentheses of a condition belong to its
expression. -/
@[simp]
def Statement.slots : Statement → List Slot
  | .assignmentStatement assignment => assignment.slots
  | .expressionStatement statement => statement.slots
  | .ifStatement keyword condition consequence none =>
    required .kwIf (some keyword) ++ condition.slots ++ consequence.slots
  | .ifStatement keyword condition consequence (some (elseKeyword, alternative)) =>
    required .kwIf (some keyword) ++ condition.slots ++ consequence.slots ++
      required .kwElse (some elseKeyword) ++ alternative.slots
  | .returnStatement statement => statement.slots
  | .variableDeclaration declaration => declaration.slots
  | .block block => block.slots
  | .error node => node.slots

/-- A branch that is missing is written as nothing.  A semicolon may follow one. -/
@[simp]
def Branch.slots : Branch → List Slot
  | .missing _ => []
  | .written statement semicolon => statement.slots ++ allowed .semicolon semicolon

/-- Statements are written one after the other. -/
@[simp]
def Statement.listSlots : List Statement → List Slot
  | [] => []
  | statement :: rest => statement.slots ++ Statement.listSlots rest

end

/-- A parent is written between parentheses. -/
@[simp]
def ParentClause.slots (parent : ParentClause) : List Slot :=
  required .lParen (some parent.opening) ++ parent.name.slots ++ required .rParen parent.closing

/-- The body of an instance, or else the semicolon of a forward declaration. -/
def InstanceDeclaration.bodySlots : Option Block → Option Range → List Slot
  | some body, semicolon => body.slots ++ allowed .semicolon semicolon
  | none, semicolon => required .semicolon semicolon

/-- An instance is written with a body, or else with the semicolon of a forward declaration. -/
@[simp]
def InstanceDeclaration.slots (declaration : InstanceDeclaration) : List Slot :=
  required .kwInstance (some declaration.keyword) ++ declaration.name.slots ++
    (declaration.parent.elim [] ParentClause.slots) ++
    bodySlots declaration.body declaration.semicolon

/-- A prototype is written with the parentheses around its parent. -/
@[simp]
def PrototypeDeclaration.slots (declaration : PrototypeDeclaration) : List Slot :=
  required .kwPrototype (some declaration.keyword) ++ declaration.name.slots ++
    required .lParen declaration.opening ++ declaration.parent.slots ++
    required .rParen declaration.closing ++ declaration.body.slots ++
    allowed .semicolon declaration.semicolon

/-- A parameter is written as its keyword, if it has one, its type and its name. -/
@[simp]
def Parameter.slots (parameter : Parameter) : List Slot :=
  (parameter.qualifier.elim [] fun (kind, range) => required kind.token (some range)) ++
    parameter.type.slots ++ parameter.name.slots

namespace ParameterList

/-- Parameters, each with the comma after it. -/
@[simp]
def itemSlots : List (Parameter × Option Range) → List Slot
  | [] => []
  | (parameter, place) :: rest =>
    parameter.slots ++ comma rest.isEmpty place ++ itemSlots rest

/-- A parameter list is written between parentheses, which it requires even where it is missing. -/
def slots : ParameterList → List Slot
  | .missing _ => required .lParen none ++ required .rParen none
  | .written opening parameters closing =>
    required .lParen (some opening) ++ itemSlots parameters ++ required .rParen closing

end ParameterList

/-- A function is written from its keyword to its body. -/
@[simp]
def FunctionDeclaration.slots (declaration : FunctionDeclaration) : List Slot :=
  required .kwFunc (some declaration.keyword) ++ declaration.returnType.slots ++
    declaration.name.slots ++ declaration.parameters.slots ++ declaration.body.slots ++
    allowed .semicolon declaration.semicolon

/-- A class member is written as the declaration or the statement it is. -/
def ClassMember.slots : ClassMember → List Slot
  | .variableDeclaration declaration => declaration.slots
  | .assignmentStatement assignment => assignment.slots
  | .error node => node.slots

/-- An abandoned target was read like any other, although no node holds it. -/
def ClassItem.slots : ClassItem → List Slot
  | .member content => content.slots
  | .abandoned target => target.slots

/-- The body of a class is written between braces, which it requires even where it is missing. -/
def ClassBody.slots : ClassBody → List Slot
  | .missing _ => required .lBrace none ++ required .rBrace none
  | .written opening items closing =>
    required .lBrace (some opening) ++ items.flatMap ClassItem.slots ++ required .rBrace closing

/-- A class is written from its keyword to its body. -/
@[simp]
def ClassDeclaration.slots (declaration : ClassDeclaration) : List Slot :=
  required .kwClass (some declaration.keyword) ++ declaration.name.slots ++
    declaration.body.slots ++ allowed .semicolon declaration.semicolon

/-- A declaration is written as what it declares. -/
def Declaration.slots : Declaration → List Slot
  | .instanceDeclaration declaration => declaration.slots
  | .prototypeDeclaration declaration => declaration.slots
  | .functionDeclaration declaration => declaration.slots
  | .variableDeclaration declaration => declaration.slots
  | .classDeclaration declaration => declaration.slots
  | .error node => node.slots

/-- A program is written declaration by declaration. -/
@[simp]
def Program.slots (program : Program) : List Slot :=
  program.declarations.flatMap Declaration.slots

/-! ## Abandoned targets -/

/-- The expression that was read and dropped at a place in a class. -/
def ClassItem.abandoned? : ClassItem → Option Expression
  | .member _ => none
  | .abandoned target => some target

/-- The targets that a class body gave up. -/
def ClassBody.abandoned : ClassBody → List Expression
  | .missing _ => []
  | .written _ items _ => items.filterMap ClassItem.abandoned?

/-- The expressions that were read and dropped in a declaration. -/
def Declaration.abandoned : Declaration → List Expression
  | .classDeclaration declaration => declaration.body.abandoned
  | _ => []

/-- The expressions that were read and dropped in a program. -/
def Program.abandoned (program : Program) : List Expression :=
  program.declarations.flatMap Declaration.abandoned

/-! ## Filled slots -/

namespace Slot

@[simp]
theorem placed_nil : placed [] = [] :=
  rfl

/-- The tokens placed in two rows of slots follow each other. -/
@[simp]
theorem placed_append (first second : List Slot) :
    placed (first ++ second) = placed first ++ placed second :=
  List.filterMap_append

@[simp]
theorem placed_required_none (token : Token) : placed (required token none) = [] :=
  rfl

@[simp]
theorem placed_required_some (token : Token) (range : Range) :
    placed (required token (some range)) = [⟨token, range⟩] :=
  rfl

@[simp]
theorem placed_allowed (token : Token) (place : Option Range) :
    placed (allowed token place) = placed (required token place) := by
  cases place <;> rfl

@[simp]
theorem placed_comma (isLast : Bool) (place : Option Range) :
    placed (comma isLast place) = placed (required .comma place) := by
  cases isLast
  · rfl
  · exact placed_allowed .comma place

end Slot

@[simp]
theorem Identifier.placed_slots_missing (anchor : Range) :
    placed (Identifier.missing anchor).slots = [] :=
  rfl

/-- An identifier with a name places its token. -/
theorem Identifier.placed_slots_of_nonempty {name : String} (nonempty : name.isEmpty = false)
    (range : Range) : placed (Identifier.mk name range).slots = [⟨.identifier, range⟩] := by
  simp [slots, isMissing, nonempty, placed, placed?]

@[simp]
theorem TypeReference.placed_slots_missing (anchor : Range) :
    placed (TypeReference.missing anchor).slots = [] :=
  rfl

/-- An error node places the tokens it skipped. -/
@[simp]
theorem ErrorNode.placed_slots (node : ErrorNode) : placed node.slots = node.skipped := by
  simp [slots, placed, List.filterMap_map, Function.comp_def, placed?]

/-- The stand-in for an absent expression fills no slot. -/
theorem Expression.placed_slots_of_isMissing {expression : Expression}
    (missing : expression.isMissing = true) : placed expression.slots = [] := by
  cases expression with
  | error node =>
    rw [Expression.slots, ErrorNode.placed_slots]
    exact List.isEmpty_iff.mp missing
  | _ => cases missing

@[simp]
theorem Expression.placed_slots_missing (anchor : Range) :
    placed (Expression.missing anchor).slots = [] :=
  placed_slots_of_isMissing rfl

@[simp]
theorem Statement.listSlots_append (first second : List Statement) :
    listSlots (first ++ second) = listSlots first ++ listSlots second := by
  induction first with
  | nil => rfl
  | cons statement rest ih => simp [listSlots, ih]

end ScriptTree
