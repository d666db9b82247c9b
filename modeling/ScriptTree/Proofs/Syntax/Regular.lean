import ScriptTree.Proofs.Syntax.Complete

/-!
# What a complete tree is written with

Every slot of a complete tree says what it is written as.  Names, numbers and
strings come with their texts, and the text of every other token is fixed.
-/

namespace ScriptTree

/-- Tokens with one text for all places. -/
def Token.isFixed (token : Token) : Bool :=
  token.spelling?.isSome && !token.isError

/-- A token with a fixed spelling needs no text. -/
theorem Token.bearsText_of_isFixed {token : Token} (fixed : token.isFixed = true) :
    token.bearsText = false := by
  revert fixed
  cases token <;> decide

@[simp]
theorem BinaryOperator.isFixed_token (operator : BinaryOperator) :
    operator.token.isFixed = true := by
  cases operator <;> rfl

@[simp]
theorem UnaryOperator.isFixed_token (operator : UnaryOperator) :
    operator.token.isFixed = true := by
  cases operator <;> rfl

@[simp]
theorem AssignmentOperator.isFixed_token (operator : AssignmentOperator) :
    operator.token.isFixed = true := by
  cases operator <;> rfl

@[simp]
theorem VariableKind.isFixed_token (kind : VariableKind) : kind.token.isFixed = true := by
  cases kind <;> rfl

namespace Slot

/-- The slot has a text exactly where its token needs one. -/
def isRegular (slot : Slot) : Bool :=
  match slot.text with
  | none => slot.token.isFixed
  | some _ => slot.token.bearsText

/-- All slots of a row are regular. -/
def areRegular (slots : List Slot) : Bool :=
  slots.all isRegular

@[simp]
theorem areRegular_nil : areRegular [] = true :=
  rfl

/-- Two rows of slots are regular where each is. -/
@[simp]
theorem areRegular_append (first second : List Slot) :
    areRegular (first ++ second) = (areRegular first && areRegular second) :=
  List.all_append

/-- A required token needs a fixed spelling, as its slot has no text. -/
@[simp]
theorem areRegular_required (token : Token) (place : Option Range) :
    areRegular (required token place) = token.isFixed :=
  Bool.and_true _

/-- An allowed token is regular with a fixed spelling, present or not. -/
@[simp]
theorem areRegular_allowed {token : Token} (fixed : token.isFixed = true)
    (place : Option Range) : areRegular (allowed token place) = true := by
  cases place with
  | none => rfl
  | some range => rw [allowed, areRegular_required, fixed]

@[simp]
theorem areRegular_comma (isLast : Bool) (place : Option Range) :
    areRegular (comma isLast place) = true := by
  cases isLast with
  | false => exact areRegular_required .comma place
  | true => exact areRegular_allowed rfl place

/-- Slots made item by item are regular where those of each item are. -/
theorem areRegular_flatMap {α : Type} {slots : α → List Slot} {items : List α}
    (regular : ∀ item ∈ items, areRegular (slots item) = true) :
    areRegular (items.flatMap slots) = true := by
  induction items with
  | nil => rfl
  | cons item rest ih =>
    rw [List.flatMap_cons, areRegular_append, regular item List.mem_cons_self,
      ih fun other member => regular other (List.mem_cons_of_mem item member)]
    rfl

end Slot

open Slot

@[simp]
theorem Identifier.areRegular_slots (identifier : Identifier) :
    areRegular identifier.slots = true :=
  rfl

theorem TypeReference.areRegular_slots {reference : TypeReference}
    (complete : reference.isComplete = true) : areRegular reference.slots = true := by
  rcases reference with ⟨type, range⟩
  cases type with
  | missing => cases complete
  | _ => rfl

namespace Expression

mutual

/-- A complete expression has regular slots. -/
theorem areRegular_slots {expression : Expression} (complete : expression.isComplete = true) :
    areRegular expression.slots = true := by
  match expression with
  | .binary operator left sign right =>
    simp only [isComplete, Bool.and_eq_true] at complete
    simp [areRegular_slots complete.1, areRegular_slots complete.2]
  | .unary operator sign operand =>
    rw [isComplete] at complete
    simp [areRegular_slots complete]
  | .arrayAccess array opening index closing =>
    simp only [isComplete, Bool.and_eq_true] at complete
    simp only [slots, areRegular_append, areRegular_slots complete.1.1,
      areRegular_slots complete.1.2]
    rfl
  | .memberAccess object dot member =>
    simp only [isComplete, Bool.and_eq_true] at complete
    simp only [slots, areRegular_append, areRegular_slots complete.1]
    rfl
  | .call function opening items closing =>
    simp only [isComplete, Bool.and_eq_true] at complete
    simp only [slots, areRegular_append, areRegular_slots complete.1.1.1,
      areRegular_listSlots complete.1.1.2]
    rfl
  | .parenthesized opening inner closing =>
    simp only [isComplete, Bool.and_eq_true] at complete
    simp only [slots, areRegular_append, areRegular_slots complete.1]
    rfl
  | .boolean literal =>
    rcases literal with ⟨value, range⟩
    rw [slots]
    cases value <;> rfl
  | .number _ | .string _ | .identifier _ =>
    rw [slots]
    rfl
  | .arrayInitializer _ _ _ _ | .error _ => simp [isComplete] at complete

/-- Complete expressions in a list have regular slots. -/
theorem areRegular_listSlots {items : List (Expression × Option Range)}
    (complete : areComplete items = true) : areRegular (listSlots items) = true := by
  match items with
  | [] =>
    rw [listSlots]
    rfl
  | (expression, place) :: rest =>
    simp only [areComplete, Bool.and_eq_true] at complete
    simp [areRegular_slots complete.1.1, areRegular_listSlots complete.2]

end

end Expression

/-- A complete value of a variable has regular slots, array initializer or not. -/
theorem Expression.areRegular_slots_value {value : Expression}
    (complete : value.isCompleteValue = true) : areRegular value.slots = true := by
  by_cases plain : value.isComplete = true
  · exact areRegular_slots plain
  · cases value with
    | arrayInitializer opening elements gap closing =>
      rw [isCompleteValue_arrayInitializer] at complete
      simp only [Bool.and_eq_true] at complete
      simp only [slots, areRegular_append, areRegular_listSlots complete.1.1.2]
      rfl
    | _ => exact absurd complete plain

/-- What may be absent is regular where it is so when present. -/
theorem areRegular_elim {α : Type} {slots : α → List Slot} {part : Option α}
    (regular : ∀ value ∈ part, areRegular (slots value) = true) :
    areRegular (part.elim [] slots) = true := by
  cases part with
  | none => rfl
  | some value => exact regular value rfl

/-- A complete variable declaration has regular slots. -/
theorem VariableDeclaration.areRegular_slots {declaration : VariableDeclaration}
    (complete : declaration.isComplete = true) : areRegular declaration.slots = true := by
  simp only [isComplete, Bool.and_eq_true] at complete
  rcases complete with ⟨⟨⟨⟨completeType, -⟩, completeSize⟩, completeInitializer⟩, -⟩
  have regularSize : areRegular (declaration.size.elim [] ArraySize.slots) = true := by
    apply areRegular_elim
    intro size found
    have whole := (Option.all_eq_true ..).mp completeSize size found
    rw [ArraySize.isComplete, Bool.and_eq_true] at whole
    simp only [ArraySize.slots, areRegular_append, Expression.areRegular_slots whole.1]
    rfl
  have regularInitializer :
      areRegular (declaration.initializer.elim [] Initializer.slots) = true := by
    apply areRegular_elim
    intro initializer found
    have whole := (Option.all_eq_true ..).mp completeInitializer initializer found
    simp only [Initializer.slots, areRegular_append, Expression.areRegular_slots_value whole]
    rfl
  simp only [slots, areRegular_append, areRegular_required, VariableKind.isFixed_token,
    TypeReference.areRegular_slots completeType, Identifier.areRegular_slots, regularSize,
    regularInitializer]
  rfl

theorem AssignmentStatement.areRegular_slots {assignment : AssignmentStatement}
    (complete : assignment.isComplete = true) : areRegular assignment.slots = true := by
  simp only [isComplete, Bool.and_eq_true] at complete
  simp only [slots, areRegular_append, areRegular_required, AssignmentOperator.isFixed_token,
    Expression.areRegular_slots complete.1.1.1.1, Expression.areRegular_slots complete.1.2]
  rfl

theorem ReturnStatement.areRegular_slots {statement : ReturnStatement}
    (complete : statement.isComplete = true) : areRegular statement.slots = true := by
  rw [isComplete, Bool.and_eq_true] at complete
  have regularValue : areRegular (statement.value.elim [] Expression.slots) = true :=
    areRegular_elim fun value found =>
      Expression.areRegular_slots ((Option.all_eq_true ..).mp complete.1 value found)
  simp only [slots, areRegular_append, regularValue]
  rfl

/-! ## Statements and blocks -/

mutual

theorem Block.areRegular_slots {block : Block} (complete : block.isComplete = true) :
    areRegular block.slots = true := by
  match block with
  | .missing _ _ => simp [Block.isComplete] at complete
  | .written opening statements closing =>
    rw [Block.isComplete, Bool.and_eq_true] at complete
    simp only [Block.slots, areRegular_append, Statement.areRegular_listSlots complete.1]
    rfl

/-- A complete statement has regular slots. -/
theorem Statement.areRegular_slots {statement : Statement}
    (complete : statement.isComplete = true) : areRegular statement.slots = true := by
  match statement with
  | .assignmentStatement assignment =>
    rw [Statement.isComplete] at complete
    rw [Statement.slots, AssignmentStatement.areRegular_slots complete]
  | .expressionStatement inner =>
    simp only [Statement.isComplete, ExpressionStatement.isComplete, Bool.and_eq_true] at complete
    simp only [Statement.slots, ExpressionStatement.slots, areRegular_append,
      Expression.areRegular_slots complete.1]
    rfl
  | .ifStatement _ condition consequence none =>
    simp only [Statement.isComplete, Bool.and_eq_true] at complete
    simp only [Statement.slots, areRegular_append, Expression.areRegular_slots complete.1.1,
      Branch.areRegular_slots complete.2]
    rfl
  | .ifStatement _ condition consequence (some (_, alternative)) =>
    simp only [Statement.isComplete, Bool.and_eq_true] at complete
    simp only [Statement.slots, areRegular_append, Expression.areRegular_slots complete.1.1.1,
      Branch.areRegular_slots complete.1.2, Branch.areRegular_slots complete.2]
    rfl
  | .returnStatement inner =>
    rw [Statement.isComplete] at complete
    rw [Statement.slots, ReturnStatement.areRegular_slots complete]
  | .variableDeclaration declaration =>
    rw [Statement.isComplete] at complete
    rw [Statement.slots, VariableDeclaration.areRegular_slots complete]
  | .block inner =>
    rw [Statement.isComplete] at complete
    rw [Statement.slots, Block.areRegular_slots complete]
  | .error _ => simp [Statement.isComplete] at complete

theorem Branch.areRegular_slots {branch : Branch} (complete : branch.isComplete = true) :
    areRegular branch.slots = true := by
  match branch with
  | .missing _ => simp [Branch.isComplete] at complete
  | .written statement semicolon =>
    rw [Branch.isComplete, Bool.and_eq_true] at complete
    rw [Branch.slots, areRegular_append, Statement.areRegular_slots complete.1,
      areRegular_allowed rfl]
    rfl

theorem Statement.areRegular_listSlots {statements : List Statement}
    (complete : Statement.areComplete statements = true) :
    areRegular (Statement.listSlots statements) = true := by
  match statements with
  | [] =>
    rw [Statement.listSlots]
    rfl
  | statement :: rest =>
    rw [Statement.areComplete, Bool.and_eq_true] at complete
    rw [Statement.listSlots, areRegular_append, Statement.areRegular_slots complete.1,
      Statement.areRegular_listSlots complete.2]
    rfl

end

/-! ## Declarations -/

theorem InstanceDeclaration.areRegular_slots {declaration : InstanceDeclaration}
    (complete : declaration.isComplete = true) : areRegular declaration.slots = true := by
  rcases declaration with ⟨keyword, name, parent, body, semicolon⟩
  rw [isComplete, Bool.and_eq_true, Bool.and_eq_true] at complete
  have regularParent : areRegular (parent.elim [] ParentClause.slots) = true :=
    areRegular_elim fun _ _ => rfl
  have regularBody : areRegular (bodySlots body semicolon) = true := by
    cases body with
    | none => rfl
    | some body =>
      rw [bodySlots, areRegular_append, Block.areRegular_slots complete.2, areRegular_allowed rfl]
      rfl
  simp only [slots, areRegular_append, regularParent, regularBody]
  rfl

theorem PrototypeDeclaration.areRegular_slots {declaration : PrototypeDeclaration}
    (complete : declaration.isComplete = true) : areRegular declaration.slots = true := by
  simp only [isComplete, Bool.and_eq_true] at complete
  simp only [slots, areRegular_append, Block.areRegular_slots complete.2,
    areRegular_allowed (rfl : Token.isFixed .semicolon = true)]
  rfl

theorem Parameter.areRegular_slots {parameter : Parameter}
    (complete : parameter.isComplete = true) : areRegular parameter.slots = true := by
  rw [isComplete, Bool.and_eq_true] at complete
  rw [slots, areRegular_append, areRegular_append, TypeReference.areRegular_slots complete.1,
    areRegular_elim]
  · rfl
  · intro qualifier _
    rw [areRegular_required, VariableKind.isFixed_token]

theorem ParameterList.areRegular_itemSlots {items : List (Parameter × Option Range)}
    (complete : areComplete items = true) : areRegular (itemSlots items) = true := by
  induction items with
  | nil => rfl
  | cons item rest ih =>
    rcases item with ⟨parameter, place⟩
    rw [areComplete, Bool.and_eq_true, Bool.and_eq_true] at complete
    rw [itemSlots, areRegular_append, areRegular_append, Parameter.areRegular_slots complete.1.1,
      areRegular_comma, ih complete.2]
    rfl

theorem FunctionDeclaration.areRegular_slots {declaration : FunctionDeclaration}
    (complete : declaration.isComplete = true) : areRegular declaration.slots = true := by
  simp only [isComplete, Bool.and_eq_true] at complete
  have regularParameters : areRegular declaration.parameters.slots = true := by
    cases found : declaration.parameters with
    | missing => rfl
    | written opening items closing =>
      have completeItems := complete.1.2
      simp only [found, ParameterList.isComplete, Bool.and_eq_true] at completeItems
      simp only [ParameterList.slots, areRegular_append,
        ParameterList.areRegular_itemSlots completeItems.1.1]
      rfl
  simp only [slots, areRegular_append, TypeReference.areRegular_slots complete.1.1.1,
    regularParameters, Block.areRegular_slots complete.2,
    areRegular_allowed (rfl : Token.isFixed .semicolon = true)]
  rfl

theorem ClassItem.areRegular_slots {item : ClassItem} (complete : item.isComplete = true) :
    areRegular item.slots = true := by
  match item with
  | .member (.variableDeclaration _) => exact VariableDeclaration.areRegular_slots complete
  | .member (.assignmentStatement _) => exact AssignmentStatement.areRegular_slots complete
  | .member (.error _) | .abandoned _ => cases complete

theorem ClassDeclaration.areRegular_slots {declaration : ClassDeclaration}
    (complete : declaration.isComplete = true) : areRegular declaration.slots = true := by
  rw [isComplete, Bool.and_eq_true] at complete
  have regularBody : areRegular declaration.body.slots = true := by
    cases found : declaration.body with
    | missing => rfl
    | written opening items closing =>
      have completeItems := complete.2
      rw [found, ClassBody.isComplete, Bool.and_eq_true, List.all_eq_true] at completeItems
      have regularItems : areRegular (items.flatMap ClassItem.slots) = true :=
        areRegular_flatMap fun item member =>
          ClassItem.areRegular_slots (completeItems.1 item member)
      simp only [ClassBody.slots, areRegular_append, regularItems]
      rfl
  simp only [slots, areRegular_append, regularBody,
    areRegular_allowed (rfl : Token.isFixed .semicolon = true)]
  rfl

/-- A complete declaration has regular slots. -/
theorem Declaration.areRegular_slots {declaration : Declaration}
    (complete : declaration.isComplete = true) : areRegular declaration.slots = true := by
  cases declaration with
  | instanceDeclaration => exact InstanceDeclaration.areRegular_slots complete
  | prototypeDeclaration => exact PrototypeDeclaration.areRegular_slots complete
  | functionDeclaration => exact FunctionDeclaration.areRegular_slots complete
  | variableDeclaration => exact VariableDeclaration.areRegular_slots complete
  | classDeclaration => exact ClassDeclaration.areRegular_slots complete
  | error => cases complete

/-- Every token of a complete program has its text. -/
theorem Program.areRegular_slots {program : Program} (complete : program.isComplete = true) :
    areRegular program.slots = true :=
  areRegular_flatMap fun declaration member =>
    Declaration.areRegular_slots (List.all_eq_true.mp complete declaration member)

end ScriptTree
