import ScriptTree.Proofs.Grammar.First

/-!
# Well-formed trees

A complete tree can be written down, but reading it back may give another tree:
the operators of an expression group by how tightly they bind, an `else` belongs
to the nearest `if` that can have it, and what follows a condition goes on with
it where it can.  A well-formed tree is complete, and none of this tears it
apart.
-/

namespace ScriptTree

open Slot

namespace Expression

/-- How tightly an expression with a prefix operator binds. -/
def signedTightness : Nat := 7

/-- How tightly everything else than an operation binds. -/
def plainTightness : Nat := 8

/-- How tightly an expression binds as a whole. -/
def tightness : Expression → Nat
  | .binary operator _ _ _ => operator.power
  | .unary _ _ _ => signedTightness
  | _ => plainTightness

/-- Every operation binds less tightly than its operands may. -/
theorem power_lt_signedTightness (operator : BinaryOperator) :
    operator.power < signedTightness := by
  cases operator <;> decide

/-- Nothing binds less than the lowest power. -/
theorem lowestPower_le_tightness (expression : Expression) :
    lowestPower ≤ expression.tightness := by
  cases expression with
  | binary operator =>
    show lowestPower ≤ operator.power
    cases operator <;> decide
  | unary =>
    show lowestPower ≤ signedTightness
    decide
  | _ =>
    show lowestPower ≤ plainTightness
    decide

mutual

/-- Whether the operands bind tightly enough to stay together.  Binary operators group to the
left, so the right operand has to bind tighter than its operator. -/
@[simp]
def isGrouped : Expression → Bool
  | .binary operator left _ right =>
    left.isGrouped && right.isGrouped && decide (operator.power ≤ left.tightness) &&
      decide (operator.power < right.tightness)
  | .unary _ _ operand => operand.isGrouped && decide (signedTightness ≤ operand.tightness)
  | .arrayAccess array _ index _ =>
    array.isGrouped && index.isGrouped && decide (plainTightness ≤ array.tightness)
  | .memberAccess object _ _ => object.isGrouped && decide (plainTightness ≤ object.tightness)
  | .call function _ arguments _ =>
    function.isGrouped && areGrouped arguments && decide (plainTightness ≤ function.tightness)
  | .parenthesized _ inner _ => inner.isGrouped
  | .arrayInitializer _ elements _ _ => areGrouped elements
  | .boolean _ | .number _ | .string _ | .identifier _ | .error _ => true

/-- Whether all expressions of a list are grouped. -/
@[simp]
def areGrouped : List (Expression × Option Range) → Bool
  | [] => true
  | (expression, _) :: rest => expression.isGrouped && areGrouped rest

end

/-- Whether an expression is written with a name in front. -/
def startsWithName (expression : Expression) : Bool :=
  firstToken? expression.slots = some .identifier

end Expression

/-- Whether the size and the value of a variable are grouped. -/
def VariableDeclaration.isGrouped (declaration : VariableDeclaration) : Bool :=
  (declaration.size.all fun size => size.size.isGrouped) &&
    declaration.initializer.all fun initializer => initializer.value.isGrouped

/-- Whether both sides of an assignment are grouped. -/
def AssignmentStatement.isGrouped (assignment : AssignmentStatement) : Bool :=
  assignment.left.isGrouped && assignment.right.isGrouped

/-! ## Branches -/

mutual

/-- Whether a statement ends in an `if` that could still have an `else`. -/
@[simp]
def Statement.endsOpen : Statement → Bool
  | .ifStatement _ _ _ none => true
  | .ifStatement _ _ _ (some (_, alternative)) => alternative.endsOpen
  | _ => false

/-- Whether an `else` after a branch would belong to an `if` inside of it. -/
@[simp]
def Branch.endsOpen : Branch → Bool
  | .missing _ => false
  | .written statement _ => statement.endsOpen

end

/-- Whether a statement cannot be taken for a part of the expression in front of it. -/
def Branch.standsApart (branch : Branch) : Bool :=
  firstToken? branch.slots ≠ some .lParen && firstToken? branch.slots ≠ some .plus &&
    firstToken? branch.slots ≠ some .minus

mutual

/-- Whether the parts of a block are read as they are written. -/
@[simp]
def Block.isGrouped : Block → Bool
  | .missing _ _ => true
  | .written _ statements _ => Statement.areGrouped statements

/-- Whether a statement is read back as it is grouped: no `else` changes its `if`, and a branch is
told from the condition before it. -/
@[simp]
def Statement.isGrouped : Statement → Bool
  | .assignmentStatement assignment => assignment.isGrouped
  | .expressionStatement statement => statement.expression.isGrouped
  | .ifStatement _ condition consequence none =>
    condition.isGrouped && consequence.standsApart && consequence.isGrouped
  | .ifStatement _ condition consequence (some (_, alternative)) =>
    condition.isGrouped && consequence.standsApart && consequence.isGrouped &&
      !consequence.endsOpen && alternative.isGrouped
  | .returnStatement statement => statement.value.all Expression.isGrouped
  | .variableDeclaration declaration => declaration.isGrouped
  | .block block => block.isGrouped
  | .error _ => true

/-- Whether the statement of a branch is grouped. -/
@[simp]
def Branch.isGrouped : Branch → Bool
  | .missing _ => true
  | .written statement _ => statement.isGrouped

/-- Whether all statements of a list are grouped. -/
@[simp]
def Statement.areGrouped : List Statement → Bool
  | [] => true
  | statement :: rest => statement.isGrouped && Statement.areGrouped rest

end

/-! ## Declarations -/

/-- In a class body only a name can start the target of an assignment. -/
def ClassItem.isGrouped : ClassItem → Bool
  | .member (.variableDeclaration declaration) => declaration.isGrouped
  | .member (.assignmentStatement assignment) =>
    assignment.isGrouped && assignment.left.startsWithName
  | .member (.error _) | .abandoned _ => true

/-- Whether all items of a class are grouped. -/
def ClassBody.isGrouped : ClassBody → Bool
  | .missing _ => true
  | .written _ items _ => items.all ClassItem.isGrouped

/-- Whether everything in a declaration is grouped. -/
def Declaration.isGrouped : Declaration → Bool
  | .instanceDeclaration declaration => declaration.body.all Block.isGrouped
  | .prototypeDeclaration declaration => declaration.body.isGrouped
  | .functionDeclaration declaration => declaration.body.isGrouped
  | .variableDeclaration declaration => declaration.isGrouped
  | .classDeclaration declaration => declaration.body.isGrouped
  | .error _ => true

/-- Complete, and read as it is written. -/
def Declaration.isWellFormed (declaration : Declaration) : Bool :=
  declaration.isComplete && declaration.isGrouped

/-- Whether a program is one that the grammar can write. -/
def Program.isWellFormed (program : Program) : Bool :=
  program.declarations.all Declaration.isWellFormed

end ScriptTree
