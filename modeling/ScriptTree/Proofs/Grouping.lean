import ScriptTree.Proofs.Grammar.Grouping
import ScriptTree.Proofs.Node.Parts

/-!
# Precedence in every tree

Whatever the source, the operands in its tree bind at least as tightly as the
nodes around them ask for: an operation has no operation of a lower level for an
operand, nor one of its own level on its right, and what is signed, indexed or
called is no operation at all.  So a sequence of operands and operators has the
tree in which higher levels bind tighter and equal ones group to the left.
-/

namespace ScriptTree

namespace Node

/-- Neither an operation nor signed. -/
def IsPlain (node : Node) : Prop :=
  node.kind ≠ .unaryExpression ∧ node.kind ≠ .binaryExpression

/-- The operands of a node bind as tightly as it asks for. -/
def RespectsPrecedence (node : Node) : Prop :=
  match node.content with
  | .binaryExpression operator =>
    (∃ left, node.child? .left = some left ∧
      ∀ inner, left.content = .binaryExpression inner → operator.power ≤ inner.power) ∧
    ∃ right, node.child? .right = some right ∧
      ∀ inner, right.content = .binaryExpression inner → operator.power < inner.power
  | .unaryExpression _ =>
    ∃ operand, node.child? .operand = some operand ∧ operand.kind ≠ .binaryExpression
  | .arrayAccess => ∃ array, node.child? .array = some array ∧ array.IsPlain
  | .memberAccess => ∃ object, node.child? .object = some object ∧ object.IsPlain
  | .callExpression => ∃ function, node.child? .function = some function ∧ function.IsPlain
  | _ => True

/-- An operation is the tree of its operands and operators. -/
def IsGroupedByLevel (node : Node) : Prop :=
  node.kind = .binaryExpression → ∃ expression : Expression, expression.toNode = node ∧
    group expression.firstOperand expression.operations = expression

/-- A node is grouped as the levels of the operators have it. -/
def IsWellGrouped (node : Node) : Prop :=
  node.RespectsPrecedence ∧ node.IsGroupedByLevel

/-- Nodes around expressions ask nothing of how tightly these bind. -/
theorem isWellGrouped_of_isFrame {node : Node} (frame : node.kind.isFrame = true) :
    node.IsWellGrouped := by
  rcases node with ⟨content, range, tokens, children⟩
  constructor
  · cases content <;> trivial
  · intro operation
    rw [operation] at frame
    cases frame

end Node

namespace Expression

/-- An operation binds as tightly as its operator. -/
theorem tightness_eq_power {expression : Expression} {operator : BinaryOperator}
    (operation : expression.toNode.content = .binaryExpression operator) :
    expression.tightness = operator.power := by
  cases expression <;> cases operation
  rfl

/-- What binds as tightly as an operand is no binary operation. -/
theorem kind_ne_binaryExpression {expression : Expression}
    (tight : signedTightness ≤ expression.tightness) :
    expression.toNode.kind ≠ .binaryExpression := by
  cases expression with
  | binary operator =>
    exact absurd (power_lt_signedTightness operator) (Nat.not_lt.mpr tight)
  | _ => rintro ⟨⟩

/-- What binds as tightly as the head of an access is plain. -/
theorem isPlain_toNode {expression : Expression} (tight : plainTightness ≤ expression.tightness) :
    expression.toNode.IsPlain := by
  refine ⟨?_, kind_ne_binaryExpression (Nat.le_trans (Nat.le_succ _) tight)⟩
  cases expression with
  | unary => exact absurd tight (Nat.not_succ_le_self _)
  | _ => rintro ⟨⟩

/-- A grouped expression respects the precedence of its operators. -/
theorem respectsPrecedence_toNode {expression : Expression}
    (grouped : expression.isGrouped = true) : expression.toNode.RespectsPrecedence := by
  cases expression with
  | binary operator left sign right =>
    simp only [isGrouped, Bool.and_eq_true, decide_eq_true_eq] at grouped
    refine ⟨⟨left.toNode, rfl, ?_⟩, right.toNode, rfl, ?_⟩
    · intro inner operation
      exact tightness_eq_power operation ▸ grouped.1.2
    · intro inner operation
      exact tightness_eq_power operation ▸ grouped.2
  | unary operator sign operand =>
    simp only [isGrouped, Bool.and_eq_true, decide_eq_true_eq] at grouped
    exact ⟨operand.toNode, rfl, kind_ne_binaryExpression grouped.2⟩
  | arrayAccess array opening index closing =>
    simp only [isGrouped, Bool.and_eq_true, decide_eq_true_eq] at grouped
    exact ⟨array.toNode, rfl, isPlain_toNode grouped.2⟩
  | memberAccess object dot member =>
    simp only [isGrouped, Bool.and_eq_true, decide_eq_true_eq] at grouped
    exact ⟨object.toNode, rfl, isPlain_toNode grouped.2⟩
  | call function opening items closing =>
    simp only [isGrouped, Bool.and_eq_true, decide_eq_true_eq] at grouped
    exact ⟨function.toNode, rfl, isPlain_toNode grouped.2⟩
  | _ => trivial

/-- The node of a grouped expression is well grouped. -/
theorem isWellGrouped_toNode {expression : Expression} (grouped : expression.isGrouped = true) :
    expression.toNode.IsWellGrouped :=
  ⟨respectsPrecedence_toNode grouped, fun _ => ⟨expression, rfl, group_operations grouped⟩⟩

/-- All nodes of an expression whose operands bind tightly enough are grouped by level. -/
theorem every_isWellGrouped {expression : Expression} (grouped : expression.isGrouped = true) :
    Node.Every Node.IsWellGrouped [expression.toNode] := by
  refine every_of_parts (isGrouped · = true) ?_ isWellGrouped_toNode isGrouped_of_mem_parts grouped
  intro node kind
  exact Node.isWellGrouped_of_isFrame (by rw [kind]; rfl)

end Expression

/-- In the tree of every source the operands bind as tightly as the nodes around them ask for, and
each operation is the tree that its operands and operators have by the levels of the operators. -/
theorem respectsPrecedence_parse (source : String) (options : ParseOptions) :
    ∀ node ∈ (parse source options).root.descendants,
      node.RespectsPrecedence ∧ node.IsGroupedByLevel := by
  have spreads : Grammar.Spreads (fun _ => True) Node.IsWellGrouped :=
    { kept := fun _ _ => trivial
      frame := fun node => Node.isWellGrouped_of_isFrame
      name := fun _ _ => ⟨trivial, by rintro ⟨⟩⟩
      nameMissing := fun _ _ => ⟨trivial, by rintro ⟨⟩⟩
      type := fun _ _ => ⟨trivial, by rintro ⟨⟩⟩
      operation := fun reads _ => Expression.every_isWellGrouped reads.binds.1 }
  exact forall_mem_descendants_root spreads options trivial

/-- A comparison of a difference that misses its right operand. -/
theorem respectsPrecedence_parse_comparison :
    ∃ node ∈ (parse "const int A = 1 - 2 - 3 * -4 < ;").root.descendants,
      node.content = .binaryExpression .less ∧
        node.RespectsPrecedence ∧ node.IsGroupedByLevel := by
  have compared : (parse "const int A = 1 - 2 - 3 * -4 < ;").root.descendants.any
      (fun node => decide (node.content = .binaryExpression .less)) = true := by
    decide +kernel
  simp only [List.any_eq_true, decide_eq_true_eq] at compared
  rcases compared with ⟨node, member, comparison⟩
  exact ⟨node, member, comparison, respectsPrecedence_parse _ {} node member⟩

end ScriptTree
