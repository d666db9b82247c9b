import ScriptTree.Proofs.Grammar.Derivation
import ScriptTree.Proofs.Syntax.WellFormed

/-!
# How operands group

Operands with binary operators between them make one tree: it divides at the
last operator of the lowest level, and so do the sequences in front of it and
behind it.  An expression whose operands bind tightly enough is the tree of its
own operands and operators.
-/

namespace ScriptTree

namespace BinaryOperator

/-- The binary operators, from those that bind least to those that bind most. -/
def levels : List (List BinaryOperator) :=
  [[.or], [.and], [.equal, .notEqual], [.less, .lessEqual, .greater, .greaterEqual],
    [.add, .subtract], [.multiply, .divide, .modulo]]

/-- How tightly an operator binds: its place among the levels. -/
def level (operator : BinaryOperator) : Nat :=
  levels.findIdx fun operators => decide (operator ∈ operators)

/-- The power of an operator is one above its level. -/
theorem power_eq_level_add_one (operator : BinaryOperator) :
    operator.power = operator.level + 1 := by
  cases operator <;> rfl

/-- Operators are ordered by their powers as by their levels. -/
theorem level_le_level_iff {first second : BinaryOperator} :
    first.level ≤ second.level ↔ first.power ≤ second.power := by
  rw [power_eq_level_add_one, power_eq_level_add_one, Nat.add_le_add_iff_right]

/-- The same of the strict orders. -/
theorem level_lt_level_iff {first second : BinaryOperator} :
    first.level < second.level ↔ first.power < second.power := by
  rw [power_eq_level_add_one, power_eq_level_add_one, Nat.add_lt_add_iff_right]

end BinaryOperator

open Grammar (BinaryTail)

/-! ## The tree of a sequence -/

/-- The last operator of the lowest level, with what is in front of it and what is behind it. -/
def divideAtWeakest? : List BinaryTail → Option (List BinaryTail × BinaryTail × List BinaryTail)
  | [] => none
  | tail :: rest =>
    match divideAtWeakest? rest with
    | none => some ([], tail, [])
    | some (before, weakest, after) =>
      if weakest.operator.level ≤ tail.operator.level then
        some (tail :: before, weakest, after)
      else
        some ([], tail, rest)

/-- Every sequence with an operator in it has a weakest one. -/
theorem divideAtWeakest?_eq_none_iff {tails : List BinaryTail} :
    divideAtWeakest? tails = none ↔ tails = [] := by
  cases tails with
  | nil => exact ⟨fun _ => rfl, fun _ => rfl⟩
  | cons tail rest =>
    rw [divideAtWeakest?]
    split
    · simp
    · split <;> simp

/-- The division of a sequence puts together again what it was. -/
theorem eq_append_of_divideAtWeakest? {tails before after : List BinaryTail}
    {weakest : BinaryTail} (divided : divideAtWeakest? tails = some (before, weakest, after)) :
    tails = before ++ weakest :: after := by
  induction tails generalizing before weakest after with
  | nil => cases divided
  | cons tail rest ih =>
    rw [divideAtWeakest?] at divided
    split at divided
    · rename_i none
      cases divided
      rw [divideAtWeakest?_eq_none_iff.mp none, List.nil_append]
    · rename_i found
      split at divided <;> cases divided
      · rw [ih found, List.cons_append]
      · rfl

/-- A sequence divides at an operator that no operator in front of it is below, and that every
operator behind it is above. -/
theorem divideAtWeakest?_append {before after : List BinaryTail} {weakest : BinaryTail}
    (notBelow : ∀ tail ∈ before, weakest.operator.level ≤ tail.operator.level)
    (above : ∀ tail ∈ after, weakest.operator.level < tail.operator.level) :
    divideAtWeakest? (before ++ weakest :: after) = some (before, weakest, after) := by
  induction before with
  | nil =>
    rw [List.nil_append, divideAtWeakest?]
    split
    · rename_i none
      rw [divideAtWeakest?_eq_none_iff.mp none]
    · rename_i found _ equal
      have higher := above found (by simp [eq_append_of_divideAtWeakest? equal])
      exact if_neg (Nat.not_le.mpr higher)
  | cons tail rest ih =>
    rw [List.forall_mem_cons] at notBelow
    rw [List.cons_append, divideAtWeakest?, ih notBelow.2]
    exact if_pos notBelow.1

/-- The tree of a first operand and the operators and operands after it: operators of a higher level
bind tighter, and those of one level group to the left. -/
def group (first : Expression) (tails : List BinaryTail) : Expression :=
  match _divided : divideAtWeakest? tails with
  | none => first
  | some (before, weakest, after) =>
    .binary weakest.operator (group first before) weakest.sign (group weakest.right after)
termination_by tails.length
decreasing_by
  all_goals
    rw [eq_append_of_divideAtWeakest? _divided, List.length_append, List.length_cons]
    omega

/-- Without an operator there is nothing to group. -/
theorem group_nil (first : Expression) : group first [] = first := by
  rw [group]
  rfl

/-- A sequence is grouped at the last of its weakest operators. -/
theorem group_append {before after : List BinaryTail} {weakest : BinaryTail}
    (notBelow : ∀ tail ∈ before, weakest.operator.level ≤ tail.operator.level)
    (above : ∀ tail ∈ after, weakest.operator.level < tail.operator.level) (first : Expression) :
    group first (before ++ weakest :: after) =
      .binary weakest.operator (group first before) weakest.sign (group weakest.right after) := by
  have divided := divideAtWeakest?_append notBelow above
  rw [group]
  split
  · rename_i none
    rw [divided] at none
    cases none
  · rename_i some
    rw [divided] at some
    cases some
    rfl

/-! ## The sequence of a tree -/

namespace Expression

/-- The operand that an operation begins with. -/
@[simp]
def firstOperand : Expression → Expression
  | .binary _ left _ _ => left.firstOperand
  | expression => expression

/-- The operators of an operation, each with the operand after it. -/
@[simp]
def operations : Expression → List BinaryTail
  | .binary operator left sign right =>
    left.operations ++ ⟨operator, sign, right.firstOperand⟩ :: right.operations
  | _ => []

/-- No operator of a grouped expression binds less than the expression does. -/
theorem tightness_le_of_mem_operations {expression : Expression}
    (grouped : expression.isGrouped = true) :
    ∀ tail ∈ expression.operations, expression.tightness ≤ tail.operator.power := by
  induction expression using operations.induct with
  | case1 operator left sign right ihLeft ihRight =>
    simp only [isGrouped, Bool.and_eq_true, decide_eq_true_eq] at grouped
    rcases grouped with ⟨⟨⟨groupedLeft, groupedRight⟩, leftTight⟩, rightTight⟩
    intro tail member
    rw [operations, List.mem_append, List.mem_cons] at member
    rcases member with inLeft | rfl | inRight
    · exact Nat.le_trans leftTight (ihLeft groupedLeft tail inLeft)
    · exact Nat.le_refl _
    · exact Nat.le_trans (Nat.le_of_lt rightTight) (ihRight groupedRight tail inRight)
  | case2 expression notBinary => simp [operations]

/-- An expression whose operands bind tightly enough is the tree of its operands and operators. -/
theorem group_operations {expression : Expression} (grouped : expression.isGrouped = true) :
    group expression.firstOperand expression.operations = expression := by
  induction expression using operations.induct with
  | case1 operator left sign right ihLeft ihRight =>
    simp only [isGrouped, Bool.and_eq_true, decide_eq_true_eq] at grouped
    rcases grouped with ⟨⟨⟨groupedLeft, groupedRight⟩, leftTight⟩, rightTight⟩
    rw [firstOperand, operations, group_append, ihLeft groupedLeft, ihRight groupedRight]
    · intro tail member
      exact BinaryOperator.level_le_level_iff.mpr
        (Nat.le_trans leftTight (tightness_le_of_mem_operations groupedLeft tail member))
    · intro tail member
      exact BinaryOperator.level_lt_level_iff.mpr
        (Nat.lt_of_lt_of_le rightTight (tightness_le_of_mem_operations groupedRight tail member))
  | case2 expression notBinary => simp [group_nil]

end Expression

end ScriptTree
