import ScriptTree.Proofs.Grammar.Gathering
import ScriptTree.Proofs.Syntax.Grouping

/-!
# Precedence

The right operand of an operator is read with the power that is one above the
power of the operator.  So what follows the operand is not an operator above
that one: the operators that are read one after another at one power never rise,
and each of them may go on from what those before it have made.
-/

namespace ScriptTree

open Expression (areGrouped lowestPower_le_tightness plainTightness power_lt_signedTightness
  signedTightness)

namespace Grammar

/-- An operator that can be taken here binds no tighter than an expression. -/
def State.Admits (state : State) (power : Nat) (expression : Expression) : Prop :=
  ∀ {operator : BinaryOperator} {sign : Lexeme} {next : State},
    Takes state (operatorFrom? power) operator sign next →
      operator.power ≤ expression.tightness

/-- What is known about an expression that a production yields, or that its tails make. -/
@[simp]
def Production.Binds : (production : Production) → State → production.Value → State → Prop
  | .operation power, _, value, next =>
    value.isGrouped = true ∧ (power ≤ signedTightness → power ≤ value.tightness) ∧
      Declines next (operatorFrom? power)
  | .operators power, state, tails, next =>
    (∀ left : Expression, left.isGrouped = true → state.Admits power left →
      (tails.foldl BinaryTail.onto left).isGrouped = true ∧
        (power ≤ left.tightness → power ≤ (tails.foldl BinaryTail.onto left).tightness)) ∧
      Declines next (operatorFrom? power)
  | .operand, _, value, _ => value.isGrouped = true ∧ signedTightness ≤ value.tightness
  | .primary, _, value, _ => value.isGrouped = true ∧ plainTightness ≤ value.tightness
  | .accesses, _, tails, _ =>
    ∀ head : Expression, head.isGrouped = true → plainTightness ≤ head.tightness →
      (tails.foldl AccessTail.onto head).isGrouped = true ∧
        plainTightness ≤ (tails.foldl AccessTail.onto head).tightness
  | .arguments, _, (items, _), _ => areGrouped items = true
  | _, _, _, _ => True

/-- Where tighter operators are declined, an operator that is taken binds no tighter. -/
theorem State.admits_of_declines {state : State} {power : Nat} {expression : Expression}
    (declined : Declines state (operatorFrom? (expression.tightness + 1))) :
    state.Admits power expression := by
  intro operator sign next taken
  by_contra above
  have refused := declined taken.normal sign (by rw [taken.front]; rfl)
  have admitted : operatorFrom? (expression.tightness + 1) sign.token = some operator :=
    operatorFrom?_eq_some_iff.mpr
      ⟨(operatorFrom?_eq_some_iff.mp taken.recognized).1, Nat.lt_of_not_le above⟩
  rw [refused] at admitted
  cases admitted

/-- A literal is grouped, and binds as tightly as a plain operand. -/
theorem Literal.isGrouped_expression (literal : Literal) (lexeme : Lexeme) :
    (literal.expression lexeme).isGrouped = true ∧
      plainTightness ≤ (literal.expression lexeme).tightness := by
  cases literal <;> exact ⟨rfl, Nat.le_refl _⟩

/-- Operands bind as tightly as their operators ask for. -/
theorem Derivation.binds {production : Production} {state next : State} {value : production.Value}
    (reads : Reads production state value next) : production.Binds state value next := by
  induction reads with
  | operation _ _ operand operators =>
    rcases operand with ⟨grouped, tight⟩
    rcases operators with ⟨folds, declined⟩
    have folded := folds _ grouped fun taken => (power_lt_signedTightness _).le.trans tight
    exact ⟨folded.1, fun low => folded.2 (low.trans tight), declined⟩
  | operatorsEnd declined => exact ⟨fun left grouped _ => ⟨grouped, id⟩, declined⟩
  | @operatorsNext power _ operator sign _ right _ tails _ taken _ _ operand more =>
    rcases operand with ⟨groupedRight, tight, declined⟩
    rcases more with ⟨folds, ends⟩
    refine ⟨?_, ends⟩
    intro left groupedLeft admits
    have admitted := (operatorFrom?_eq_some_iff.mp taken.recognized).2
    have grouped : (Expression.binary operator left sign.range right).isGrouped = true := by
      simp only [Expression.isGrouped, Bool.and_eq_true, decide_eq_true_eq]
      exact ⟨⟨⟨groupedLeft, groupedRight⟩, admits taken⟩, tight (power_lt_signedTightness operator)⟩
    have folded := folds (.binary operator left sign.range right) grouped
      (State.admits_of_declines declined)
    exact ⟨folded.1, fun _ => folded.2 admitted⟩
  | operandSigned _ _ inner =>
    rcases inner with ⟨grouped, tight⟩
    exact ⟨by simp [grouped, tight], Nat.le_refl _⟩
  | operandPlain _ _ _ head accesses =>
    rcases accesses _ head.1 head.2 with ⟨grouped, tight⟩
    exact ⟨grouped, (Nat.le_succ _).trans tight⟩
  | primaryParenthesized _ _ _ inner => exact ⟨inner.1, Nat.le_refl _⟩
  | primaryLiteral => exact Literal.isGrouped_expression _ _
  | primaryMissing => exact ⟨rfl, Nat.le_refl _⟩
  | accessesEnd => exact fun head grouped tight => ⟨grouped, tight⟩
  | accessesIndex _ _ _ _ inner _ more =>
    intro head grouped tight
    exact more _ (by simp [AccessTail.onto, grouped, tight, inner.1]) (Nat.le_refl _)
  | accessesMember _ _ _ _ more =>
    intro head grouped tight
    exact more _ (by simp [AccessTail.onto, grouped, tight]) (Nat.le_refl _)
  | accessesEmptyCall _ _ _ more =>
    intro head grouped tight
    exact more _ (by simp [AccessTail.onto, grouped, tight]) (Nat.le_refl _)
  | accessesCall _ _ _ _ items more =>
    intro head grouped tight
    have all : areGrouped _ = true := items
    exact more _ (by simp [AccessTail.onto, grouped, tight, all]) (Nat.le_refl _)
  | argumentsLast _ _ _ argument => simp [argument.1]
  | argumentsTrailing _ _ _ argument => simp [argument.1]
  | argumentsNext _ _ _ _ argument more =>
    have all : areGrouped _ = true := more
    simp [argument.1, all]
  | _ => trivial

end Grammar

end ScriptTree
