import ScriptTree.Proofs.Grammar.Agreement.Step

/-!
# The functions of statements follow the rules

A statement is recognized by its first token, so the rules for statements come
after the equations that say which way its function goes.
-/

/-! ## The functions of expressions follow the rules -/

namespace ScriptTree.Grammar

theorem opening_of_literal {token : Token} {literal : Literal}
    (recognized : Literal.ofToken? token = some literal) : token ≠ .lParen := by
  rintro rfl
  cases recognized

/-- Between parentheses with nothing in them no argument is read. -/
theorem argumentList_eq_of_isAt {state : State} (closes : state.isAt .rParen = true) :
    argumentList state = ⟨[], state, Nat.le_refl _⟩ := by
  rw [argumentList, if_pos closes]
  rfl

theorem computes_operation (power : Nat) :
    (Production.operation power).Inherits State.Any Computes := by
  intro state value next reads parts
  cases parts with
  | operation _ _ _ first _ rest =>
    simp only [Computes]
    rw [Grammar.operation]
    obtain ⟨rfl, rfl⟩ := Prod.mk.inj first
    exact rest _

theorem computes_operators (power : Nat) :
    (Production.operators power).Inherits State.Any Computes := by
  intro state value next reads parts
  cases parts with
  | operatorsEnd declined =>
    intro left
    rw [operators, unlessRecovering?_eq_none declined]
    rfl
  | operatorsNext taken _ _ _ right _ rest =>
    intro left
    rw [operators, taken.unlessRecovering?_eq]
    obtain ⟨rfl, rfl⟩ := Prod.mk.inj right
    exact rest _

theorem computes_operand :
    Production.operand.Inherits State.Any Computes := by
  intro state value next reads parts
  cases parts with
  | operandSigned taken _ _ inner =>
    obtain ⟨_, inner⟩ := Step.eq_of_outcome inner
    simp only [Computes, Step.outcome]
    rw [operand, taken.take?_eq]
    dsimp only
    rw [inner]
  | operandPlain declined _ _ _ head _ tails =>
    obtain ⟨_, head⟩ := Step.eq_of_outcome head
    obtain ⟨_, tails⟩ := Step.eq_of_outcome (tails _)
    simp only [Computes, Step.outcome]
    rw [operand, declining_any_iff.mp declined]
    dsimp only
    rw [head]
    dsimp only
    rw [tails]

theorem computes_primary :
    Production.primary.Inherits State.Any Computes := by
  intro state value next reads parts
  cases parts with
  | primaryParenthesized taken _ _ _ inner _ closes =>
    obtain ⟨_, inner⟩ := Step.eq_of_outcome inner
    obtain ⟨_, closes⟩ := Step.eq_of_outcome closes
    simp only [Computes, Step.outcome]
    rw [primary, taken.take?_eq]
    dsimp only
    rw [inner]
    dsimp only
    rw [closes]
  | primaryLiteral taken =>
    have noOpening : Declining State.Any _ (State.only .lParen) :=
      taken.declines (only_eq_none (opening_of_literal taken.recognized))
    simp only [Computes, Step.outcome]
    rw [primary, declining_any_iff.mp noOpening, taken.take?_eq]
  | primaryMissing noOpening declined =>
    simp only [Computes, Step.outcome]
    rw [primary, declining_any_iff.mp noOpening, declining_any_iff.mp declined]
    rfl

theorem computes_accesses :
    Production.accesses.Inherits State.Any Computes := by
  intro state value next reads parts
  cases parts with
  | accessesEnd declined =>
    intro head
    rw [accesses, unlessRecovering?_eq_none declined]
    rfl
  | accessesIndex taken _ _ _ _ inner _ closes _ rest =>
    intro head
    obtain ⟨_, inner⟩ := Step.eq_of_outcome inner
    obtain ⟨_, closes⟩ := Step.eq_of_outcome closes
    rw [accesses, taken.unlessRecovering?_eq]
    dsimp only
    rw [inner]
    dsimp only
    rw [closes]
    exact rest _
  | accessesMember taken _ _ _ name _ rest =>
    intro head
    obtain ⟨_, name⟩ := Step.eq_of_outcome name
    rw [accesses, taken.unlessRecovering?_eq]
    dsimp only
    rw [name]
    exact rest _
  | accessesEmptyCall taken closes _ _ rest =>
    intro head
    rw [accesses, taken.unlessRecovering?_eq]
    dsimp only
    rw [argumentList_eq_of_isAt closes.isAt]
    dsimp only
    rw [closes.unlessRecovering_expect_eq]
    exact rest _
  | accessesCall taken filled _ _ _ items _ rest =>
    intro head
    obtain ⟨sameItems, closes⟩ := items
    subst sameItems
    obtain ⟨_, closes⟩ := Step.eq_of_outcome closes
    rw [accesses, taken.unlessRecovering?_eq]
    dsimp only
    rw [argumentList, if_neg (by simp [filled]), closes]
    exact rest _

theorem computes_arguments :
    Production.arguments.Inherits State.Any Computes := by
  intro state value next reads parts
  cases parts with
  | argumentsLast _ declined _ _ argument _ closes =>
    obtain ⟨_, argument⟩ := Step.eq_of_outcome argument
    simp only [Computes]
    rw [arguments, argument]
    dsimp only
    rw [unlessRecovering?_eq_none declined]
    exact ⟨rfl, closes⟩
  | argumentsTrailing _ taken closes _ argument =>
    obtain ⟨_, argument⟩ := Step.eq_of_outcome argument
    simp only [Computes]
    rw [arguments, argument]
    dsimp only
    rw [taken.unlessRecovering?_eq]
    dsimp only
    rw [if_pos (by simpa [State.isAt, State.peek] using closes.isAt)]
    exact ⟨rfl, closes.computes_closing⟩
  | argumentsNext _ taken goesOn _ _ argument _ rest =>
    obtain ⟨_, argument⟩ := Step.eq_of_outcome argument
    simp only [Computes]
    rw [arguments, argument]
    dsimp only
    rw [taken.unlessRecovering?_eq]
    dsimp only
    rw [if_neg (by simp [goesOn])]
    obtain ⟨rfl, closes⟩ := rest
    exact ⟨rfl, closes⟩

theorem computes_elements (isFirst : Bool) :
    (Production.elements isFirst).Inherits State.Any Computes := by
  intro state value next reads parts
  cases parts with
  | elementsEnd ends =>
    simp only [Computes]
    rw [elements, if_pos (by simp [ends])]
    rfl
  | elementsMissing goesOn _ missing _ element =>
    obtain ⟨_, element⟩ := Step.eq_of_outcome element
    simp only [Computes]
    rw [elements, if_neg (by simp [goesOn]), expression, element]
    dsimp only
    rw [if_pos missing]
    rfl
  | elementsLast goesOn _ present declined _ element =>
    obtain ⟨_, element⟩ := Step.eq_of_outcome element
    simp only [Computes]
    rw [elements, if_neg (by simp [goesOn]), expression, element]
    dsimp only
    rw [if_neg (by simp [present]), unlessRecovering?_eq_none declined]
    rfl
  | elementsNext goesOn _ present taken _ _ element _ rest =>
    obtain ⟨_, element⟩ := Step.eq_of_outcome element
    obtain ⟨_, rest⟩ := Step.eq_of_outcome rest
    simp only [Computes]
    rw [elements, if_neg (by simp [goesOn]), expression, element]
    dsimp only
    rw [if_neg (by simp [present]), taken.unlessRecovering?_eq]
    dsimp only
    rw [rest]
    rfl

theorem computes_initialValue :
    Production.initialValue.Inherits State.Any Computes := by
  intro state value next reads parts
  cases parts with
  | initialElements taken _ _ _ items _ closes =>
    obtain ⟨_, items⟩ := Step.eq_of_outcome items
    obtain ⟨_, closes⟩ := Step.eq_of_outcome closes
    simp only [Computes]
    rw [initialValue, taken.take?_eq]
    dsimp only
    rw [items]
    dsimp only
    rw [closes]
    rfl
  | initialExpression declined _ _ value =>
    simp only [Computes]
    rw [initialValue, declining_any_iff.mp declined]
    exact value

/-! ## Statements -/

/-! ## Statements by their first token -/

section

variable {permits : State → Prop} {state next : State} {lexeme : Lexeme}

theorem statement_of_if (taken : Taking permits state (State.only .kwIf) () lexeme next) :
    (statement state).outcome =
      (some (ifStatement lexeme.range next).value, (ifStatement lexeme.range next).next) := by
  rw [statement, taken.take?_eq]
  rfl

theorem statement_of_return (taken : Taking permits state (State.only .kwReturn) () lexeme next) :
    (statement state).outcome =
      (some (.returnStatement (returnStatement lexeme.range next).value),
        (returnStatement lexeme.range next).next) := by
  have found := only_eq_some_iff.mp taken.recognized
  have noIf : Declining State.Any state (State.only .kwIf) :=
    taken.declines (only_eq_none (by simp [found]))
  rw [statement, declining_any_iff.mp noIf, taken.take?_eq]
  rfl

theorem statement_of_variable {kind : VariableKind}
    (taken : Taking permits state VariableKind.ofToken? kind lexeme next) :
    (statement state).outcome =
      (some (.variableDeclaration (variableDeclaration kind lexeme.range next).value),
        (variableDeclaration kind lexeme.range next).next) := by
  have found := VariableKind.ofToken?_eq_some_iff.mp taken.recognized
  have noIf : Declining State.Any state (State.only .kwIf) :=
    taken.declines (only_eq_none (by rw [← found]; cases kind <;> decide))
  have noReturn : Declining State.Any state (State.only .kwReturn) :=
    taken.declines (only_eq_none (by rw [← found]; cases kind <;> decide))
  rw [statement, declining_any_iff.mp noIf, declining_any_iff.mp noReturn, taken.take?_eq]
  rfl

/-- Neither a block nor an expression starts with the keyword of another statement. -/
theorem declines_keywords (state : State) (opens : ∀ token, state.peek = some token →
      token = .lBrace ∨ startsExpression token = true) :
    Declining State.Any state (State.only .kwIf) ∧
      Declining State.Any state (State.only .kwReturn) ∧
        Declining State.Any state VariableKind.ofToken? := by
  refine ⟨declines_of_peek ?_, declines_of_peek ?_, declines_of_peek ?_⟩ <;>
    (intro token found; rcases opens token found with rfl | starts)
  · rfl
  · cases token <;> first | rfl | cases starts
  · rfl
  · cases token <;> first | rfl | cases starts
  · rfl
  · cases token <;> first | rfl | cases starts

/-- At an opening brace a statement is a block. -/
theorem statement_of_block (opens : state.isAt .lBrace = true) :
    (statement state).outcome = (some (.block (block state).value), (block state).next) := by
  obtain ⟨noIf, noReturn, noKind⟩ := declines_keywords state (by
    intro token found
    simp_all [State.isAt])
  rw [statement, declining_any_iff.mp noIf, declining_any_iff.mp noReturn,
    declining_any_iff.mp noKind]
  dsimp only
  rw [if_pos opens]
  rfl

/-- Where an expression may start, a statement is read from one. -/
theorem statement_of_expression (opens : state.peek.any startsExpression = true) :
    (statement state).outcome =
      (some (expressionStatement state).value, (expressionStatement state).next) := by
  have starts : ∀ token, state.peek = some token → startsExpression token = true := by
    intro token found
    simpa [found] using opens
  obtain ⟨noIf, noReturn, noKind⟩ := declines_keywords state (by
    intro token found
    exact .inr (starts token found))
  have noBlock : ¬state.isAt .lBrace = true := by
    intro atBrace
    have starts := starts .lBrace (by simpa [State.isAt] using atBrace)
    cases starts
  rw [statement, declining_any_iff.mp noIf, declining_any_iff.mp noReturn,
    declining_any_iff.mp noKind]
  dsimp only
  rw [if_neg noBlock, if_pos opens]
  rfl

end

/-! ## Variables, assignments and statements -/

theorem computes_arraySize :
    Production.arraySize.Inherits State.Any Computes := by
  intro state value next reads parts
  cases parts with
  | arraySizeAbsent declined =>
    simp only [Computes]
    rw [arraySize, unlessRecovering?_eq_none declined]
    rfl
  | arraySizeWritten taken _ _ _ size _ closes =>
    obtain ⟨_, size⟩ := Step.eq_of_outcome size
    obtain ⟨_, closes⟩ := Step.eq_of_outcome closes
    simp only [Computes]
    rw [arraySize, taken.unlessRecovering?_eq]
    dsimp only [expression]
    rw [size]
    dsimp only
    rw [closes]
    rfl

theorem computes_initializer :
    Production.initializer.Inherits State.Any Computes := by
  intro state value next reads parts
  cases parts with
  | initializerAbsent declined =>
    simp only [Computes]
    rw [initializer, unlessRecovering?_eq_none declined]
    rfl
  | initializerWritten taken _ _ value =>
    obtain ⟨_, value⟩ := Step.eq_of_outcome value
    simp only [Computes]
    rw [initializer, taken.unlessRecovering?_eq]
    dsimp only
    rw [value]
    rfl

theorem computes_variableDeclaration :
    Production.variableDeclaration.Inherits State.Any Computes := by
  intro state value next reads parts
  cases parts with
  | variableDeclaration taken _ _ _ _ _ _ type _ name _ size _ initializer _ ends =>
    obtain ⟨_, type⟩ := Step.eq_of_outcome type
    obtain ⟨_, name⟩ := Step.eq_of_outcome name
    obtain ⟨_, size⟩ := Step.eq_of_outcome size
    obtain ⟨_, initializer⟩ := Step.eq_of_outcome initializer
    obtain ⟨_, ends⟩ := Step.eq_of_outcome ends
    refine ⟨_, _, _, taken, ?_⟩
    rw [Grammar.variableDeclaration, type]
    dsimp only
    rw [name]
    dsimp only
    rw [size]
    dsimp only
    rw [initializer]
    dsimp only
    rw [ends]
    rfl

theorem computes_assignmentTail :
    Production.assignmentTail.Inherits State.Any Computes := by
  intro state value next reads parts
  cases parts with
  | assignmentSigned taken _ _ _ right _ ends =>
    obtain ⟨_, right⟩ := Step.eq_of_outcome right
    obtain ⟨_, ends⟩ := Step.eq_of_outcome ends
    rintro target start rfl
    have signed := taken.take?_eq
    unfold State.checkTarget at signed
    change expression _ = _ at right
    unfold assignment
    dsimp only
    rw [signed]
    dsimp only
    rw [right]
    dsimp only
    rw [ends]
    rfl
  | assignmentUnsigned declined _ _ ends =>
    obtain ⟨_, ends⟩ := Step.eq_of_outcome ends
    rintro target start rfl
    have unsigned := declining_any_iff.mp declined
    unfold State.checkTarget at unsigned ends
    unfold assignment
    dsimp only
    rw [unsigned]
    dsimp only
    rw [ends]
    rfl

theorem computes_condition :
    Production.condition.Inherits State.Any Computes := by
  intro state value next reads parts
  cases parts with
  | conditionBare noOpening opens _ _ inner =>
    obtain ⟨_, inner⟩ := Step.eq_of_outcome inner
    change expression _ = _ at inner
    simp only [Computes]
    rw [condition, if_pos (by simp [noOpening, opens]), inner]
    rfl
  | conditionPlain plain _ _ inner =>
    simp only [Computes]
    rw [condition, if_neg (by simp only [plain, Bool.false_eq_true, not_false_iff])]
    exact inner

theorem computes_block :
    Production.block.Inherits State.Any Computes := by
  intro state value next reads parts
  cases parts with
  | blockMissing declined =>
    simp only [Computes]
    rw [block, declining_any_iff.mp declined]
    rfl
  | blockWritten taken _ _ _ items _ closes =>
    obtain ⟨_, items⟩ := Step.eq_of_outcome items
    obtain ⟨_, closes⟩ := Step.eq_of_outcome closes
    simp only [Computes]
    rw [block, taken.take?_eq]
    dsimp only
    rw [items]
    dsimp only
    rw [closes]
    rfl

theorem computes_statements :
    Production.statements.Inherits State.Any Computes := by
  intro state value next reads parts
  cases parts with
  | statementsEnd ends =>
    simp only [Computes]
    rw [statements, dif_pos ends]
    rfl
  | statementsNext goesOn _ resumes _ _ item _ rest =>
    obtain ⟨fewer, item⟩ := Step.eq_of_outcome item
    obtain ⟨_, rest⟩ := Step.eq_of_outcome rest
    have nonempty := rest_ne_nil_of_endsList_eq_false (by simpa using goesOn)
    obtain ⟨_, resumed⟩ := Subtype.eq_of_val_eq (resumes.resync_eq fewer nonempty)
    simp only [Computes]
    rw [statements, dif_neg (by simp [goesOn]), item]
    dsimp only
    rw [resumed]
    dsimp only
    rw [rest]
    rfl

theorem computes_statement :
    Production.statement.Inherits State.Any Computes := by
  intro state value next reads parts
  cases parts with
  | statementIf taken _ _ noElse _ inner _ consequence =>
    obtain ⟨_, inner⟩ := Step.eq_of_outcome inner
    obtain ⟨_, consequence⟩ := Step.eq_of_outcome consequence
    simp only [Computes]
    rw [statement_of_if taken, ifStatement, inner]
    dsimp only
    rw [consequence]
    dsimp only
    rw [unlessRecovering?_eq_none noElse]
  | statementIfElse taken _ _ otherwise _ _ inner _ consequence _ alternative =>
    obtain ⟨_, inner⟩ := Step.eq_of_outcome inner
    obtain ⟨_, consequence⟩ := Step.eq_of_outcome consequence
    obtain ⟨_, alternative⟩ := Step.eq_of_outcome alternative
    simp only [Computes]
    rw [statement_of_if taken, ifStatement, inner]
    dsimp only
    rw [consequence]
    dsimp only
    rw [otherwise.unlessRecovering?_eq]
    dsimp only
    rw [alternative]
  | statementReturn taken bare _ _ ends =>
    obtain ⟨_, ends⟩ := Step.eq_of_outcome ends
    simp only [Computes]
    rw [statement_of_return taken, returnStatement, if_neg (by simp [bare]), ends]
  | statementReturnValue taken opens _ _ _ value _ ends =>
    obtain ⟨_, value⟩ := Step.eq_of_outcome value
    obtain ⟨_, ends⟩ := Step.eq_of_outcome ends
    change expression _ = _ at value
    simp only [Computes]
    rw [statement_of_return taken, returnStatement, if_pos opens, value]
    dsimp only
    rw [ends]
  | statementVariable _ _ declaration =>
    obtain ⟨kind, keyword, afterKeyword, taken, declaration⟩ := declaration
    obtain ⟨_, declaration⟩ := Step.eq_of_outcome declaration
    simp only [Computes]
    rw [statement_of_variable taken, declaration]
  | statementBlock opens _ _ inner =>
    obtain ⟨_, inner⟩ := Step.eq_of_outcome inner
    simp only [Computes]
    rw [statement_of_block opens, inner]
  | statementExpression opens _ unsigned _ _ inner _ ends =>
    obtain ⟨_, inner⟩ := Step.eq_of_outcome inner
    obtain ⟨_, ends⟩ := Step.eq_of_outcome ends
    change expression _ = _ at inner
    simp only [Computes]
    rw [statement_of_expression opens, expressionStatement, inner]
    dsimp only
    rw [if_neg (by simp only [unsigned, Bool.false_eq_true, not_false_iff]), ends]
  | statementAssignment opens _ signed _ _ target _ tail =>
    obtain ⟨_, target⟩ := Step.eq_of_outcome target
    obtain ⟨_, tail⟩ := Step.eq_of_outcome (tail _ _ rfl)
    change expression _ = _ at target
    simp only [Computes]
    rw [statement_of_expression opens, expressionStatement, target]
    dsimp only
    rw [if_pos signed, tail]
  | statementAbsent empty =>
    simp only [Computes]
    rw [statement]
    simp only [declining_any_iff.mp (declines_of_empty empty)]
    simp [State.isAt, State.peek, empty]
    rfl
  | statementRejected nonempty noIf noReturn noKind noBlock noExpression =>
    simp only [Computes]
    rw [statement, declining_any_iff.mp noIf, declining_any_iff.mp noReturn,
      declining_any_iff.mp noKind]
    simp [noBlock, noExpression, nonempty]
    rfl

theorem computes_branch :
    Production.branch.Inherits State.Any Computes := by
  intro state value next reads parts
  cases parts with
  | branchRecovering recovering =>
    simp only [Computes]
    rw [branch, if_pos recovering]
    rfl
  | branchBlock normal opens _ _ _ inner _ semicolon =>
    obtain ⟨_, inner⟩ := Step.eq_of_outcome inner
    obtain ⟨_, semicolon⟩ := Step.eq_of_outcome semicolon
    simp only [Computes]
    rw [branch, if_neg (by simp [normal]), if_pos opens, inner]
    dsimp only
    rw [semicolon]
    rfl
  | branchStatement normal plain _ _ inner =>
    obtain ⟨_, inner⟩ := Step.eq_of_outcome inner
    simp only [Computes]
    rw [branch, if_neg (by simp [normal]), if_neg (by simp [plain]), inner]
    rfl
  | branchMissing normal plain _ _ inner =>
    obtain ⟨_, inner⟩ := Step.eq_of_outcome inner
    simp only [Computes]
    rw [branch, if_neg (by simp [normal]), if_neg (by simp [plain]), inner]
    rfl

end ScriptTree.Grammar
