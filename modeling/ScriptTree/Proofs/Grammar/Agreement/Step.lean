import ScriptTree.Proofs.Grammar.Modes

/-!
# What the functions of the grammar compute

What it means that the function of a production computes something, and what the
steps compute that take or decline one token.
-/

namespace ScriptTree.Grammar

/-- What a step yields, and the state after it. -/
def Step.outcome {α : Type} {start : State} (step : Step start α) : α × State :=
  (step.value, step.next)

/-- A step is known by its outcome: the bound it carries is a proof. -/
theorem Step.eq_of_outcome {α : Type} {start next : State} {step : Step start α} {value : α}
    (outcome : step.outcome = (value, next)) : ∃ fewer, step = ⟨value, next, fewer⟩ := by
  obtain ⟨rfl, rfl⟩ := Prod.mk.inj outcome
  exact ⟨step.fewer, rfl⟩

/-- The closing parenthesis of a list is sought in the normal mode. -/
def Computes.closing (state : State) (closing : Option Range) (next : State) : Prop :=
  (state.unlessRecovering none (state.expect .rParen)).outcome = (closing, next)

/-- The function of a production, begun in `state`, yields `value` and leaves `next`. -/
@[simp]
def Computes :
    (production : Production) → State → production.Value → State → Prop
  | .optional token, state, value, next => (state.eat token).outcome = (value, next)
  | .expected token, state, value, next =>
    (state.unlessRecovering none (state.expect token)).outcome = (value, next)
  | .closingBrace, state, value, next => (state.expect .rBrace).outcome = (value, next)
  | .terminator, state, value, next =>
    (state.unlessRecovering none state.terminator).outcome = (value, next)
  | .identifier, state, value, next =>
    (state.unlessRecovering (.missing state.anchor) state.identifier).outcome = (value, next)
  | .directName, state, value, next => state.identifier.outcome = (value, next)
  | .typeReference, state, value, next => state.typeReference.outcome = (value, next)
  | .operation power, state, value, next => (operation power state).outcome = (value, next)
  | .operators power, state, tails, next =>
    ∀ left, (operators power left state).outcome = (tails.foldl BinaryTail.onto left, next)
  | .operand, state, value, next => (operand state).outcome = (value, next)
  | .primary, state, value, next => (primary state).outcome = (value, next)
  | .accesses, state, tails, next =>
    ∀ head, (accesses head state).outcome = (tails.foldl AccessTail.onto head, next)
  | .arguments, state, (items, closing), next =>
    (arguments state).value = items ∧
      Computes.closing (arguments state).next closing next
  | .elements isFirst, state, value, next => (elements isFirst state).outcome = (value, next)
  | .initialValue, state, value, next => (initialValue state).outcome = (value, next)
  | .arraySize, state, value, next => (arraySize state).outcome = (value, next)
  | .initializer, state, value, next => (initializer state).outcome = (value, next)
  | .variableDeclaration, state, value, next =>
    ∃ kind keyword afterKeyword,
      Taking State.Any state VariableKind.ofToken? kind keyword afterKeyword ∧
        (variableDeclaration kind keyword.range afterKeyword).outcome = (value, next)
  | .assignmentTail, state, tail, next =>
    ∀ (target : Expression) (start : State), start.checkTarget target = state →
      (assignment target start).outcome = (tail.onto target, next)
  | .condition, state, value, next => (condition state).outcome = (value, next)
  | .block, state, value, next => (block state).outcome = (value, next)
  | .statements, state, value, next => (statements state).outcome = (value, next)
  | .statement, state, value, next => (statement state).outcome = (value, next)
  | .branch, state, value, next => (branch state).outcome = (value, next)
  | .parentClause, state, value, next => (parentClause state).outcome = (value, next)
  | .instanceBody hasParent, state, value, next =>
    (instanceBody hasParent state).outcome = (value, next)
  | .declarationBody, state, value, next => (declarationBody state).outcome = (value, next)
  | .qualifier, state, value, next => (qualifier state).outcome = (value, next)
  | .parameter, state, value, next => (parameter state).outcome = (value, next)
  | .parameters, state, (items, closing), next =>
    (parameters state).value = items ∧
      Computes.closing (parameters state).next closing next
  | .parameterList, state, value, next => (parameterList state).outcome = (value, next)
  | .classItem, state, value, next => (classItem state).outcome = (value, next)
  | .classItems, state, value, next => (classItems state).outcome = (value, next)
  | .classBody, state, value, next => (classBody state).outcome = (value, next)
  | .declaration, state, value, next => (declaration state).outcome = (value, next)
  | .declarations, state, value, next => (declarations state).outcome = (value, next)

/-! ## The mode -/

section

variable {α : Type} {state next : State}

theorem unlessRecovering_of_normal (normal : state.recovering = false) {standIn : α}
    {step : Step state α} : state.unlessRecovering standIn step = step :=
  if_neg (by simp [normal])

/-- While the parse recovers, what is not even tried is its stand-in. -/
theorem unlessRecovering_of_recovering (recovering : state.recovering = true) {standIn : α}
    {step : Step state α} : state.unlessRecovering standIn step = state.stay standIn :=
  if_pos recovering

variable {recognize : Token → Option α} {value : α} {lexeme : Lexeme}

/-- A token that is taken is what the guarded call gives. -/
theorem Taking.unlessRecovering?_eq (taken : Takes state recognize value lexeme next) :
    state.unlessRecovering? (state.take? recognize) =
      some ⟨value, lexeme, next, taken.fewer⟩ := by
  rw [State.unlessRecovering?, if_neg (by simp [taken.normal]), taken.take?_eq]

theorem unlessRecovering?_eq_none (declined : Declines state recognize) :
    state.unlessRecovering? (state.take? recognize) = none := by
  unfold State.unlessRecovering?
  split
  · rfl
  · rename_i notRecovering
    exact take?_eq_none declined (by simpa [State.Normal] using notRecovering)

end

/-! ## Taking a token -/

section

variable {permits : State → Prop} {token : Token} {state next : State} {lexeme : Lexeme}

theorem Taking.eat_eq (taken : Taking permits state (State.only token) () lexeme next) :
    state.eat token = ⟨some lexeme.range, next, Nat.le_of_lt taken.fewer⟩ := by
  rw [State.eat, taken.take?_eq]

theorem Taking.expect_eq (taken : Taking permits state (State.only token) () lexeme next) :
    state.expect token = ⟨some lexeme.range, next, Nat.le_of_lt taken.fewer⟩ := by
  rw [State.expect, taken.take?_eq]

/-- A token that is next is taken where it is sought in the normal mode. -/
theorem Taking.unlessRecovering_expect_eq
    (taken : Takes state (State.only token) () lexeme next) :
    state.unlessRecovering none (state.expect token) =
      ⟨some lexeme.range, next, Nat.le_of_lt taken.fewer⟩ := by
  rw [unlessRecovering_of_normal taken.normal, taken.expect_eq]

theorem Taking.computes_closing (taken : Takes state (State.only .rParen) () lexeme next) :
    Computes.closing state (some lexeme.range) next := by
  rw [Computes.closing, taken.unlessRecovering_expect_eq]
  rfl

end

/-! ## Single tokens -/

theorem computes_optional (token : Token) :
    (Production.optional token).Inherits State.Any Computes := by
  intro state value next reads parts
  cases parts with
  | optionalTaken taken =>
    simp only [Computes, taken.eat_eq]
    rfl
  | optionalAbsent declined =>
    simp only [Computes, State.eat, declining_any_iff.mp declined]
    rfl

theorem computes_expected (token : Token) :
    (Production.expected token).Inherits State.Any Computes := by
  intro state value next reads parts
  cases parts with
  | expectedTaken taken =>
    simp only [Computes, unlessRecovering_of_normal taken.normal, taken.expect_eq]
    rfl
  | expectedMissing missed =>
    simp only [Computes, unlessRecovering_of_normal missed.normal,
      State.expect, missed.take?_eq]
    rfl
  | expectedIdle recovering =>
    simp only [Computes, unlessRecovering_of_recovering recovering]
    rfl

theorem computes_closingBrace :
    Production.closingBrace.Inherits State.Any Computes := by
  intro state value next reads parts
  cases parts with
  | closingBraceTaken taken =>
    simp only [Computes, taken.expect_eq]
    rfl
  | closingBraceMissing declined =>
    simp only [Computes, State.expect, declining_any_iff.mp declined]
    rfl

theorem computes_terminator :
    Production.terminator.Inherits State.Any Computes := by
  intro state value next reads parts
  cases parts with
  | terminatorTaken taken =>
    simp only [Computes, unlessRecovering_of_normal taken.normal, State.terminator, taken.take?_eq]
    rfl
  | terminatorGranted missed opens =>
    simp only [Computes, unlessRecovering_of_normal missed.normal,
      State.terminator, missed.take?_eq, opens, if_true]
    rfl
  | terminatorMissing missed plain =>
    simp only [Computes, unlessRecovering_of_normal missed.normal,
      State.terminator, missed.take?_eq, plain]
    rfl
  | terminatorIdle recovering =>
    simp only [Computes, unlessRecovering_of_recovering recovering]
    rfl

theorem computes_identifier :
    Production.identifier.Inherits State.Any Computes := by
  intro state value next reads parts
  cases parts with
  | identifierTaken taken =>
    simp only [Computes, unlessRecovering_of_normal taken.normal, State.identifier, taken.take?_eq]
    rfl
  | identifierMissing missed =>
    simp only [Computes, unlessRecovering_of_normal missed.normal,
      State.identifier, missed.take?_eq]
    rfl
  | identifierIdle recovering =>
    simp only [Computes, unlessRecovering_of_recovering recovering]
    rfl

theorem computes_directName :
    Production.directName.Inherits State.Any Computes := by
  intro state value next reads parts
  cases parts with
  | nameTaken taken =>
    simp only [Computes, State.identifier, taken.take?_eq]
    rfl
  | nameMissing declined =>
    simp only [Computes, State.identifier, declining_any_iff.mp declined]
    rfl

theorem computes_typeReference :
    Production.typeReference.Inherits State.Any Computes := by
  intro state value next reads parts
  cases parts with
  | typeTaken taken =>
    simp only [Computes, State.typeReference, taken.take?_eq]
    rfl
  | typeMissing declined =>
    simp only [Computes, State.typeReference, declining_any_iff.mp declined]
    rfl

/-! ## Resuming -/

theorem Subtype.eq_of_val_eq {α : Type} {property : α → Prop} {element : Subtype property}
    {value : α}
    (equal : element.val = value) : ∃ proof, element = ⟨value, proof⟩ := by
  subst equal
  exact ⟨element.property, rfl⟩

theorem Resumes.resync_eq {level : SyncLevel} {start state next : State}
    {skipped : Option ErrorNode} (resumes : Resumes level start state skipped next)
    (fewer : state.rest.length ≤ start.rest.length) (nonempty : start.rest ≠ []) :
    (start.resync state level fewer nonempty).val = (skipped, next) := by
  unfold State.resync
  cases resumes with
  | onward progress normal => rw [dif_pos progress, if_neg (by simp [normal])]
  | synchronized cause =>
    rcases cause with ⟨progress, recovering⟩ | ⟨idle, found⟩
    · rw [dif_pos progress, if_pos recovering]
    · rw [dif_neg idle, dif_pos found]
  | skippedOne idle stuck front =>
    rw [dif_neg idle, dif_neg (by simp [stuck])]
    split
    · simp_all
    · simp_all

end ScriptTree.Grammar
