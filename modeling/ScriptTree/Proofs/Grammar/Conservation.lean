import ScriptTree.Proofs.Grammar.Motion
import ScriptTree.Proofs.Syntax.Slots

/-!
# Conservation of tokens

Whatever a production takes from the lexemes is in a filled slot of what it
yields, once and in order.  This holds on every path through the grammar, on
those of recovery too, since a skip hands what it passes over to an error node.
-/

namespace ScriptTree.Grammar

open Slot

/-- The tokens that are not taken yet, at their places. -/
def State.placed (state : State) : List PlacedToken :=
  state.rest.map Lexeme.toPlacedToken

/-! ## Slots of what productions yield -/

/-- The tokens from an operator to the end of its right operand. -/
@[simp]
def BinaryTail.slots (tail : BinaryTail) : List Slot :=
  required tail.operator.token (some tail.sign) ++ tail.right.slots

/-- The tokens of an access. -/
@[simp]
def AccessTail.slots : AccessTail → List Slot
  | .index opening inner closing =>
    required .lBracket (some opening) ++ inner.slots ++ required .rBracket closing
  | .member dot name => required .dot (some dot) ++ name.slots
  | .call opening items closing =>
    required .lParen (some opening) ++ Expression.listSlots items ++ required .rParen closing

/-- The tokens after the target of an assignment. -/
@[simp]
def AssignmentTail.slots (tail : AssignmentTail) : List Slot :=
  required tail.operator.token tail.sign ++ tail.right.slots ++
    required .semicolon tail.terminator

/-- The slots of a chain of operations are those of its first operand and of its tails. -/
@[simp]
theorem slots_foldl_binary (tails : List BinaryTail) (first : Expression) :
    (tails.foldl BinaryTail.onto first).slots =
      first.slots ++ tails.flatMap BinaryTail.slots := by
  induction tails generalizing first with
  | nil => simp
  | cons tail rest ih =>
    simp [ih, BinaryTail.onto, BinaryTail.slots, Expression.slots]

/-- The slots of a row of accesses are those of its head and of its tails. -/
@[simp]
theorem slots_foldl_access (tails : List AccessTail) (head : Expression) :
    (tails.foldl AccessTail.onto head).slots =
      head.slots ++ tails.flatMap AccessTail.slots := by
  induction tails generalizing head with
  | nil => simp
  | cons tail rest ih =>
    cases tail <;> simp [ih, AccessTail.onto, AccessTail.slots, Expression.slots]

/-- The slots of an assignment are those of its target and of its tail. -/
@[simp]
theorem AssignmentTail.slots_onto (target : Expression) (tail : AssignmentTail) :
    (tail.onto target).slots = target.slots ++ tail.slots := by
  simp [AssignmentStatement.slots, AssignmentTail.onto, AssignmentTail.slots]

/-- The written form of what a production yields. -/
def Production.slots : (production : Production) → production.Value → List Slot
  | .optional token, place => allowed token place
  | .expected token, place => required token place
  | .closingBrace, place => required .rBrace place
  | .terminator, place => required .semicolon place
  | .identifier, name | .directName, name => name.slots
  | .typeReference, type => type.slots
  | .operation _, value | .operand, value | .primary, value | .initialValue, value
  | .condition, value => value.slots
  | .operators _, tails => tails.flatMap BinaryTail.slots
  | .accesses, tails => tails.flatMap AccessTail.slots
  | .arguments, (items, closing) => Expression.listSlots items ++ required .rParen closing
  | .elements _, (items, _) => Expression.listSlots items
  | .arraySize, value => value.elim [] ArraySize.slots
  | .initializer, value => value.elim [] Initializer.slots
  | .variableDeclaration, value => value.slots
  | .assignmentTail, tail => tail.slots
  | .block, value => value.slots
  | .statements, value => Statement.listSlots value
  | .statement, value => value.elim [] Statement.slots
  | .branch, value => value.slots
  | .parentClause, value => value.elim [] ParentClause.slots
  | .instanceBody _, (body, semicolon) => InstanceDeclaration.bodySlots body semicolon
  | .declarationBody, (body, semicolon) => body.slots ++ allowed .semicolon semicolon
  | .qualifier, value => value.elim [] fun (kind, range) => required kind.token (some range)
  | .parameter, value => value.slots
  | .parameters, (items, closing) => ParameterList.itemSlots items ++ required .rParen closing
  | .parameterList, value => value.slots
  | .classItem, value => value.elim [] ClassItem.slots
  | .classItems, value => value.flatMap ClassItem.slots
  | .classBody, value => value.slots
  | .declaration, value => value.elim [] Declaration.slots
  | .declarations, value => value.flatMap Declaration.slots

/-- The tokens in the filled slots of what a production yields. -/
def Production.placed (production : Production) (value : production.Value) : List PlacedToken :=
  Slot.placed (production.slots value)

/-! ## Single steps -/

section

variable {state next : State} {lexeme : Lexeme}

/-- What was taken was placed in front of what is left. -/
theorem Taking.placed {α : Type} {recognize : Token → Option α} {value : α}
    (taken : Takes state recognize value lexeme next) :
    state.placed = ⟨lexeme.token, lexeme.range⟩ :: next.placed := by
  rw [State.placed, taken.front]
  rfl

theorem Taking.placed_only {token : Token}
    (taken : Takes state (State.only token) () lexeme next) :
    state.placed = ⟨token, lexeme.range⟩ :: next.placed := by
  rw [taken.placed, only_eq_some_iff.mp taken.recognized]

theorem Taking.placed_operator {power : Nat} {operator : BinaryOperator}
    (taken : Takes state (operatorFrom? power) operator lexeme next) :
    state.placed = ⟨operator.token, lexeme.range⟩ :: next.placed := by
  rw [taken.placed, (operatorFrom?_eq_some_iff.mp taken.recognized).1]

theorem Taking.placed_sign {operator : UnaryOperator}
    (taken : Takes state UnaryOperator.ofToken? operator lexeme next) :
    state.placed = ⟨operator.token, lexeme.range⟩ :: next.placed := by
  rw [taken.placed, UnaryOperator.ofToken?_eq_some_iff.mp taken.recognized]

theorem Taking.placed_access {access : Access}
    (taken : Takes state Access.ofToken? access lexeme next) :
    state.placed = ⟨access.token, lexeme.range⟩ :: next.placed := by
  rw [taken.placed, Access.ofToken?_eq_some_iff.mp taken.recognized]

theorem Taking.placed_assignment {operator : AssignmentOperator}
    (taken : Takes state AssignmentOperator.ofToken? operator lexeme next) :
    state.placed = ⟨operator.token, lexeme.range⟩ :: next.placed := by
  rw [taken.placed, AssignmentOperator.ofToken?_eq_some_iff.mp taken.recognized]

theorem Taking.placed_kind {kind : VariableKind}
    (taken : Takes state VariableKind.ofToken? kind lexeme next) :
    state.placed = ⟨kind.token, lexeme.range⟩ :: next.placed := by
  rw [taken.placed, VariableKind.ofToken?_eq_some_iff.mp taken.recognized]

theorem Taking.placed_start {start : DeclarationStart}
    (taken : Takes state DeclarationStart.ofToken? start lexeme next) :
    state.placed = ⟨start.token, lexeme.range⟩ :: next.placed := by
  rw [taken.placed, DeclarationStart.ofToken?_eq_some_iff.mp taken.recognized]

/-- The token of a type is placed as the slots of the type say. -/
theorem Taking.placed_type (taken : Takes state State.recognizeType () lexeme next) :
    state.placed =
      Slot.placed (TypeReference.slots
        ⟨(TypeName.builtin? lexeme.token).getD (.named lexeme.text), lexeme.range⟩) ++
      next.placed := by
  rw [taken.placed]
  rcases recognizeType_eq_some_iff.mp taken.recognized with builtin | named
  · cases found : lexeme.token <;> simp_all [Token.isTypeKeyword] <;> rfl
  · rw [named]
    rfl

/-- A literal is the token that it was recognized in. -/
theorem Taking.placed_literal {literal : Literal}
    (taken : Takes state Literal.ofToken? literal lexeme next)
    (spelled : lexeme.text.isEmpty = false) :
    state.placed = Slot.placed (literal.expression lexeme).slots ++ next.placed := by
  rw [taken.placed]
  have recognized := taken.recognized
  cases literal with
  | error => simp [Literal.expression]
  | identifier =>
    have found : lexeme.token = .identifier := by
      cases token : lexeme.token <;> simp_all [Literal.ofToken?, Token.isError]
    rw [Literal.expression, Expression.slots, Identifier.placed_slots_of_nonempty spelled, found]
    rfl
  | _ =>
    cases found : lexeme.token <;> rw [found] at recognized <;> cases recognized <;> rfl

end

theorem State.placed_eq {first second : State} (same : first.rest = second.rest) :
    first.placed = second.placed := by
  rw [State.placed, State.placed, same]

@[simp]
theorem State.placed_fail (state : State) (expected : Expectation) :
    (state.fail expected).placed = state.placed :=
  State.placed_eq (State.rest_fail ..)

@[simp]
theorem State.placed_reportMissing (state : State) (token : Token) :
    (state.reportMissing token).placed = state.placed :=
  State.placed_eq (State.rest_reportMissing ..)

@[simp]
theorem State.placed_reject (state : State) (production : String) :
    (state.reject production).placed = state.placed :=
  State.placed_eq (State.rest_reject ..)

@[simp]
theorem State.placed_checkTarget (state : State) (target : Expression) :
    (state.checkTarget target).placed = state.placed := by
  unfold State.checkTarget
  split <;> rfl

/-- An error node made of some tokens skipped just these. -/
theorem skipped_ofTokens? (tokens : List PlacedToken) :
    (ErrorNode.ofTokens? tokens).elim [] ErrorNode.skipped = tokens := by
  cases tokens <;> rfl

/-- An error node holds what was skipped. -/
theorem State.skipped_synchronize (state : State) (level : SyncLevel) :
    (state.synchronize level).1.elim [] ErrorNode.skipped =
      (level.skip 0 state.rest).1.map Lexeme.toPlacedToken :=
  skipped_ofTokens? _

/-- What is passed over when a list resumes is in the error node. -/
theorem Resumes.placed {level : SyncLevel} {start state next : State}
    {skipped : Option ErrorNode} (resumes : Resumes level start state skipped next) :
    state.placed = skipped.elim [] ErrorNode.skipped ++ next.placed := by
  cases resumes with
  | onward => rfl
  | synchronized =>
    have whole := congrArg (List.map Lexeme.toPlacedToken) (level.skip_append 0 state.rest)
    rw [List.map_append] at whole
    rw [State.skipped_synchronize]
    exact whole.symm
  | skippedOne _ _ front => simp [State.placed, State.skipOne, State.passOver, front]

/-- No lexeme of a source is empty. -/
def State.Spelled (state : State) : Prop :=
  ∀ lexeme ∈ state.rest, lexeme.text.isEmpty = false

/-- A move keeps every lexeme spelled. -/
theorem Move.spelled {state next : State} (move : Move state next) (before : state.Spelled) :
    next.Spelled := by
  intro lexeme member
  exact before lexeme (move.rest_suffix.subset member)

theorem Moves.spelled {state next : State} (moves : Moves state next) (before : state.Spelled) :
    next.Spelled :=
  moves.keeps (fun move => move.spelled) before

@[simp]
theorem State.spelled_fail (state : State) (expected : Expectation) :
    (state.fail expected).Spelled ↔ state.Spelled := by
  rw [State.Spelled, State.Spelled, State.rest_fail]

@[simp]
theorem State.spelled_reportMissing (state : State) (token : Token) :
    (state.reportMissing token).Spelled ↔ state.Spelled := by
  rw [State.Spelled, State.Spelled, State.rest_reportMissing]

@[simp]
theorem State.spelled_checkTarget (state : State) (target : Expression) :
    (state.checkTarget target).Spelled ↔ state.Spelled := by
  unfold State.checkTarget
  split <;> rfl

theorem Taking.spelled {α : Type} {state next : State} {recognize : Token → Option α} {value : α}
    {lexeme : Lexeme} (taken : Takes state recognize value lexeme next)
    (before : state.Spelled) : next.Spelled :=
  taken.moves.spelled before

theorem Derivation.spelled {production : Production} {state next : State} {value : production.Value}
    (reads : Reads production state value next) (before : state.Spelled) : next.Spelled :=
  reads.moves.spelled before

theorem Resumes.spelled {level : SyncLevel} {start state next : State}
    {skipped : Option ErrorNode} (resumes : Resumes level start state skipped next)
    (before : state.Spelled) : next.Spelled :=
  resumes.moves.spelled before

/-! ## What a production gives -/

/-- As long as no lexeme is empty, some tokens are in front of those that are left. -/
def State.Gives (state : State) (tokens : List PlacedToken) (next : State) : Prop :=
  state.Spelled → state.placed = tokens ++ next.placed ∧ next.Spelled

namespace State.Gives

variable {first second third : State} {tokens more : List PlacedToken}

theorem nothing (state : State) : state.Gives [] state :=
  fun spelled => ⟨rfl, spelled⟩

/-- What is given in two parts of a parse is given in order. -/
theorem append (early : first.Gives tokens second) (late : second.Gives more third) :
    first.Gives (tokens ++ more) third := by
  intro spelled
  rcases early spelled with ⟨front, between⟩
  rcases late between with ⟨back, after⟩
  exact ⟨by rw [front, back, List.append_assoc], after⟩

theorem congr (gives : first.Gives tokens second) (same : more = tokens) :
    first.Gives more second := by
  rw [same]
  exact gives

theorem fail (state : State) (expected : Expectation) : state.Gives [] (state.fail expected) :=
  fun spelled => ⟨(placed_fail ..).symm, (spelled_fail ..).mpr spelled⟩

theorem reportMissing (state : State) (token : Token) :
    state.Gives [] (state.reportMissing token) :=
  fun spelled => ⟨(placed_reportMissing ..).symm, (spelled_reportMissing ..).mpr spelled⟩

theorem checkTarget (state : State) (target : Expression) :
    state.Gives [] (state.checkTarget target) :=
  fun spelled => ⟨(placed_checkTarget ..).symm, (spelled_checkTarget ..).mpr spelled⟩

end State.Gives

/-- What is taken is given. -/
theorem Taking.gives {α : Type} {recognize : Token → Option α} {value : α} {lexeme : Lexeme}
    {state next : State} (taken : Takes state recognize value lexeme next) {token : PlacedToken}
    (front : state.placed = token :: next.placed) : state.Gives [token] next :=
  fun spelled => ⟨front, taken.spelled spelled⟩

theorem Taking.gives_only {token : Token} {lexeme : Lexeme} {state next : State}
    (taken : Takes state (State.only token) () lexeme next) :
    state.Gives [⟨token, lexeme.range⟩] next :=
  taken.gives taken.placed_only

theorem Taking.gives_name {lexeme : Lexeme} {state next : State}
    (taken : Takes state (State.only .identifier) () lexeme next) :
    state.Gives (Slot.placed (Identifier.slots ⟨lexeme.text, lexeme.range⟩)) next := by
  intro spelled
  refine ⟨?_, taken.spelled spelled⟩
  rw [taken.placed_only, Identifier.placed_slots_of_nonempty (spelled _ taken.mem_rest)]
  rfl

/-- A skip gives what it skipped. -/
theorem Resumes.gives {level : SyncLevel} {start state next : State} {skipped : Option ErrorNode}
    (resumes : Resumes level start state skipped next) :
    state.Gives (skipped.elim [] ErrorNode.skipped) next :=
  fun spelled => ⟨resumes.placed, resumes.spelled spelled⟩

section

attribute [local simp] Production.placed Production.slots

/-- A production moves the tokens it takes into the slots of what it yields. -/
theorem Derivation.gives {production : Production} {state next : State} {value : production.Value}
    (reads : Reads production state value next) : state.Gives (production.placed value) next := by
  induction reads with
  -- Nothing is taken.
  | optionalAbsent | expectedIdle | terminatorIdle | identifierIdle | operatorsEnd | accessesEnd
  | elementsEnd | arraySizeAbsent | initializerAbsent | statementsEnd | branchRecovering
  | parentAbsent | instanceIdle | bodyIdle | qualifierAbsent | parameterListIdle | classItemsEnd
  | declarationsEnd => exact .nothing _
  | expectedMissing | closingBraceMissing | terminatorMissing | identifierMissing | nameMissing
  | typeMissing | primaryMissing | blockMissing | statementAbsent | instanceBare
  | parameterListMissing | classBodyMissing => exact .fail _ _
  | terminatorGranted => exact .reportMissing _ _
  | statementRejected | classRejected | declarationRejected =>
    exact fun spelled => ⟨(State.placed_reject ..).symm, spelled⟩
  -- Single tokens
  | optionalTaken taken | expectedTaken taken | closingBraceTaken taken | terminatorTaken taken =>
    exact taken.gives_only
  | identifierTaken taken | nameTaken taken => exact taken.gives_name
  | typeTaken taken => exact fun spelled => ⟨taken.placed_type, taken.spelled spelled⟩
  | primaryLiteral taken =>
    exact fun spelled => ⟨taken.placed_literal (spelled _ taken.mem_rest), taken.spelled spelled⟩
  | qualifierWritten taken => exact taken.gives taken.placed_kind
  -- Expressions
  | operation _ _ operand operators => exact (operand.append operators).congr (by simp)
  | operatorsNext taken _ _ operand more =>
    exact ((taken.gives taken.placed_operator).append (operand.append more)).congr (by simp)
  | operandSigned taken _ operand =>
    exact ((taken.gives taken.placed_sign).append operand).congr (by simp)
  | operandPlain _ _ _ primary accesses => exact (primary.append accesses).congr (by simp)
  | primaryParenthesized taken _ _ inner closing =>
    exact (taken.gives_only.append (inner.append closing)).congr (by simp)
  | accessesIndex taken _ _ _ inner closing more =>
    exact ((taken.gives taken.placed_access).append (inner.append (closing.append more))).congr
      (by simp [Access.token])
  | accessesMember taken _ _ name more =>
    exact ((taken.gives taken.placed_access).append (name.append more)).congr
      (by simp [Access.token])
  | accessesEmptyCall taken closes _ more =>
    exact ((taken.gives taken.placed_access).append (closes.gives_only.append more)).congr
      (by simp [Access.token])
  | accessesCall taken _ _ _ arguments more =>
    exact ((taken.gives taken.placed_access).append (arguments.append more)).congr
      (by simp [Access.token])
  | argumentsLast _ _ _ argument closing => exact (argument.append closing).congr (by simp)
  | argumentsTrailing _ taken closes argument =>
    exact (argument.append (taken.gives_only.append
      ((State.Gives.fail _ _).append closes.gives_only))).congr (by simp)
  | argumentsNext _ taken _ _ argument more =>
    exact (argument.append (taken.gives_only.append more)).congr (by simp)
  | elementsMissing _ _ missing element =>
    exact element.congr (Expression.placed_slots_of_isMissing missing).symm
  | elementsLast _ _ _ _ element => exact element.congr (by simp)
  | elementsNext _ _ _ taken _ element more =>
    exact (element.append (taken.gives_only.append more)).congr (by simp)
  | initialElements taken _ _ items closing =>
    exact (taken.gives_only.append (items.append closing)).congr (by simp)
  | initialExpression _ _ expression => exact expression
  -- Variables and assignments
  | arraySizeWritten taken _ _ size closing =>
    exact (taken.gives_only.append (size.append closing)).congr (by simp)
  | initializerWritten taken _ initial =>
    exact (taken.gives_only.append initial).congr (by simp)
  | variableDeclaration taken _ _ _ _ _ type name size initializer ending =>
    exact ((taken.gives taken.placed_kind).append (type.append (name.append
      (size.append (initializer.append ending))))).congr (by simp)
  | assignmentSigned taken _ _ right ending =>
    exact ((taken.gives taken.placed_assignment).append (right.append ending)).congr (by simp)
  | assignmentUnsigned _ _ ending =>
    exact ((State.Gives.fail _ _).append ending).congr (by simp)
  -- Statements
  | conditionBare _ _ _ condition => exact (State.Gives.reportMissing _ _).append condition
  | conditionPlain _ _ condition => exact condition
  | blockWritten taken _ _ items closing =>
    exact (taken.gives_only.append (items.append closing)).congr (by simp)
  | @statementsNext _ item _ skipped _ _ _ _ _ resumes _ first more =>
    exact (first.append (resumes.gives.append more)).congr
      (by cases item <;> cases skipped <;> simp)
  | statementIf taken _ _ _ condition consequence =>
    exact (taken.gives_only.append (condition.append consequence)).congr (by simp)
  | statementIfElse taken _ _ otherwise _ condition consequence alternative =>
    exact (taken.gives_only.append (condition.append (consequence.append
      (otherwise.gives_only.append alternative)))).congr (by simp)
  | statementReturn taken _ _ ending => exact (taken.gives_only.append ending).congr (by simp)
  | statementReturnValue taken _ _ _ result ending =>
    exact (taken.gives_only.append (result.append ending)).congr (by simp)
  | statementVariable _ declaration => exact declaration.congr (by simp)
  | statementBlock _ _ block => exact block.congr (by simp)
  | statementExpression _ _ _ _ expression ending =>
    exact (expression.append ending).congr (by simp)
  | statementAssignment _ _ _ _ target tail =>
    exact (target.append ((State.Gives.checkTarget _ _).append tail)).congr
      (by simp [AssignmentTail.onto])
  | branchBlock _ _ _ _ block semicolon => exact (block.append semicolon).congr (by simp)
  | branchStatement _ _ _ statement => exact statement.congr (by simp)
  | branchMissing _ _ _ statement => exact statement
  -- Declarations
  | parentWritten taken _ _ name closing =>
    exact (taken.gives_only.append (name.append closing)).congr (by simp)
  | instanceBlock _ _ _ _ body semicolon =>
    exact (body.append semicolon).congr (by simp [InstanceDeclaration.bodySlots])
  | @instanceForward hasParent _ _ _ taken =>
    cases hasParent with
    | false => exact (State.Gives.reportMissing _ _).append taken.gives_only
    | true => exact taken.gives_only
  | bodyMissing _ _ _ body => exact body.congr (by simp)
  | bodyWritten _ _ _ _ body semicolon => exact (body.append semicolon).congr (by simp)
  | parameter _ _ _ qualifier type name =>
    exact (qualifier.append (type.append name)).congr (by simp)
  | parametersLast _ _ _ item closing => exact (item.append closing).congr (by simp)
  | parametersTrailing _ taken closes item =>
    exact (item.append (taken.gives_only.append
      ((State.Gives.fail _ _).append closes.gives_only))).congr (by simp)
  | parametersNext _ taken _ _ item more =>
    exact (item.append (taken.gives_only.append more)).congr (by simp)
  | parameterListEmpty taken closes =>
    exact (taken.gives_only.append closes.gives_only).congr (by simp [ParameterList.slots])
  | parameterListFilled taken _ _ parameters =>
    exact (taken.gives_only.append parameters).congr (by simp [ParameterList.slots])
  | classVariable _ declaration =>
    exact declaration.congr (by simp [ClassItem.slots, ClassMember.slots])
  | classAbandoned _ _ _ target => exact target.congr (by simp [ClassItem.slots])
  | classAssignment _ _ _ _ target tail =>
    exact (target.append ((State.Gives.checkTarget _ _).append tail)).congr
      (by simp [ClassItem.slots, ClassMember.slots, AssignmentTail.onto])
  | @classItemsNext _ item _ skipped _ _ _ _ _ resumes _ first more =>
    exact (first.append (resumes.gives.append more)).congr
      (by cases item <;> cases skipped <;> simp [ClassItem.slots, ClassMember.slots])
  | classBodyWritten taken _ _ items closing =>
    exact (taken.gives_only.append (items.append closing)).congr (by simp [ClassBody.slots])
  | declarationInstance taken _ _ _ name parent body =>
    exact ((taken.gives taken.placed_start).append (name.append (parent.append body))).congr
      (by simp [Declaration.slots, DeclarationStart.token])
  | declarationPrototype taken _ _ _ _ _ name opening parent closing body =>
    exact ((taken.gives taken.placed_start).append (name.append (opening.append
      (parent.append (closing.append body))))).congr
      (by simp [Declaration.slots, DeclarationStart.token])
  | declarationFunction taken _ _ _ _ type name parameters body =>
    exact ((taken.gives taken.placed_start).append (type.append (name.append
      (parameters.append body)))).congr (by simp [Declaration.slots, DeclarationStart.token])
  | declarationNamelessClass taken _ _ name =>
    exact ((taken.gives taken.placed_start).append name).congr
      (by simp [Declaration.slots, DeclarationStart.token, ClassBody.slots])
  | declarationUnfinishedClass taken _ _ _ _ name body =>
    exact ((taken.gives taken.placed_start).append (name.append body)).congr
      (by simp [Declaration.slots, DeclarationStart.token])
  | declarationClass taken _ _ _ _ _ name body semicolon =>
    exact ((taken.gives taken.placed_start).append (name.append (body.append semicolon))).congr
      (by simp [Declaration.slots, DeclarationStart.token])
  | declarationVariable _ declaration => exact declaration.congr (by simp [Declaration.slots])
  | @declarationsNext _ item _ skipped _ _ _ _ _ resumes _ first more =>
    exact (first.append (resumes.gives.append more)).congr
      (by cases item <;> cases skipped <;> simp [Declaration.slots])

end

/-- A production places the tokens it takes, in their order. -/
theorem Derivation.placed {production : Production} {state next : State} {value : production.Value}
    (reads : Reads production state value next) (spelled : state.Spelled) :
    state.placed = production.placed value ++ next.placed :=
  (reads.gives spelled).1

/-! ## Abandoned targets -/

/-- Every abandoned target among what a production yields was read from some token. -/
def Production.LosesTokens : (production : Production) → State → production.Value → Prop
  | .classItem, state, item =>
    state.recovering = false → state.Spelled →
      ∀ target ∈ item.bind ClassItem.abandoned?, Slot.placed target.slots ≠ []
  | .classItems, state, items =>
    state.recovering = false → state.Spelled →
      ∀ target ∈ items.filterMap ClassItem.abandoned?, Slot.placed target.slots ≠ []
  | .classBody, state, body =>
    state.Spelled → ∀ target ∈ body.abandoned, Slot.placed target.slots ≠ []
  | .declaration, state, item =>
    state.Spelled → ∀ target ∈ item.elim [] Declaration.abandoned,
      Slot.placed target.slots ≠ []
  | .declarations, state, items =>
    state.Spelled → ∀ target ∈ items.flatMap Declaration.abandoned,
      Slot.placed target.slots ≠ []
  | _, _, _ => True

/-- A target is abandoned only after its first name was taken. -/
theorem Derivation.placed_target_ne_nil {power : Nat} {state next : State} {target : Expression}
    (reads : Reads (.operation power) state target next) (normal : state.recovering = false)
    (spelled : state.Spelled) (opens : state.isAt .identifier = true) :
    Slot.placed target.slots ≠ [] := by
  intro empty
  have fewer := reads.length_rest_lt normal (by
    simp only [State.isAt, decide_eq_true_eq] at opens
    simp [opens, startsExpression])
  have whole := congrArg List.length (reads.placed spelled)
  rw [Production.placed, Production.slots, empty, List.nil_append] at whole
  simp only [State.placed, List.length_map] at whole
  exact absurd whole (Nat.ne_of_gt fewer)

theorem Derivation.losesTokens {production : Production} {state next : State}
    {value : production.Value} (reads : Reads production state value next) :
    production.LosesTokens state value := by
  induction reads with
  | classVariable => exact fun _ _ _ member => nomatch member
  | classAbandoned opens readsTarget =>
    intro normal spelled target member
    cases member
    exact readsTarget.placed_target_ne_nil normal spelled opens
  | classAssignment => exact fun _ _ _ member => nomatch member
  | classRejected => exact fun _ _ _ member => nomatch member
  | classItemsEnd => exact fun _ _ _ member => nomatch member
  | @classItemsNext _ _ _ skippedNode _ _ _ _ readsItem resumes _ first later =>
    intro normal spelled target member
    have spelledAfter := resumes.spelled (readsItem.spelled spelled)
    rw [List.filterMap_append, List.filterMap_append, List.mem_append, List.mem_append] at member
    rcases member with (here | skipped) | after
    · exact first normal spelled target (by
        simpa [List.mem_filterMap, Option.bind_eq_some_iff] using here)
    · cases skippedNode <;> cases skipped
    · exact later resumes.normal spelledAfter target after
  | classBodyMissing => exact fun _ _ member => nomatch member
  | classBodyWritten taken _ _ items =>
    exact fun spelled => items taken.normal_next (taken.spelled spelled)
  | declarationClass taken readsName _ _ _ _ _ body =>
    exact fun spelled => body (readsName.spelled (taken.spelled spelled))
  | declarationUnfinishedClass taken readsName _ _ _ _ body =>
    exact fun spelled => body (readsName.spelled (taken.spelled spelled))
  | @declarationsNext _ item _ skippedNode _ _ _ _ readsItem resumes _ first later =>
    intro spelled target member
    have spelledAfter := resumes.spelled (readsItem.spelled spelled)
    rw [List.flatMap_append, List.flatMap_append, List.mem_append, List.mem_append] at member
    rcases member with (here | skipped) | after
    · cases item with
      | none => cases here
      | some declaration => exact first spelled target (by simpa using here)
    · cases skippedNode <;> cases skipped
    · exact later spelledAfter target after
  | declarationInstance | declarationPrototype | declarationFunction | declarationNamelessClass
  | declarationVariable | declarationRejected | declarationsEnd =>
    exact fun _ _ member => nomatch member
  | _ => trivial

end ScriptTree.Grammar
