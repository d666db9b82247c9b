import ScriptTree.Proofs.Grammar.Motion
import ScriptTree.Proofs.Grammar.Totality
import ScriptTree.Proofs.Syntax.Unplaced

/-!
# Productions that take nothing

Where a production takes no lexeme, what it yields is the same wherever that
happens, places apart: the parse recovers there, or the input ends, or the next
lexeme belongs to something else.
-/

namespace ScriptTree.Grammar

/-! ## Values without places -/

/-- An operator and its right operand, without places. -/
@[simp]
def BinaryTail.unplaced (tail : BinaryTail) : BinaryTail :=
  ⟨tail.operator, default, tail.right.unplaced⟩

/-- An access, without places. -/
@[simp]
def AccessTail.unplaced : AccessTail → AccessTail
  | .index _ inner closing => .index default inner.unplaced (unplaced? closing)
  | .member _ name => .member default name.unplaced
  | .call _ items closing => .call default (Expression.listUnplaced items) (unplaced? closing)

/-- What follows the target of an assignment, without places. -/
@[simp]
def AssignmentTail.unplaced (tail : AssignmentTail) : AssignmentTail :=
  ⟨tail.operator, unplaced? tail.sign, tail.right.unplaced, unplaced? tail.terminator⟩

/-- A chain of operations loses its places operand by operand. -/
@[simp]
theorem unplaced_foldl_binary (tails : List BinaryTail) (first : Expression) :
    (tails.foldl BinaryTail.onto first).unplaced =
      (tails.map BinaryTail.unplaced).foldl BinaryTail.onto first.unplaced := by
  induction tails generalizing first with
  | nil => rfl
  | cons tail rest ih =>
    rw [List.foldl_cons, ih, List.map_cons, List.foldl_cons, BinaryTail.onto, BinaryTail.onto,
      Expression.unplaced]
    rfl

/-- A row of accesses loses its places access by access. -/
@[simp]
theorem unplaced_foldl_access (tails : List AccessTail) (head : Expression) :
    (tails.foldl AccessTail.onto head).unplaced =
      (tails.map AccessTail.unplaced).foldl AccessTail.onto head.unplaced := by
  induction tails generalizing head with
  | nil => rfl
  | cons tail rest ih =>
    rw [List.foldl_cons, ih, List.map_cons, List.foldl_cons]
    cases tail <;>
      (rw [AccessTail.onto, Expression.unplaced]
       rfl)

theorem AssignmentTail.unplaced_onto (target : Expression) (tail : AssignmentTail) :
    (tail.onto target).unplaced = tail.unplaced.onto target.unplaced :=
  rfl

/-- What a production yields, without places. -/
def Production.unplaced : (production : Production) → production.Value → production.Value
  | .optional _, place | .expected _, place | .closingBrace, place | .terminator, place =>
    unplaced? place
  | .identifier, name | .directName, name => name.unplaced
  | .typeReference, type => type.unplaced
  | .operation _, value | .operand, value | .primary, value | .initialValue, value
  | .condition, value => value.unplaced
  | .operators _, tails => tails.map BinaryTail.unplaced
  | .accesses, tails => tails.map AccessTail.unplaced
  | .arguments, (items, closing) => (Expression.listUnplaced items, unplaced? closing)
  | .elements _, (items, gap) => (Expression.listUnplaced items, unplaced? gap)
  | .arraySize, value => value.map ArraySize.unplaced
  | .initializer, value => value.map Initializer.unplaced
  | .variableDeclaration, value => value.unplaced
  | .assignmentTail, tail => tail.unplaced
  | .block, value => value.unplaced
  | .statements, value => Statement.listUnplaced value
  | .statement, value => value.map Statement.unplaced
  | .branch, value => value.unplaced
  | .parentClause, value => value.map ParentClause.unplaced
  | .instanceBody _, (body, semicolon) => (body.map Block.unplaced, unplaced? semicolon)
  | .declarationBody, (body, semicolon) => (body.unplaced, unplaced? semicolon)
  | .qualifier, value => value.map fun qualifier => (qualifier.1, default)
  | .parameter, value => value.unplaced
  | .parameters, (items, closing) => (unplacedItems Parameter.unplaced items, unplaced? closing)
  | .parameterList, value => value.unplaced
  | .classItem, value => value.map ClassItem.unplaced
  | .classItems, value => value.map ClassItem.unplaced
  | .classBody, value => value.unplaced
  | .declaration, value => value.map Declaration.unplaced
  | .declarations, value => value.map Declaration.unplaced

/-! ## Stand-ins -/

/-- What a production yields where it takes nothing. -/
def Production.standIn : (production : Production) → production.Value
  | .optional _ | .expected _ | .closingBrace | .terminator | .arraySize | .initializer | .statement
  | .parentClause | .qualifier | .classItem | .declaration => none
  | .identifier | .directName => .missing default
  | .typeReference => .missing default
  | .operation _ | .operand | .primary | .initialValue | .condition => .missing default
  | .operators _ | .accesses | .statements | .classItems | .declarations => []
  | .arguments => ([(.missing default, none)], none)
  | .elements _ => ([], some default)
  | .variableDeclaration => ⟨.var, default, .missing default, .missing default, none, none, none⟩
  | .assignmentTail => ⟨.assign, none, .missing default, none⟩
  | .block => .missing default true
  | .branch => .missing default
  | .instanceBody _ => (none, none)
  | .declarationBody => (.missing default true, none)
  | .parameter => ⟨none, .missing default, .missing default⟩
  | .parameters => ([(⟨none, .missing default, .missing default⟩, none)], none)
  | .parameterList => .missing default
  | .classBody => .missing default

/-- Where a production may be begun so that it takes nothing. -/
def Production.MayIdle : Production → State → Prop
  | .elements isFirst, state => isFirst = false → state.isAt .rBrace = false
  | .statement, state => state.recovering = false ∨ state.rest = []
  | .variableDeclaration, _ | .classItem, _ | .declaration, _ | .declarations, _ => False
  | _, _ => True

/-! ## Productions that take something -/

theorem not_declines_of_isAt {token : Token} {state : State} (normal : state.recovering = false)
    (found : state.isAt token = true) : ¬Declines state (State.only token) := by
  intro declined
  rcases takes_of_isAt normal found with ⟨_, _, taken⟩
  have refused := declined normal _ (by rw [taken.front]; rfl)
  rw [taken.recognized] at refused
  cases refused

/-- A variable declaration takes a token at least. -/
theorem Derivation.fewer_variableDeclaration {state next : State} {value : VariableDeclaration}
    (reads : Reads .variableDeclaration state value next) :
    next.rest.length < state.rest.length := by
  cases reads with
  | variableDeclaration taken readsType readsName readsSize readsInitializer ends =>
    grind [→ Taking.length_rest, → Derivation.length_rest_le]

theorem Derivation.fewer_expected {token : Token} {state next : State} {value : Option Range}
    (reads : Reads (.expected token) state value next) (normal : state.recovering = false)
    (found : state.isAt token = true) : next.rest.length < state.rest.length := by
  cases reads with
  | expectedTaken taken => exact taken.fewer
  | expectedMissing missed => exact absurd missed.declines (not_declines_of_isAt normal found)
  | expectedIdle recovering => simp [normal] at recovering

theorem Derivation.fewer_block {state next : State} {value : Block}
    (reads : Reads .block state value next) (normal : state.recovering = false)
    (opens : state.isAt .lBrace = true) : next.rest.length < state.rest.length := by
  cases reads with
  | blockMissing declined => exact absurd declined (not_declines_of_isAt normal opens)
  | blockWritten taken readsItems closes =>
    grind [→ Taking.length_rest, → Derivation.length_rest_le]

/-- A sign that is seen is taken. -/
theorem Derivation.fewer_assignmentTail {state next : State} {target : Expression}
    {value : AssignmentTail}
    (reads : Reads .assignmentTail (state.checkTarget target) value next)
    (signed : (!state.recovering && state.peek.any Token.isAssignmentOperator) = true) :
    next.rest.length < state.rest.length := by
  rw [Bool.and_eq_true, Bool.not_eq_true'] at signed
  cases reads with
  | assignmentSigned taken readsRight ends =>
    have fewer := taken.fewer
    rw [State.rest_checkTarget] at fewer
    exact Nat.lt_of_le_of_lt ends.length_rest_le
      (Nat.lt_of_le_of_lt readsRight.length_rest_le fewer)
  | assignmentUnsigned declined =>
    rcases exists_head_of_any_peek signed.2 with ⟨lexeme, first, operator⟩
    have refused := declined (by simp [State.Normal, signed.1]) lexeme (by simp [first])
    cases found : lexeme.token <;> rw [found] at operator refused <;>
      simp [Token.isAssignmentOperator, AssignmentOperator.ofToken?] at operator refused

/-- Where something opens, a parse that is not at the end in its recovery is in its normal mode. -/
theorem State.normal_of_opens {state : State} {test : Token → Bool}
    (attends : state.recovering = false ∨ state.rest = [])
    (opens : state.peek.any test = true) : state.recovering = false := by
  rcases attends with normal | empty
  · exact normal
  · simp [State.peek, empty] at opens

/-- A production that takes nothing yields its stand-in, places apart. -/
theorem Derivation.unplaced_eq_standIn {production : Production} {state next : State}
    {value : production.Value} (reads : Reads production state value next)
    (idle : state.rest.length ≤ next.rest.length) (may : production.MayIdle state) :
    production.unplaced value = production.standIn := by
  induction reads with
  -- A lexeme is taken, so the parse is not idle.
  | optionalTaken taken | expectedTaken taken | closingBraceTaken taken | terminatorTaken taken
  | identifierTaken taken | nameTaken taken | typeTaken taken | primaryLiteral taken
  | qualifierWritten taken => exact absurd idle (Nat.not_le.mpr taken.fewer)
  | operatorsNext taken | operandSigned taken | primaryParenthesized taken | accessesIndex taken
  | accessesMember taken | accessesEmptyCall taken | accessesCall taken | initialElements taken
  | arraySizeWritten taken | initializerWritten taken | assignmentSigned taken | blockWritten taken
  | statementIf taken | statementIfElse taken | statementReturn taken | statementReturnValue taken
  | parentWritten taken | parameterListEmpty taken | parameterListFilled taken
  | classBodyWritten taken | argumentsTrailing _ taken | argumentsNext _ taken
  | elementsNext _ _ _ taken | parametersTrailing _ taken | parametersNext _ taken
  | instanceForward taken =>
    have fewer := taken.fewer
    grind [→ Taking.fewer, → Derivation.length_rest_le, State.rest_fail, State.rest_reportMissing]
  -- Something opens, so a lexeme would have been taken.
  | @statementBlock state _ _ opens readsBlock =>
    have normal : state.recovering = false := by
      rcases may with normal | empty
      · exact normal
      · simp [State.isAt, State.peek, empty] at opens
    exact absurd (readsBlock.fewer_block normal opens) (Nat.not_lt.mpr idle)
  | statementExpression opens readsExpression _ ends =>
    have fewer := readsExpression.length_rest_lt (State.normal_of_opens may opens) opens
    exact absurd (Nat.lt_of_le_of_lt ends.length_rest_le fewer) (Nat.not_lt.mpr idle)
  | statementAssignment opens readsTarget _ readsTail =>
    have fewer := readsTarget.length_rest_lt (State.normal_of_opens may opens) opens
    have fewerStill := readsTail.length_rest_le
    rw [State.rest_checkTarget] at fewerStill
    exact absurd (Nat.lt_of_le_of_lt fewerStill fewer) (Nat.not_lt.mpr idle)
  | statementVariable readsDeclaration =>
    exact absurd idle (Nat.not_le.mpr readsDeclaration.fewer_variableDeclaration)
  | branchBlock normal opens readsBlock readsSemicolon
  | instanceBlock normal opens readsBlock readsSemicolon =>
    have fewer := readsBlock.fewer_block normal opens
    exact absurd (Nat.lt_of_le_of_lt readsSemicolon.length_rest_le fewer) (Nat.not_lt.mpr idle)
  | statementsNext _ readsItem resumes readsMore | classItemsNext _ readsItem resumes readsMore =>
    have fewer := resumes.fewer readsItem.length_rest_le
    exact absurd (Nat.lt_of_le_of_lt readsMore.length_rest_le fewer) (Nat.not_lt.mpr idle)
  -- Not read where they might take nothing.
  | variableDeclaration | classVariable | classAbandoned | classAssignment | classRejected
  | declarationInstance | declarationPrototype | declarationFunction | declarationNamelessClass
  | declarationUnfinishedClass | declarationClass | declarationVariable | declarationRejected
  | declarationsEnd | declarationsNext => exact may.elim
  -- Nothing is there.
  | optionalAbsent | expectedMissing | expectedIdle | closingBraceMissing | terminatorGranted
  | terminatorMissing | terminatorIdle | identifierMissing | identifierIdle | nameMissing
  | typeMissing | operatorsEnd | primaryMissing | accessesEnd | arraySizeAbsent
  | initializerAbsent | blockMissing | statementsEnd | statementAbsent | statementRejected
  | branchRecovering | parentAbsent | instanceIdle | instanceBare | bodyIdle | qualifierAbsent
  | parameterListIdle | parameterListMissing | classItemsEnd | classBodyMissing => rfl
  | elementsEnd ends => rw [may rfl] at ends; cases ends
  | elementsLast _ _ present _ element =>
    have missing := congrArg Expression.isMissing (element idle trivial)
    simp only [Production.unplaced, Expression.isMissing_unplaced, present] at missing
    cases missing
  | elementsMissing => rfl
  -- Each part takes nothing in its turn.
  | operation readsOperand readsOperators operand operators =>
    have first := operand (idle.trans readsOperators.length_rest_le) trivial
    have more := operators (readsOperand.length_rest_le.trans idle) trivial
    simp_all [Production.unplaced, Production.standIn]
  | operandPlain _ readsPrimary readsAccesses primary accesses =>
    have first := primary (idle.trans readsAccesses.length_rest_le) trivial
    have more := accesses (readsPrimary.length_rest_le.trans idle) trivial
    simp_all [Production.unplaced, Production.standIn]
  | argumentsLast readsArgument _ closes argument closing =>
    have first := argument (idle.trans closes.length_rest_le) trivial
    have more := closing (readsArgument.length_rest_le.trans idle) trivial
    simp_all [Production.unplaced, Production.standIn]
  | initialExpression _ _ expression => exact expression idle trivial
  | assignmentUnsigned _ _ ending =>
    have more := ending (by rwa [State.rest_fail]) trivial
    simp_all [Production.unplaced, Production.standIn]
  | conditionBare _ _ _ condition => exact condition (by rwa [State.rest_reportMissing]) trivial
  | conditionPlain _ _ condition => exact condition idle trivial
  | branchStatement normal _ _ statement => cases statement idle (.inl normal)
  | branchMissing => rfl
  | bodyMissing _ _ _ body =>
    have first := body idle trivial
    simp_all [Production.unplaced, Production.standIn]
  | bodyWritten _ readsBody _ readsSemicolon body semicolon =>
    have first := body (idle.trans readsSemicolon.length_rest_le) trivial
    have more := semicolon (readsBody.length_rest_le.trans idle) trivial
    simp_all [Production.unplaced, Production.standIn]
  | parameter readsQualifier readsType readsName qualifier type name =>
    have afterType := idle.trans readsName.length_rest_le
    have first := qualifier (afterType.trans readsType.length_rest_le) trivial
    have second := type (readsQualifier.length_rest_le.trans afterType) trivial
    have third := name
      (readsType.length_rest_le.trans (readsQualifier.length_rest_le.trans idle)) trivial
    simp_all [Production.unplaced, Production.standIn, Parameter.unplaced]
  | parametersLast readsItem _ closes item closing =>
    have first := item (idle.trans closes.length_rest_le) trivial
    have more := closing (readsItem.length_rest_le.trans idle) trivial
    simp_all [Production.unplaced, Production.standIn, unplacedItems]

end ScriptTree.Grammar
