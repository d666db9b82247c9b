import ScriptTree.Proofs.Grammar.Agreement
import ScriptTree.Proofs.Grammar.Nesting

/-!
# Every state has a derivation

Every production can be read from every state, whatever stands there: it can
where all that it calls can be read, and calls cannot be nested without end.
Together with the agreement of the rules with the functions this makes the two
the same grammar: what is proved by induction on the rules holds of whatever the
functions compute, for all lexemes.
-/

namespace ScriptTree.Grammar

theorem takes_of_isAt {token : Token} {state : State} (normal : state.recovering = false)
    (found : state.isAt token = true) :
    ∃ lexeme next, Takes state (State.only token) () lexeme next := by
  rcases takes_or_declines state (State.only token) with ⟨_, lexeme, next, taken⟩ | declined
  · exact ⟨lexeme, next, taken⟩
  · obtain ⟨lexeme, first, rfl⟩ := exists_head_of_isAt found
    have refused := declined normal lexeme first
    simp [State.only] at refused

/-- A closing parenthesis after a comma is taken although something is missing between them. -/
theorem Taking.takes_closing {α : Type} {state next : State} {recognize : Token → Option α}
    {value : α} {lexeme : Lexeme} (taken : Takes state recognize value lexeme next)
    (found : next.isAt .rParen = true) (expected : Expectation) :
    ∃ closing final, Takes (next.fail expected) (State.only .rParen) () closing final := by
  apply takes_of_isAt
  · have admits : next.admitsInsertion = true := by
      obtain ⟨lexeme, first, closes⟩ := exists_head_of_isAt found
      simp [State.admitsInsertion, first, closes]
    rw [State.recovering_fail, taken.normal_next, admits]
    rfl
  · simpa [State.isAt, State.peek] using found

/-- A production has a derivation from a state. -/
def Derives (production : Production) (state : State) : Prop :=
  ∃ value next, Reads production state value next

theorem derives_optional (token : Token) (state : State) : Derives (.optional token) state := by
  rcases takes_or_declines state (State.only token) with ⟨_, _, _, taken⟩ | declined
  · exact ⟨_, _, .optionalTaken taken⟩
  · exact ⟨_, _, .optionalAbsent declined⟩

theorem derives_expected (token : Token) (state : State) : Derives (.expected token) state := by
  cases recovering : state.recovering with
  | true => exact ⟨_, _, .expectedIdle recovering⟩
  | false =>
    rcases takes_or_misses recovering (State.only token) with ⟨_, _, _, taken⟩ | missed
    · exact ⟨_, _, .expectedTaken taken⟩
    · exact ⟨_, _, .expectedMissing missed⟩

theorem derives_closingBrace (state : State) : Derives .closingBrace state := by
  rcases takes_or_declines state (State.only .rBrace) with ⟨_, _, _, taken⟩ | declined
  · exact ⟨_, _, .closingBraceTaken taken⟩
  · exact ⟨_, _, .closingBraceMissing declined⟩

theorem derives_terminator (state : State) : Derives .terminator state := by
  cases recovering : state.recovering with
  | true => exact ⟨_, _, .terminatorIdle recovering⟩
  | false =>
    rcases takes_or_misses recovering (State.only .semicolon) with ⟨_, _, _, taken⟩ | missed
    · exact ⟨_, _, .terminatorTaken taken⟩
    · cases opens : state.peek.any State.opensNextStatement with
      | true => exact ⟨_, _, .terminatorGranted missed opens⟩
      | false => exact ⟨_, _, .terminatorMissing missed opens⟩

theorem derives_identifier (state : State) : Derives .identifier state := by
  cases recovering : state.recovering with
  | true => exact ⟨_, _, .identifierIdle recovering⟩
  | false =>
    rcases takes_or_misses recovering (State.only .identifier) with ⟨_, _, _, taken⟩ | missed
    · exact ⟨_, _, .identifierTaken taken⟩
    · exact ⟨_, _, .identifierMissing missed⟩

theorem derives_name (state : State) : Derives .directName state := by
  rcases takes_or_declines state (State.only .identifier) with ⟨_, _, _, taken⟩ | declined
  · exact ⟨_, _, .nameTaken taken⟩
  · exact ⟨_, _, .nameMissing declined⟩

theorem derives_typeReference (state : State) : Derives .typeReference state := by
  rcases takes_or_declines state State.recognizeType with ⟨_, _, _, taken⟩ | declined
  · exact ⟨_, _, .typeTaken taken⟩
  · exact ⟨_, _, .typeMissing declined⟩

/-! ## Productions that call others -/

/-- Whatever a call calls has a derivation. -/
def Served (call : Call) : Prop :=
  ∀ ⦃production : Production⦄ ⦃state : State⦄,
    call.Calls ⟨production, state⟩ → Derives production state

section

variable {state : State}

theorem derives_operation {power : Nat} (served : Served ⟨.operation power, state⟩) :
    Derives (.operation power) state := by
  obtain ⟨_, between, first⟩ := served .operationOperand
  obtain ⟨_, _, rest⟩ := served (.operationOperators first)
  exact ⟨_, _, .operation first rest⟩

theorem derives_operators {power : Nat} (served : Served ⟨.operators power, state⟩) :
    Derives (.operators power) state := by
  rcases takes_or_declines state (operatorFrom? power) with
    ⟨operator, sign, afterSign, taken⟩ | declined
  · have fewer := taken.fewer
    obtain ⟨_, afterRight, right⟩ := served (.operatorsOperand taken)
    obtain ⟨_, _, more⟩ := served (.operatorsNext taken right)
    exact ⟨_, _, .operatorsNext taken right more⟩
  · exact ⟨_, _, .operatorsEnd declined⟩

theorem derives_operand (served : Served ⟨.operand, state⟩) : Derives .operand state := by
  rcases takes_or_declines state UnaryOperator.ofToken? with
    ⟨_, _, afterSign, taken⟩ | declined
  · have fewer := taken.fewer
    obtain ⟨_, _, inner⟩ := served (.operandSigned taken)
    exact ⟨_, _, .operandSigned taken inner⟩
  · obtain ⟨_, afterHead, head⟩ := served (.operandPrimary declined)
    obtain ⟨_, _, tails⟩ := served (.operandAccesses declined head)
    exact ⟨_, _, .operandPlain declined head tails⟩

theorem derives_primary (served : Served ⟨.primary, state⟩) : Derives .primary state := by
  rcases takes_or_declines state (State.only .lParen) with ⟨_, _, afterOpening, taken⟩ | noOpening
  · have fewer := taken.fewer
    obtain ⟨_, afterInner, inner⟩ := served (.primaryInner taken)
    obtain ⟨_, _, closes⟩ := derives_expected .rParen afterInner
    exact ⟨_, _, .primaryParenthesized taken inner closes⟩
  · rcases takes_or_declines state Literal.ofToken? with ⟨_, _, _, taken⟩ | declined
    · exact ⟨_, _, .primaryLiteral taken⟩
    · exact ⟨_, _, .primaryMissing noOpening declined⟩

theorem derives_accesses (served : Served ⟨.accesses, state⟩) : Derives .accesses state := by
  rcases takes_or_declines state Access.ofToken? with
    ⟨access, _, afterOpening, taken⟩ | declined
  · have fewer := taken.fewer
    cases access with
    | index =>
      obtain ⟨_, afterInner, inner⟩ := served (.accessesInner taken)
      obtain ⟨_, afterClosing, closes⟩ := derives_expected .rBracket afterInner
      obtain ⟨_, _, more⟩ := served (.accessesIndex taken inner closes)
      exact ⟨_, _, .accessesIndex taken inner closes more⟩
    | member =>
      obtain ⟨_, afterName, name⟩ := derives_name afterOpening
      obtain ⟨_, _, more⟩ := served (.accessesMember taken name)
      exact ⟨_, _, .accessesMember taken name more⟩
    | arguments =>
      cases filled : afterOpening.isAt .rParen with
      | true =>
        obtain ⟨_, afterClosing, closes⟩ := takes_of_isAt taken.normal_next filled
        obtain ⟨_, _, more⟩ := served (.accessesEmptyCall taken closes)
        exact ⟨_, _, .accessesEmptyCall taken closes more⟩
      | false =>
        obtain ⟨⟨_, _⟩, afterClosing, items⟩ := served (.accessesArguments taken filled)
        obtain ⟨_, _, more⟩ := served (.accessesCall taken filled items)
        exact ⟨_, _, .accessesCall taken filled items more⟩
  · exact ⟨_, _, .accessesEnd declined⟩

theorem derives_arguments (served : Served ⟨.arguments, state⟩) : Derives .arguments state := by
  obtain ⟨_, afterArgument, argument⟩ := served .argumentsItem
  rcases takes_or_declines afterArgument (State.only .comma) with
    ⟨_, _, afterComma, taken⟩ | declined
  · have fewerStill := taken.fewer
    cases goesOn : afterComma.isAt .rParen with
    | true =>
      obtain ⟨_, _, closes⟩ := taken.takes_closing goesOn (.production "expression")
      exact ⟨_, _, .argumentsTrailing argument taken closes⟩
    | false =>
      obtain ⟨⟨_, _⟩, _, more⟩ := served (.argumentsNext argument taken goesOn)
      exact ⟨_, _, .argumentsNext argument taken goesOn more⟩
  · obtain ⟨_, _, closes⟩ := derives_expected .rParen afterArgument
    exact ⟨_, _, .argumentsLast argument declined closes⟩

theorem derives_elements {isFirst : Bool} (served : Served ⟨.elements isFirst, state⟩) :
    Derives (.elements isFirst) state := by
  cases goesOn : !isFirst && state.isAt .rBrace with
  | true =>
    simp only [Bool.and_eq_true, Bool.not_eq_true'] at goesOn
    obtain ⟨rfl, ends⟩ := goesOn
    exact ⟨_, _, .elementsEnd ends⟩
  | false =>
    obtain ⟨element, afterElement, reads⟩ := served (.elementsItem goesOn)
    cases missing : element.isMissing with
    | true => exact ⟨_, _, .elementsMissing goesOn reads missing⟩
    | false =>
      rcases takes_or_declines afterElement (State.only .comma) with
        ⟨_, _, afterComma, taken⟩ | declined
      · have fewerStill := taken.fewer
        obtain ⟨⟨_, _⟩, _, more⟩ := served (.elementsNext goesOn reads missing taken)
        exact ⟨_, _, .elementsNext goesOn reads missing taken more⟩
      · exact ⟨_, _, .elementsLast goesOn reads missing declined⟩

theorem derives_initialValue (served : Served ⟨.initialValue, state⟩) :
    Derives .initialValue state := by
  rcases takes_or_declines state (State.only .lBrace) with
    ⟨_, _, afterOpening, taken⟩ | declined
  · obtain ⟨⟨_, _⟩, afterItems, items⟩ := served (.initialElements taken)
    obtain ⟨_, _, closes⟩ := derives_expected .rBrace afterItems
    exact ⟨_, _, .initialElements taken items closes⟩
  · obtain ⟨_, _, value⟩ := served (.initialExpression declined)
    exact ⟨_, _, .initialExpression declined value⟩

theorem derives_arraySize (served : Served ⟨.arraySize, state⟩) : Derives .arraySize state := by
  rcases takes_or_declines state (State.only .lBracket) with
    ⟨_, _, afterOpening, taken⟩ | declined
  · obtain ⟨_, afterSize, size⟩ := served (.arraySize taken)
    obtain ⟨_, _, closes⟩ := derives_expected .rBracket afterSize
    exact ⟨_, _, .arraySizeWritten taken size closes⟩
  · exact ⟨_, _, .arraySizeAbsent declined⟩

theorem derives_initializer (served : Served ⟨.initializer, state⟩) :
    Derives .initializer state := by
  rcases takes_or_declines state (State.only .assign) with ⟨_, _, afterSign, taken⟩ | declined
  · obtain ⟨_, _, value⟩ := served (.initializer taken)
    exact ⟨_, _, .initializerWritten taken value⟩
  · exact ⟨_, _, .initializerAbsent declined⟩

/-- A variable declaration is read where its keyword stands. -/
theorem derives_variableDeclaration (served : Served ⟨.variableDeclaration, state⟩)
    {kind : VariableKind} {keyword : Lexeme} {afterKeyword : State}
    (taken : Takes state VariableKind.ofToken? kind keyword afterKeyword) :
    Derives .variableDeclaration state := by
  obtain ⟨_, afterType, type⟩ := derives_typeReference afterKeyword
  obtain ⟨_, afterName, name⟩ := derives_identifier afterType
  obtain ⟨_, afterSize, size⟩ := served (.variableSize taken type name)
  obtain ⟨_, afterInitializer, initializer⟩ := served (.variableInitializer taken type name size)
  obtain ⟨_, _, ends⟩ := derives_terminator afterInitializer
  exact ⟨_, _, .variableDeclaration taken type name size initializer ends⟩

theorem derives_assignmentTail (served : Served ⟨.assignmentTail, state⟩) :
    Derives .assignmentTail state := by
  rcases takes_or_declines state AssignmentOperator.ofToken? with
    ⟨_, _, afterSign, taken⟩ | declined
  · obtain ⟨_, afterRight, right⟩ := served (.assignmentRight taken)
    obtain ⟨_, _, ends⟩ := derives_terminator afterRight
    exact ⟨_, _, .assignmentSigned taken right ends⟩
  · obtain ⟨_, _, ends⟩ := derives_terminator (state.fail (.tokens [.assign]))
    exact ⟨_, _, .assignmentUnsigned declined ends⟩

theorem derives_condition (served : Served ⟨.condition, state⟩) : Derives .condition state := by
  cases plain : !state.isAt .lParen && state.peek.any startsExpression with
  | true =>
    simp only [Bool.and_eq_true, Bool.not_eq_true'] at plain
    obtain ⟨_, _, inner⟩ := served (.conditionBare plain.1 plain.2)
    exact ⟨_, _, .conditionBare plain.1 plain.2 inner⟩
  | false =>
    obtain ⟨_, _, inner⟩ := served (.conditionPlain plain)
    exact ⟨_, _, .conditionPlain plain inner⟩

/-- A list always finds a place to resume. -/
theorem exists_resumes (level : SyncLevel) (start state : State)
    (nonempty : start.rest ≠ []) :
    ∃ skipped resumed, Resumes level start state skipped resumed := by
  by_cases progress : state.rest.length < start.rest.length
  · cases recovering : state.recovering with
    | true => exact ⟨_, _, .synchronized (.inl ⟨progress, recovering⟩)⟩
    | false => exact ⟨_, _, .onward progress recovering⟩
  · cases found : (state.synchronize level).1 with
    | some node => exact ⟨_, _, .synchronized (.inr ⟨progress, by rw [found]; rfl⟩)⟩
    | none =>
      cases front : state.rest with
      | nil =>
        have positive := List.length_pos_iff.mpr nonempty
        rw [front, List.length_nil] at progress
        exact absurd positive progress
      | cons lexeme rest => exact ⟨_, _, .skippedOne progress found front⟩

theorem derives_block (served : Served ⟨.block, state⟩) : Derives .block state := by
  rcases takes_or_declines state (State.only .lBrace) with
    ⟨_, _, afterOpening, taken⟩ | declined
  · have fewer := taken.fewer
    obtain ⟨_, afterItems, items⟩ := served (.blockItems taken)
    obtain ⟨_, _, closes⟩ := derives_closingBrace afterItems
    exact ⟨_, _, .blockWritten taken items closes⟩
  · exact ⟨_, _, .blockMissing declined⟩

theorem derives_statements (served : Served ⟨.statements, state⟩) :
    Derives .statements state := by
  cases goesOn : endsList state with
  | true => exact ⟨_, _, .statementsEnd goesOn⟩
  | false =>
    obtain ⟨_, afterItem, item⟩ := served (.statementsItem goesOn)
    obtain ⟨_, resumed, resumes⟩ := exists_resumes .statement state afterItem
      (rest_ne_nil_of_endsList_eq_false (by simp [goesOn]))
    obtain ⟨_, _, more⟩ := served (.statementsNext goesOn item resumes)
    exact ⟨_, _, .statementsNext goesOn item resumes more⟩

theorem derives_ifStatement (served : Served ⟨.statement, state⟩) {keyword : Lexeme}
    {afterKeyword : State} (taken : Takes state (State.only .kwIf) () keyword afterKeyword) :
    Derives .statement state := by
  obtain ⟨_, afterCondition, condition⟩ := served (.statementCondition taken)
  obtain ⟨_, afterConsequence, consequence⟩ := served (.statementConsequence taken condition)
  rcases takes_or_declines afterConsequence (State.only .kwElse) with
    ⟨_, _, afterElse, otherwise⟩ | noElse
  · have fewerAfterElse := otherwise.fewer
    obtain ⟨_, _, alternative⟩ := served
      (.statementAlternative taken condition consequence otherwise)
    exact ⟨_, _, .statementIfElse taken condition consequence otherwise alternative⟩
  · exact ⟨_, _, .statementIf taken condition consequence noElse⟩

theorem derives_statement (served : Served ⟨.statement, state⟩) : Derives .statement state := by
  rcases takes_or_declines state (State.only .kwIf) with ⟨_, _, afterKeyword, taken⟩ | noIf
  · have fewer := taken.fewer
    exact derives_ifStatement served taken
  rcases takes_or_declines state (State.only .kwReturn) with
    ⟨_, _, afterKeyword, taken⟩ | noReturn
  · cases opens : afterKeyword.peek.any startsExpression with
    | true =>
      obtain ⟨_, afterValue, value⟩ := served (.statementValue taken opens)
      obtain ⟨_, _, ends⟩ := derives_terminator afterValue
      exact ⟨_, _, .statementReturnValue taken opens value ends⟩
    | false =>
      obtain ⟨_, _, ends⟩ := derives_terminator afterKeyword
      exact ⟨_, _, .statementReturn taken opens ends⟩
  rcases takes_or_declines state VariableKind.ofToken? with ⟨_, _, _, taken⟩ | noKind
  · obtain ⟨_, _, declaration⟩ := served (.statementVariable taken)
    exact ⟨_, _, .statementVariable declaration⟩
  cases noBlock : state.isAt .lBrace with
  | true =>
    obtain ⟨_, _, inner⟩ := served (.statementBlock noBlock)
    exact ⟨_, _, .statementBlock noBlock inner⟩
  | false =>
    cases noExpression : state.peek.any startsExpression with
    | true =>
      obtain ⟨expression, afterExpression, reads⟩ := served (.statementExpression noExpression)
      cases signed : !afterExpression.recovering &&
          afterExpression.peek.any Token.isAssignmentOperator with
      | true =>
        obtain ⟨_, _, tail⟩ := served (.statementAssignment noExpression reads signed)
        exact ⟨_, _, .statementAssignment noExpression reads signed tail⟩
      | false =>
        obtain ⟨_, _, ends⟩ := derives_terminator afterExpression
        exact ⟨_, _, .statementExpression noExpression reads signed ends⟩
    | false =>
      by_cases empty : state.rest = []
      · exact ⟨_, _, .statementAbsent empty⟩
      · exact ⟨_, _, .statementRejected empty noIf noReturn noKind noBlock noExpression⟩

theorem derives_branch (served : Served ⟨.branch, state⟩) : Derives .branch state := by
  cases recovering : state.recovering with
  | true => exact ⟨_, _, .branchRecovering recovering⟩
  | false =>
    cases opens : state.isAt .lBrace with
    | true =>
      obtain ⟨_, afterBlock, inner⟩ := served (.branchBlock recovering opens)
      obtain ⟨_, _, semicolon⟩ := derives_optional .semicolon afterBlock
      exact ⟨_, _, .branchBlock recovering opens inner semicolon⟩
    | false =>
      obtain ⟨item, _, reads⟩ := served (.branchStatement recovering opens)
      cases item with
      | none => exact ⟨_, _, .branchMissing recovering opens reads⟩
      | some statement => exact ⟨_, _, .branchStatement recovering opens reads⟩

theorem derives_parentClause (state : State) : Derives .parentClause state := by
  rcases takes_or_declines state (State.only .lParen) with
    ⟨_, _, afterOpening, taken⟩ | declined
  · obtain ⟨_, afterName, name⟩ := derives_name afterOpening
    obtain ⟨_, _, closes⟩ := derives_expected .rParen afterName
    exact ⟨_, _, .parentWritten taken name closes⟩
  · exact ⟨_, _, .parentAbsent declined⟩

theorem derives_instanceBody {hasParent : Bool} (served : Served ⟨.instanceBody hasParent, state⟩) :
    Derives (.instanceBody hasParent) state := by
  cases recovering : state.recovering with
  | true => exact ⟨_, _, .instanceIdle recovering⟩
  | false =>
    cases opens : state.isAt .lBrace with
    | true =>
      obtain ⟨_, afterBody, body⟩ := served (.instanceBlock recovering opens)
      obtain ⟨_, _, semicolon⟩ := derives_optional .semicolon afterBody
      exact ⟨_, _, .instanceBlock recovering opens body semicolon⟩
    | false =>
      cases forward : state.isAt .semicolon with
      | true =>
        have normal : (if hasParent then state else state.reportMissing .lParen).recovering =
            false := by
          split <;> exact recovering
        have found : (if hasParent then state else state.reportMissing .lParen).isAt .semicolon =
            true := by
          split <;> exact forward
        obtain ⟨_, _, taken⟩ := takes_of_isAt normal found
        exact ⟨_, _, .instanceForward taken⟩
      | false => exact ⟨_, _, .instanceBare recovering opens forward⟩

theorem derives_declarationBody (served : Served ⟨.declarationBody, state⟩) :
    Derives .declarationBody state := by
  cases recovering : state.recovering with
  | true => exact ⟨_, _, .bodyIdle recovering⟩
  | false =>
    obtain ⟨body, afterBody, reads⟩ := served (.bodyBlock recovering)
    cases missing : body.isMissing with
    | true => exact ⟨_, _, .bodyMissing recovering reads missing⟩
    | false =>
      obtain ⟨_, _, semicolon⟩ := derives_optional .semicolon afterBody
      exact ⟨_, _, .bodyWritten recovering reads missing semicolon⟩

theorem derives_qualifier (state : State) : Derives .qualifier state := by
  rcases takes_or_declines state VariableKind.ofToken? with ⟨_, _, _, taken⟩ | declined
  · exact ⟨_, _, .qualifierWritten taken⟩
  · exact ⟨_, _, .qualifierAbsent declined⟩

theorem derives_parameter (state : State) : Derives .parameter state := by
  obtain ⟨_, afterQualifier, qualifier⟩ := derives_qualifier state
  obtain ⟨_, afterType, type⟩ := derives_typeReference afterQualifier
  obtain ⟨_, _, name⟩ := derives_identifier afterType
  exact ⟨_, _, .parameter qualifier type name⟩

theorem derives_parameters (served : Served ⟨.parameters, state⟩) :
    Derives .parameters state := by
  obtain ⟨_, afterItem, item⟩ := served .parametersItem
  rcases takes_or_declines afterItem (State.only .comma) with
    ⟨_, _, afterComma, taken⟩ | declined
  · have fewerStill := taken.fewer
    cases goesOn : afterComma.isAt .rParen with
    | true =>
      obtain ⟨_, _, closes⟩ := taken.takes_closing goesOn (.production "parameter")
      exact ⟨_, _, .parametersTrailing item taken closes⟩
    | false =>
      obtain ⟨⟨_, _⟩, _, more⟩ := served (.parametersNext item taken goesOn)
      exact ⟨_, _, .parametersNext item taken goesOn more⟩
  · obtain ⟨_, _, closes⟩ := derives_expected .rParen afterItem
    exact ⟨_, _, .parametersLast item declined closes⟩

theorem derives_parameterList (served : Served ⟨.parameterList, state⟩) :
    Derives .parameterList state := by
  cases recovering : state.recovering with
  | true => exact ⟨_, _, .parameterListIdle recovering⟩
  | false =>
    rcases takes_or_misses recovering (State.only .lParen) with
      ⟨_, _, afterOpening, taken⟩ | missed
    · cases filled : afterOpening.isAt .rParen with
      | true =>
        obtain ⟨_, _, closes⟩ := takes_of_isAt taken.normal_next filled
        exact ⟨_, _, .parameterListEmpty taken closes⟩
      | false =>
        obtain ⟨⟨_, _⟩, _, items⟩ := served (.parameterListItems taken filled)
        exact ⟨_, _, .parameterListFilled taken filled items⟩
    · exact ⟨_, _, .parameterListMissing missed⟩

theorem derives_classItem (served : Served ⟨.classItem, state⟩) : Derives .classItem state := by
  rcases takes_or_declines state VariableKind.ofToken? with ⟨_, _, _, taken⟩ | noKind
  · obtain ⟨_, _, declaration⟩ := served (.classVariable taken)
    exact ⟨_, _, .classVariable declaration⟩
  cases opens : state.isAt .identifier with
  | true =>
    obtain ⟨target, afterTarget, reads⟩ := served (.classTarget opens)
    cases recovering : afterTarget.recovering with
    | true => exact ⟨_, _, .classAbandoned opens reads recovering⟩
    | false =>
      obtain ⟨_, _, tail⟩ := served (.classAssignment opens reads recovering)
      exact ⟨_, _, .classAssignment opens reads recovering tail⟩
  | false => exact ⟨_, _, .classRejected noKind opens⟩

theorem derives_classItems (served : Served ⟨.classItems, state⟩) :
    Derives .classItems state := by
  cases goesOn : endsList state with
  | true => exact ⟨_, _, .classItemsEnd goesOn⟩
  | false =>
    obtain ⟨_, afterItem, item⟩ := served (.classItemsItem goesOn)
    obtain ⟨_, resumed, resumes⟩ := exists_resumes .statement state afterItem
      (rest_ne_nil_of_endsList_eq_false (by simp [goesOn]))
    obtain ⟨_, _, more⟩ := served (.classItemsNext goesOn item resumes)
    exact ⟨_, _, .classItemsNext goesOn item resumes more⟩

theorem derives_classBody (served : Served ⟨.classBody, state⟩) : Derives .classBody state := by
  rcases takes_or_declines state (State.only .lBrace) with
    ⟨_, _, afterOpening, taken⟩ | declined
  · obtain ⟨_, afterItems, items⟩ := served (.classBodyItems taken)
    obtain ⟨_, _, closes⟩ := derives_closingBrace afterItems
    exact ⟨_, _, .classBodyWritten taken items closes⟩
  · exact ⟨_, _, .classBodyMissing declined⟩

theorem derives_declaration (served : Served ⟨.declaration, state⟩) :
    Derives .declaration state := by
  rcases takes_or_declines state DeclarationStart.ofToken? with
    ⟨start, keyword, afterKeyword, taken⟩ | declined
  · cases start with
    | instanceKeyword =>
      obtain ⟨_, afterName, name⟩ := derives_name afterKeyword
      obtain ⟨parent, afterParent, readsParent⟩ := derives_parentClause afterName
      obtain ⟨⟨_, _⟩, _, body⟩ := served (.instanceBody taken name readsParent)
      exact ⟨_, _, .declarationInstance taken name readsParent body⟩
    | prototypeKeyword =>
      obtain ⟨_, afterName, name⟩ := derives_name afterKeyword
      obtain ⟨_, afterOpening, opens⟩ := derives_expected .lParen afterName
      obtain ⟨_, afterParent, parent⟩ := derives_identifier afterOpening
      obtain ⟨_, afterClosing, closes⟩ := derives_expected .rParen afterParent
      obtain ⟨⟨_, _⟩, _, body⟩ := served (.prototypeBody taken name opens parent closes)
      exact ⟨_, _, .declarationPrototype taken name opens parent closes body⟩
    | functionKeyword =>
      obtain ⟨_, afterType, type⟩ := derives_typeReference afterKeyword
      obtain ⟨_, afterName, name⟩ := derives_identifier afterType
      obtain ⟨_, afterParameters, parameters⟩ := served (.functionParameters taken type name)
      obtain ⟨⟨_, _⟩, _, body⟩ := served (.functionBody taken type name parameters)
      exact ⟨_, _, .declarationFunction taken type name parameters body⟩
    | classKeyword =>
      obtain ⟨_, afterName, name⟩ := derives_name afterKeyword
      cases recovering : afterName.recovering with
      | true => exact ⟨_, _, .declarationNamelessClass taken name recovering⟩
      | false =>
        obtain ⟨body, afterBody, reads⟩ := served (.classBody taken name recovering)
        cases missing : body.isMissing with
        | true => exact ⟨_, _, .declarationUnfinishedClass taken name recovering reads missing⟩
        | false =>
          obtain ⟨_, _, semicolon⟩ := derives_optional .semicolon afterBody
          exact ⟨_, _, .declarationClass taken name recovering reads missing semicolon⟩
    | variableKeyword kind =>
      have started : Takes state VariableKind.ofToken? kind keyword afterKeyword :=
        { taken with recognized := variableKind_of_start taken.recognized }
      obtain ⟨_, _, declaration⟩ := served (.declarationVariable started)
      exact ⟨_, _, .declarationVariable declaration⟩
  · exact ⟨_, _, .declarationRejected declined⟩

theorem derives_declarations (served : Served ⟨.declarations, state⟩) :
    Derives .declarations state := by
  by_cases goesOn : state.rest = []
  · exact ⟨_, _, .declarationsEnd goesOn⟩
  · obtain ⟨_, afterItem, item⟩ := served (.declarationsItem goesOn)
    obtain ⟨_, resumed, resumes⟩ := exists_resumes .topLevel state afterItem goesOn
    obtain ⟨_, _, more⟩ := served (.declarationsNext goesOn item resumes)
    exact ⟨_, _, .declarationsNext goesOn item resumes more⟩

end

/-! ## All productions -/

/-- A call whose calls have derivations has one itself. -/
theorem Served.derives {call : Call} (served : Served call) (begins : call.Begins) :
    Derives call.production call.state := by
  obtain ⟨production, state⟩ := call
  cases production with
  | optional token => exact derives_optional token state
  | expected token => exact derives_expected token state
  | closingBrace => exact derives_closingBrace state
  | terminator => exact derives_terminator state
  | identifier => exact derives_identifier state
  | directName => exact derives_name state
  | typeReference => exact derives_typeReference state
  | operation => exact derives_operation served
  | operators => exact derives_operators served
  | operand => exact derives_operand served
  | primary => exact derives_primary served
  | accesses => exact derives_accesses served
  | arguments => exact derives_arguments served
  | elements => exact derives_elements served
  | initialValue => exact derives_initialValue served
  | arraySize => exact derives_arraySize served
  | initializer => exact derives_initializer served
  | variableDeclaration =>
    obtain ⟨_, _, _, taken⟩ := begins rfl
    exact derives_variableDeclaration served taken
  | assignmentTail => exact derives_assignmentTail served
  | condition => exact derives_condition served
  | block => exact derives_block served
  | statements => exact derives_statements served
  | statement => exact derives_statement served
  | branch => exact derives_branch served
  | parentClause => exact derives_parentClause state
  | instanceBody => exact derives_instanceBody served
  | declarationBody => exact derives_declarationBody served
  | qualifier => exact derives_qualifier state
  | parameter => exact derives_parameter state
  | parameters => exact derives_parameters served
  | parameterList => exact derives_parameterList served
  | classItem => exact derives_classItem served
  | classItems => exact derives_classItems served
  | classBody => exact derives_classBody served
  | declaration => exact derives_declaration served
  | declarations => exact derives_declarations served

/-- Every call that begins has a derivation, by induction on what it calls. -/
theorem Call.derives (call : Call) (begins : call.Begins) :
    Derives call.production call.state := by
  induction call using Call.wellFounded_calls.induction with
  | _ call ih =>
    have served : Served call := fun _ _ calls => ih _ calls calls.begins
    exact served.derives begins

theorem derives_of_ne (production : Production) (state : State)
    (different : production ≠ .variableDeclaration) : Derives production state :=
  Call.derives ⟨production, state⟩ fun same => absurd same different

/-- What a derivation finds in the lexemes is the program that is read from them. -/
theorem Derivation.program_eq {lexemes : List Lexeme} {declarations : List Declaration}
    {final : State} (reads : Reads .declarations (.ofLexemes lexemes) declarations final)
    (range : Range) :
    program lexemes range = ⟨⟨declarations, range⟩, final.diagnostics⟩ := by
  obtain ⟨_, computed⟩ := Step.eq_of_outcome (reads.computes_of_suits fun _ => rfl)
  rw [program, computed]

theorem Derivation.rest_eq_nil_of_declarations {production : Production} {state next : State}
    {value : production.Value} (reads : Reads production state value next)
    (same : production = .declarations) : next.rest = [] := by
  induction reads with
  | declarationsEnd ends => exact ends
  | declarationsNext _ _ _ _ _ later => exact later rfl
  | _ => cases same

/-- Declarations are read until nothing is left. -/
theorem Derivation.rest_eq_nil {state next : State} {items : List Declaration}
    (reads : Reads .declarations state items next) : next.rest = [] :=
  reads.rest_eq_nil_of_declarations rfl

/-- A program is read by a derivation of its declarations. -/
theorem exists_reads_program (lexemes : List Lexeme) (range : Range) :
    ∃ declarations final,
      Reads .declarations (.ofLexemes lexemes) declarations final ∧
        program lexemes range = ⟨⟨declarations, range⟩, final.diagnostics⟩ := by
  obtain ⟨declarations, final, reads⟩ :=
    derives_of_ne .declarations (.ofLexemes lexemes) nofun
  exact ⟨declarations, final, reads, reads.program_eq range⟩

end ScriptTree.Grammar
