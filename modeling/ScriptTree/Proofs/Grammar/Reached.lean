import ScriptTree.Proofs.Grammar.Calls

/-!
# Whatever is read is called

Each part of what a production reads is read by a call of that production.  So if
some calls were reached, with all that they call, then whatever is read below them
is read at a call that was reached.
-/

namespace ScriptTree.Grammar

/-- A variable declaration starts with its keyword. -/
theorem Derivation.exists_keyword {state next : State} {declaration : VariableDeclaration}
    (reads : Reads .variableDeclaration state declaration next) :
    ∃ kind keyword afterKeyword,
      Takes state VariableKind.ofToken? kind keyword afterKeyword := by
  cases reads with
  | variableDeclaration taken => exact ⟨_, _, _, taken⟩

/-- All that is read inside of a production has a property, if what the production calls was
reached. -/
def Production.ReachesParts (reached : Call → Prop)
    (property : (production : Production) → State → production.Value → State → Prop)
    (production : Production) (state : State) (value : production.Value) (next : State) : Prop :=
  ∀ reads : Reads production state value next,
    (∀ {second : Call}, Call.Calls ⟨production, state⟩ second → reached second) →
      reads.EachPart property

section

variable {reached : Call → Prop}
  {property : (production : Production) → State → production.Value → State → Prop}

/-! ## Productions that call nothing -/

theorem Production.reaches_optional (token : Token) :
    (Production.optional token).Inherits State.Normal (ReachesParts reached property) := by
  intro state value next reads parts _ _
  cases parts with
  | optionalTaken taken => exact .optionalTaken taken
  | optionalAbsent declined => exact .optionalAbsent declined

theorem Production.reaches_expected (token : Token) :
    (Production.expected token).Inherits State.Normal (ReachesParts reached property) := by
  intro state value next reads parts _ _
  cases parts with
  | expectedTaken taken => exact .expectedTaken taken
  | expectedMissing missed => exact .expectedMissing missed
  | expectedIdle recovering => exact .expectedIdle recovering

theorem Production.reaches_closingBrace :
    Production.closingBrace.Inherits State.Normal (ReachesParts reached property) := by
  intro state value next reads parts _ _
  cases parts with
  | closingBraceTaken taken => exact .closingBraceTaken taken
  | closingBraceMissing declined => exact .closingBraceMissing declined

theorem Production.reaches_terminator :
    Production.terminator.Inherits State.Normal (ReachesParts reached property) := by
  intro state value next reads parts _ _
  cases parts with
  | terminatorTaken taken => exact .terminatorTaken taken
  | terminatorGranted missed opens => exact .terminatorGranted missed opens
  | terminatorMissing missed plain => exact .terminatorMissing missed plain
  | terminatorIdle recovering => exact .terminatorIdle recovering

theorem Production.reaches_identifier :
    Production.identifier.Inherits State.Normal (ReachesParts reached property) := by
  intro state value next reads parts _ _
  cases parts with
  | identifierTaken taken => exact .identifierTaken taken
  | identifierMissing missed => exact .identifierMissing missed
  | identifierIdle recovering => exact .identifierIdle recovering

theorem Production.reaches_directName :
    Production.directName.Inherits State.Normal (ReachesParts reached property) := by
  intro state value next reads parts _ _
  cases parts with
  | nameTaken taken => exact .nameTaken taken
  | nameMissing declined => exact .nameMissing declined

theorem Production.reaches_typeReference :
    Production.typeReference.Inherits State.Normal (ReachesParts reached property) := by
  intro state value next reads parts _ _
  cases parts with
  | typeTaken taken => exact .typeTaken taken
  | typeMissing declined => exact .typeMissing declined

theorem Production.reaches_qualifier :
    Production.qualifier.Inherits State.Normal (ReachesParts reached property) := by
  intro state value next reads parts _ _
  cases parts with
  | qualifierAbsent declined => exact .qualifierAbsent declined
  | qualifierWritten taken => exact .qualifierWritten taken

/-! ## Productions that call others -/

section

variable
  (closed : ∀ {first second : Call}, reached first → first.Calls second → reached second)
  (holds : ∀ {production : Production} {state next : State} {value : production.Value},
    reached ⟨production, state⟩ → Reads production state value next →
      property production state value next)

include closed holds

theorem Production.reaches_operation (power : Nat) :
    (Production.operation power).Inherits State.Normal (ReachesParts reached property) := by
  intro state value next reads parts _ called
  cases parts with
  | operation readsOperand readsOperators _ operand _ operators =>
    have first := called .operationOperand
    have second := called (.operationOperators readsOperand)
    exact .operation readsOperand readsOperators (operand _ (closed first))
      (holds first readsOperand)
      (operators _ (closed second)) (holds second readsOperators)

theorem Production.reaches_operators (power : Nat) :
    (Production.operators power).Inherits State.Normal (ReachesParts reached property) := by
  intro state value next reads parts _ called
  cases parts with
  | operatorsEnd declined => exact .operatorsEnd declined
  | operatorsNext taken readsOperand more _ operand _ rest =>
    have first := called (.operatorsOperand taken)
    have second := called (.operatorsNext taken readsOperand)
    exact .operatorsNext taken readsOperand more (operand _ (closed first))
      (holds first readsOperand)
      (rest _ (closed second)) (holds second more)

theorem Production.reaches_operand :
    Production.operand.Inherits State.Normal (ReachesParts reached property) := by
  intro state value next reads parts _ called
  cases parts with
  | operandSigned taken readsOperand _ operand =>
    have begun := called (.operandSigned taken)
    exact .operandSigned taken readsOperand (operand _ (closed begun)) (holds begun readsOperand)
  | operandPlain declined readsPrimary readsAccesses _ primary _ accesses =>
    have first := called (.operandPrimary declined)
    have second := called (.operandAccesses declined readsPrimary)
    exact .operandPlain declined readsPrimary readsAccesses (primary _ (closed first))
      (holds first readsPrimary) (accesses _ (closed second)) (holds second readsAccesses)

theorem Production.reaches_primary :
    Production.primary.Inherits State.Normal (ReachesParts reached property) := by
  intro state value next reads parts _ called
  cases parts with
  | primaryParenthesized taken readsInner closes _ inner _ closing =>
    have first := called (.primaryInner taken)
    have second := called (.primaryCloses taken readsInner)
    exact .primaryParenthesized taken readsInner closes (inner _ (closed first))
      (holds first readsInner) (closing _ (closed second)) (holds second closes)
  | primaryLiteral taken => exact .primaryLiteral taken
  | primaryMissing noOpening declined => exact .primaryMissing noOpening declined

theorem Production.reaches_accesses :
    Production.accesses.Inherits State.Normal (ReachesParts reached property) := by
  intro state value next reads parts _ called
  cases parts with
  | accessesEnd declined => exact .accessesEnd declined
  | accessesIndex taken readsInner closes more _ inner _ closing _ rest =>
    have first := called (.accessesInner taken)
    have second := called (.accessesCloses taken readsInner)
    have third := called (.accessesIndex taken readsInner closes)
    exact .accessesIndex taken readsInner closes more (inner _ (closed first))
      (holds first readsInner) (closing _ (closed second)) (holds second closes)
      (rest _ (closed third))
      (holds third more)
  | accessesMember taken readsName more _ name _ rest =>
    have first := called (.accessesName taken)
    have second := called (.accessesMember taken readsName)
    exact .accessesMember taken readsName more (name _ (closed first)) (holds first readsName)
      (rest _ (closed second)) (holds second more)
  | accessesEmptyCall taken closes more _ rest =>
    have begun := called (.accessesEmptyCall taken closes)
    exact .accessesEmptyCall taken closes more (rest _ (closed begun)) (holds begun more)
  | accessesCall taken filled readsArguments more _ arguments _ rest =>
    have first := called (.accessesArguments taken filled)
    have second := called (.accessesCall taken filled readsArguments)
    exact .accessesCall taken filled readsArguments more (arguments _ (closed first))
      (holds first readsArguments) (rest _ (closed second)) (holds second more)

theorem Production.reaches_arguments :
    Production.arguments.Inherits State.Normal (ReachesParts reached property) := by
  intro state value next reads parts _ called
  cases parts with
  | argumentsLast readsArgument declined closes _ argument _ closing =>
    have first := called .argumentsItem
    have second := called (.argumentsCloses readsArgument declined)
    exact .argumentsLast readsArgument declined closes (argument _ (closed first))
      (holds first readsArgument) (closing _ (closed second)) (holds second closes)
  | argumentsTrailing readsArgument taken closes _ argument =>
    have begun := called .argumentsItem
    exact .argumentsTrailing readsArgument taken closes (argument _ (closed begun))
      (holds begun readsArgument)
  | argumentsNext readsArgument taken goesOn more _ argument _ rest =>
    have first := called .argumentsItem
    have second := called (.argumentsNext readsArgument taken goesOn)
    exact .argumentsNext readsArgument taken goesOn more (argument _ (closed first))
      (holds first readsArgument) (rest _ (closed second)) (holds second more)

theorem Production.reaches_elements (isFirst : Bool) :
    (Production.elements isFirst).Inherits State.Normal (ReachesParts reached property) := by
  intro state value next reads parts _ called
  cases parts with
  | elementsEnd ends => exact .elementsEnd ends
  | elementsMissing goesOn readsElement missing _ element =>
    have begun := called (.elementsItem goesOn)
    exact .elementsMissing goesOn readsElement missing (element _ (closed begun))
      (holds begun readsElement)
  | elementsLast goesOn readsElement present declined _ element =>
    have begun := called (.elementsItem goesOn)
    exact .elementsLast goesOn readsElement present declined (element _ (closed begun))
      (holds begun readsElement)
  | elementsNext goesOn readsElement present taken more _ element _ rest =>
    have first := called (.elementsItem goesOn)
    have second := called (.elementsNext goesOn readsElement present taken)
    exact .elementsNext goesOn readsElement present taken more (element _ (closed first))
      (holds first readsElement) (rest _ (closed second)) (holds second more)

theorem Production.reaches_initialValue :
    Production.initialValue.Inherits State.Normal (ReachesParts reached property) := by
  intro state value next reads parts _ called
  cases parts with
  | initialElements taken readsElements closes _ elements _ closing =>
    have first := called (.initialElements taken)
    have second := called (.initialCloses taken readsElements)
    exact .initialElements taken readsElements closes (elements _ (closed first))
      (holds first readsElements) (closing _ (closed second)) (holds second closes)
  | initialExpression declined readsValue _ value =>
    have begun := called (.initialExpression declined)
    exact .initialExpression declined readsValue (value _ (closed begun)) (holds begun readsValue)

theorem Production.reaches_arraySize :
    Production.arraySize.Inherits State.Normal (ReachesParts reached property) := by
  intro state value next reads parts _ called
  cases parts with
  | arraySizeAbsent declined => exact .arraySizeAbsent declined
  | arraySizeWritten taken readsSize closes _ size _ closing =>
    have first := called (.arraySize taken)
    have second := called (.arraySizeCloses taken readsSize)
    exact .arraySizeWritten taken readsSize closes (size _ (closed first)) (holds first readsSize)
      (closing _ (closed second)) (holds second closes)

theorem Production.reaches_initializer :
    Production.initializer.Inherits State.Normal (ReachesParts reached property) := by
  intro state value next reads parts _ called
  cases parts with
  | initializerAbsent declined => exact .initializerAbsent declined
  | initializerWritten taken readsValue _ value =>
    have begun := called (.initializer taken)
    exact .initializerWritten taken readsValue (value _ (closed begun)) (holds begun readsValue)

theorem Production.reaches_variableDeclaration :
    Production.variableDeclaration.Inherits State.Normal (ReachesParts reached property) := by
  intro state value next reads parts _ called
  cases parts with
  | variableDeclaration taken readsType readsName readsSize readsInitializer ends _ type _ name _
    size _ initializer _ ending =>
    have first := called (.variableType taken)
    have second := called (.variableName taken readsType)
    have third := called (.variableSize taken readsType readsName)
    have fourth := called (.variableInitializer taken readsType readsName readsSize)
    have fifth := called (.variableEnds taken readsType readsName readsSize readsInitializer)
    exact .variableDeclaration taken readsType readsName readsSize readsInitializer ends
      (type _ (closed first)) (holds first readsType) (name _ (closed second))
      (holds second readsName)
      (size _ (closed third)) (holds third readsSize) (initializer _ (closed fourth))
      (holds fourth readsInitializer) (ending _ (closed fifth)) (holds fifth ends)

theorem Production.reaches_assignmentTail :
    Production.assignmentTail.Inherits State.Normal (ReachesParts reached property) := by
  intro state value next reads parts _ called
  cases parts with
  | assignmentSigned taken readsRight ends _ right _ ending =>
    have first := called (.assignmentRight taken)
    have second := called (.assignmentEnds taken readsRight)
    exact .assignmentSigned taken readsRight ends (right _ (closed first)) (holds first readsRight)
      (ending _ (closed second)) (holds second ends)
  | assignmentUnsigned declined ends _ ending =>
    have begun := called (.assignmentUnsigned declined)
    exact .assignmentUnsigned declined ends (ending _ (closed begun)) (holds begun ends)

theorem Production.reaches_condition :
    Production.condition.Inherits State.Normal (ReachesParts reached property) := by
  intro state value next reads parts _ called
  cases parts with
  | conditionBare noOpening opens readsCondition _ condition =>
    have begun := called (.conditionBare noOpening opens)
    exact .conditionBare noOpening opens readsCondition (condition _ (closed begun))
      (holds begun readsCondition)
  | conditionPlain plain readsCondition _ condition =>
    have begun := called (.conditionPlain plain)
    exact .conditionPlain plain readsCondition (condition _ (closed begun))
      (holds begun readsCondition)

theorem Production.reaches_block :
    Production.block.Inherits State.Normal (ReachesParts reached property) := by
  intro state value next reads parts _ called
  cases parts with
  | blockMissing declined => exact .blockMissing declined
  | blockWritten taken readsItems closes _ items _ closing =>
    have first := called (.blockItems taken)
    have second := called (.blockCloses taken readsItems)
    exact .blockWritten taken readsItems closes (items _ (closed first)) (holds first readsItems)
      (closing _ (closed second)) (holds second closes)

theorem Production.reaches_statements :
    Production.statements.Inherits State.Normal (ReachesParts reached property) := by
  intro state value next reads parts _ called
  cases parts with
  | statementsEnd ends => exact .statementsEnd ends
  | statementsNext goesOn readsItem resumes readsMore _ item _ rest =>
    have first := called (.statementsItem goesOn)
    have second := called (.statementsNext goesOn readsItem resumes)
    exact .statementsNext goesOn readsItem resumes readsMore (item _ (closed first))
      (holds first readsItem) (rest _ (closed second)) (holds second readsMore)

theorem Production.reaches_statement :
    Production.statement.Inherits State.Normal (ReachesParts reached property) := by
  intro state value next reads parts _ called
  cases parts with
  | statementIf taken readsCondition readsConsequence noElse _ condition _ consequence =>
    have first := called (.statementCondition taken)
    have second := called (.statementConsequence taken readsCondition)
    exact .statementIf taken readsCondition readsConsequence noElse (condition _ (closed first))
      (holds first readsCondition) (consequence _ (closed second)) (holds second readsConsequence)
  | statementIfElse taken readsCondition readsConsequence otherwise readsAlternative _ condition _
    consequence _ alternative =>
    have first := called (.statementCondition taken)
    have second := called (.statementConsequence taken readsCondition)
    have third := called (.statementAlternative taken readsCondition readsConsequence otherwise)
    exact .statementIfElse taken readsCondition readsConsequence otherwise readsAlternative
      (condition _ (closed first)) (holds first readsCondition) (consequence _ (closed second))
      (holds second readsConsequence) (alternative _ (closed third)) (holds third readsAlternative)
  | statementReturn taken bare ends _ ending =>
    have begun := called (.statementReturn taken bare)
    exact .statementReturn taken bare ends (ending _ (closed begun)) (holds begun ends)
  | statementReturnValue taken opens readsValue ends _ value _ ending =>
    have first := called (.statementValue taken opens)
    have second := called (.statementValueEnds taken opens readsValue)
    exact .statementReturnValue taken opens readsValue ends (value _ (closed first))
      (holds first readsValue) (ending _ (closed second)) (holds second ends)
  | statementVariable readsDeclaration _ declaration =>
    rcases readsDeclaration.exists_keyword with ⟨kind, keyword, afterKeyword, taken⟩
    have begun := called (.statementVariable taken)
    exact .statementVariable readsDeclaration (declaration _ (closed begun))
      (holds begun readsDeclaration)
  | statementBlock opens readsBlock _ block =>
    have begun := called (.statementBlock opens)
    exact .statementBlock opens readsBlock (block _ (closed begun)) (holds begun readsBlock)
  | statementExpression opens readsExpression unsigned ends _ expression _ ending =>
    have first := called (.statementExpression opens)
    have second := called (.statementEnds opens readsExpression unsigned)
    exact .statementExpression opens readsExpression unsigned ends (expression _ (closed first))
      (holds first readsExpression) (ending _ (closed second)) (holds second ends)
  | statementAssignment opens readsTarget signed readsTail _ target _ tail =>
    have first := called (.statementExpression opens)
    have second := called (.statementAssignment opens readsTarget signed)
    exact .statementAssignment opens readsTarget signed readsTail (target _ (closed first))
      (holds first readsTarget) (tail _ (closed second)) (holds second readsTail)
  | statementAbsent empty => exact .statementAbsent empty
  | statementRejected nonempty noIf noReturn noKind noBlock noExpression =>
    exact .statementRejected nonempty noIf noReturn noKind noBlock noExpression

theorem Production.reaches_branch :
    Production.branch.Inherits State.Normal (ReachesParts reached property) := by
  intro state value next reads parts _ called
  cases parts with
  | branchRecovering recovering => exact .branchRecovering recovering
  | branchBlock normal opens readsBlock readsSemicolon _ block _ semicolon =>
    have first := called (.branchBlock normal opens)
    have second := called (.branchSemicolon normal opens readsBlock)
    exact .branchBlock normal opens readsBlock readsSemicolon (block _ (closed first))
      (holds first readsBlock) (semicolon _ (closed second)) (holds second readsSemicolon)
  | branchStatement normal plain readsStatement _ statement =>
    have begun := called (.branchStatement normal plain)
    exact .branchStatement normal plain readsStatement (statement _ (closed begun))
      (holds begun readsStatement)
  | branchMissing normal plain readsStatement _ statement =>
    have begun := called (.branchStatement normal plain)
    exact .branchMissing normal plain readsStatement (statement _ (closed begun))
      (holds begun readsStatement)

theorem Production.reaches_parentClause :
    Production.parentClause.Inherits State.Normal (ReachesParts reached property) := by
  intro state value next reads parts _ called
  cases parts with
  | parentAbsent declined => exact .parentAbsent declined
  | parentWritten taken readsName closes _ name _ closing =>
    have first := called (.parentName taken)
    have second := called (.parentCloses taken readsName)
    exact .parentWritten taken readsName closes (name _ (closed first)) (holds first readsName)
      (closing _ (closed second)) (holds second closes)

theorem Production.reaches_instanceBody (hasParent : Bool) :
    (Production.instanceBody hasParent).Inherits State.Normal (ReachesParts reached property) := by
  intro state value next reads parts _ called
  cases parts with
  | instanceIdle recovering => exact .instanceIdle recovering
  | instanceForward taken => exact .instanceForward taken
  | instanceBare normal noBlock noSemicolon => exact .instanceBare normal noBlock noSemicolon
  | instanceBlock normal opens readsBody readsSemicolon _ body _ semicolon =>
    have first := called (.instanceBlock normal opens)
    have second := called (.instanceSemicolon normal opens readsBody)
    exact .instanceBlock normal opens readsBody readsSemicolon (body _ (closed first))
      (holds first readsBody) (semicolon _ (closed second)) (holds second readsSemicolon)

theorem Production.reaches_declarationBody :
    Production.declarationBody.Inherits State.Normal (ReachesParts reached property) := by
  intro state value next reads parts _ called
  cases parts with
  | bodyIdle recovering => exact .bodyIdle recovering
  | bodyMissing normal readsBody missing _ body =>
    have begun := called (.bodyBlock normal)
    exact .bodyMissing normal readsBody missing (body _ (closed begun)) (holds begun readsBody)
  | bodyWritten normal readsBody written readsSemicolon _ body _ semicolon =>
    have first := called (.bodyBlock normal)
    have second := called (.bodySemicolon normal readsBody written)
    exact .bodyWritten normal readsBody written readsSemicolon (body _ (closed first))
      (holds first readsBody) (semicolon _ (closed second)) (holds second readsSemicolon)

theorem Production.reaches_parameter :
    Production.parameter.Inherits State.Normal (ReachesParts reached property) := by
  intro state value next reads parts _ called
  cases parts with
  | parameter readsQualifier readsType readsName _ qualifier _ type _ name =>
    have first := called .parameterQualifier
    have second := called (.parameterType readsQualifier)
    have third := called (.parameterName readsQualifier readsType)
    exact .parameter readsQualifier readsType readsName (qualifier _ (closed first))
      (holds first readsQualifier) (type _ (closed second)) (holds second readsType)
      (name _ (closed third)) (holds third readsName)

theorem Production.reaches_parameters :
    Production.parameters.Inherits State.Normal (ReachesParts reached property) := by
  intro state value next reads parts _ called
  cases parts with
  | parametersLast readsItem declined closes _ item _ closing =>
    have first := called .parametersItem
    have second := called (.parametersCloses readsItem declined)
    exact .parametersLast readsItem declined closes (item _ (closed first)) (holds first readsItem)
      (closing _ (closed second)) (holds second closes)
  | parametersTrailing readsItem taken closes _ item =>
    have begun := called .parametersItem
    exact .parametersTrailing readsItem taken closes (item _ (closed begun)) (holds begun readsItem)
  | parametersNext readsItem taken goesOn more _ item _ rest =>
    have first := called .parametersItem
    have second := called (.parametersNext readsItem taken goesOn)
    exact .parametersNext readsItem taken goesOn more (item _ (closed first))
      (holds first readsItem)
      (rest _ (closed second)) (holds second more)

theorem Production.reaches_parameterList :
    Production.parameterList.Inherits State.Normal (ReachesParts reached property) := by
  intro state value next reads parts _ called
  cases parts with
  | parameterListIdle recovering => exact .parameterListIdle recovering
  | parameterListMissing missed => exact .parameterListMissing missed
  | parameterListEmpty taken closes => exact .parameterListEmpty taken closes
  | parameterListFilled taken filled readsParameters _ parameters =>
    have begun := called (.parameterListItems taken filled)
    exact .parameterListFilled taken filled readsParameters (parameters _ (closed begun))
      (holds begun readsParameters)

theorem Production.reaches_classItem :
    Production.classItem.Inherits State.Normal (ReachesParts reached property) := by
  intro state value next reads parts _ called
  cases parts with
  | classVariable readsDeclaration _ declaration =>
    rcases readsDeclaration.exists_keyword with ⟨kind, keyword, afterKeyword, taken⟩
    have begun := called (.classVariable taken)
    exact .classVariable readsDeclaration (declaration _ (closed begun))
      (holds begun readsDeclaration)
  | classAbandoned opens readsTarget recovering _ target =>
    have begun := called (.classTarget opens)
    exact .classAbandoned opens readsTarget recovering (target _ (closed begun))
      (holds begun readsTarget)
  | classAssignment opens readsTarget normal readsTail _ target _ tail =>
    have first := called (.classTarget opens)
    have second := called (.classAssignment opens readsTarget normal)
    exact .classAssignment opens readsTarget normal readsTail (target _ (closed first))
      (holds first readsTarget) (tail _ (closed second)) (holds second readsTail)
  | classRejected noKind noTarget => exact .classRejected noKind noTarget

theorem Production.reaches_classItems :
    Production.classItems.Inherits State.Normal (ReachesParts reached property) := by
  intro state value next reads parts _ called
  cases parts with
  | classItemsEnd ends => exact .classItemsEnd ends
  | classItemsNext goesOn readsItem resumes readsMore _ item _ rest =>
    have first := called (.classItemsItem goesOn)
    have second := called (.classItemsNext goesOn readsItem resumes)
    exact .classItemsNext goesOn readsItem resumes readsMore (item _ (closed first))
      (holds first readsItem) (rest _ (closed second)) (holds second readsMore)

theorem Production.reaches_classBody :
    Production.classBody.Inherits State.Normal (ReachesParts reached property) := by
  intro state value next reads parts _ called
  cases parts with
  | classBodyMissing declined => exact .classBodyMissing declined
  | classBodyWritten taken readsItems closes _ items _ closing =>
    have first := called (.classBodyItems taken)
    have second := called (.classBodyCloses taken readsItems)
    exact .classBodyWritten taken readsItems closes (items _ (closed first))
      (holds first readsItems)
      (closing _ (closed second)) (holds second closes)

theorem Production.reaches_declaration :
    Production.declaration.Inherits State.Normal (ReachesParts reached property) := by
  intro state value next reads parts _ called
  cases parts with
  | declarationInstance taken readsName readsParent readsBody _ name _ parent _ body =>
    have first := called (.instanceName taken)
    have second := called (.instanceParent taken readsName)
    have third := called (.instanceBody taken readsName readsParent)
    exact .declarationInstance taken readsName readsParent readsBody (name _ (closed first))
      (holds first readsName) (parent _ (closed second)) (holds second readsParent)
      (body _ (closed third)) (holds third readsBody)
  | declarationPrototype taken readsName opens readsParent closes readsBody _ name _ opening _
    parent _ closing _ body =>
    have first := called (.prototypeName taken)
    have second := called (.prototypeOpens taken readsName)
    have third := called (.prototypeParent taken readsName opens)
    have fourth := called (.prototypeCloses taken readsName opens readsParent)
    have fifth := called (.prototypeBody taken readsName opens readsParent closes)
    exact .declarationPrototype taken readsName opens readsParent closes readsBody
      (name _ (closed first)) (holds first readsName) (opening _ (closed second))
      (holds second opens)
      (parent _ (closed third)) (holds third readsParent) (closing _ (closed fourth))
      (holds fourth closes) (body _ (closed fifth)) (holds fifth readsBody)
  | declarationFunction taken readsType readsName readsParameters readsBody _ type _ name _
    parameters _ body =>
    have first := called (.functionType taken)
    have second := called (.functionName taken readsType)
    have third := called (.functionParameters taken readsType readsName)
    have fourth := called (.functionBody taken readsType readsName readsParameters)
    exact .declarationFunction taken readsType readsName readsParameters readsBody
      (type _ (closed first)) (holds first readsType) (name _ (closed second))
      (holds second readsName)
      (parameters _ (closed third)) (holds third readsParameters) (body _ (closed fourth))
      (holds fourth readsBody)
  | declarationNamelessClass taken readsName recovering _ name =>
    have begun := called (.className taken)
    exact .declarationNamelessClass taken readsName recovering (name _ (closed begun))
      (holds begun readsName)
  | declarationUnfinishedClass taken readsName normal readsBody missing _ name _ body =>
    have first := called (.className taken)
    have second := called (.classBody taken readsName normal)
    exact .declarationUnfinishedClass taken readsName normal readsBody missing
      (name _ (closed first))
      (holds first readsName) (body _ (closed second)) (holds second readsBody)
  | declarationClass taken readsName normal readsBody written readsSemicolon _ name _ body _
    semicolon =>
    have first := called (.className taken)
    have second := called (.classBody taken readsName normal)
    have third := called (.classSemicolon taken readsName normal readsBody written)
    exact .declarationClass taken readsName normal readsBody written readsSemicolon
      (name _ (closed first)) (holds first readsName) (body _ (closed second))
      (holds second readsBody)
      (semicolon _ (closed third)) (holds third readsSemicolon)
  | declarationVariable readsDeclaration _ declaration =>
    rcases readsDeclaration.exists_keyword with ⟨kind, keyword, afterKeyword, taken⟩
    have begun := called (.declarationVariable taken)
    exact .declarationVariable readsDeclaration (declaration _ (closed begun))
      (holds begun readsDeclaration)
  | declarationRejected declined => exact .declarationRejected declined

theorem Production.reaches_declarations :
    Production.declarations.Inherits State.Normal (ReachesParts reached property) := by
  intro state value next reads parts _ called
  cases parts with
  | declarationsEnd ends => exact .declarationsEnd ends
  | declarationsNext goesOn readsItem resumes readsMore _ item _ rest =>
    have first := called (.declarationsItem goesOn)
    have second := called (.declarationsNext goesOn readsItem resumes)
    exact .declarationsNext goesOn readsItem resumes readsMore (item _ (closed first))
      (holds first readsItem) (rest _ (closed second)) (holds second readsMore)

/-- Every production passes on that what is read inside of it has the property. -/
theorem Production.inherits_reachesParts (production : Production) :
    production.Inherits State.Normal (ReachesParts reached property) := by
  cases production with
  | optional token => exact reaches_optional token
  | expected token => exact reaches_expected token
  | closingBrace => exact reaches_closingBrace
  | terminator => exact reaches_terminator
  | identifier => exact reaches_identifier
  | directName => exact reaches_directName
  | typeReference => exact reaches_typeReference
  | operation power => exact reaches_operation closed holds power
  | operators power => exact reaches_operators closed holds power
  | operand => exact reaches_operand closed holds
  | primary => exact reaches_primary closed holds
  | accesses => exact reaches_accesses closed holds
  | arguments => exact reaches_arguments closed holds
  | elements isFirst => exact reaches_elements closed holds isFirst
  | initialValue => exact reaches_initialValue closed holds
  | arraySize => exact reaches_arraySize closed holds
  | initializer => exact reaches_initializer closed holds
  | variableDeclaration => exact reaches_variableDeclaration closed holds
  | assignmentTail => exact reaches_assignmentTail closed holds
  | condition => exact reaches_condition closed holds
  | block => exact reaches_block closed holds
  | statements => exact reaches_statements closed holds
  | statement => exact reaches_statement closed holds
  | branch => exact reaches_branch closed holds
  | parentClause => exact reaches_parentClause closed holds
  | instanceBody hasParent => exact reaches_instanceBody closed holds hasParent
  | declarationBody => exact reaches_declarationBody closed holds
  | qualifier => exact reaches_qualifier
  | parameter => exact reaches_parameter closed holds
  | parameters => exact reaches_parameters closed holds
  | parameterList => exact reaches_parameterList closed holds
  | classItem => exact reaches_classItem closed holds
  | classItems => exact reaches_classItems closed holds
  | classBody => exact reaches_classBody closed holds
  | declaration => exact reaches_declaration closed holds
  | declarations => exact reaches_declarations closed holds

variable (reached) in
/-- If whatever is called by what was reached is reached too, a property of what is read at calls
that are reached holds of everything that is read inside of a derivation. -/
theorem Derivation.eachPart_of_reached {production : Production} {state next : State}
    {value : production.Value} (reads : Reads production state value next)
    (called : ∀ {second : Call}, Call.Calls ⟨production, state⟩ second → reached second) :
    reads.EachPart property :=
  reads.of_inherits (Production.inherits_reachesParts closed holds) reads called

end

end

/-- What is read by calls, and begun in the mode that its production relies on, is everything that
is read inside of a derivation. -/
theorem Derivation.eachPart_of_calls
    {property : (production : Production) → State → production.Value → State → Prop}
    {production : Production} {state next : State} {value : production.Value}
    (reads : Reads production state value next) (suited : production.SuitsMode state)
    (holds : ∀ {inner : Production} {begun after : State} {found : inner.Value},
      Relation.TransGen Call.Calls ⟨production, state⟩ ⟨inner, begun⟩ → inner.SuitsMode begun →
        Reads inner begun found after → property inner begun found after) :
    reads.EachPart property :=
  Derivation.eachPart_of_reached
    (fun call => Relation.TransGen Call.Calls ⟨production, state⟩ call ∧
      call.production.SuitsMode call.state)
    (fun reached calls => ⟨reached.1.tail calls, calls.suits reached.2⟩)
    (fun reached readsInner => holds reached.1 reached.2 readsInner) reads
    fun calls => ⟨.single calls, calls.suits suited⟩

end ScriptTree.Grammar
