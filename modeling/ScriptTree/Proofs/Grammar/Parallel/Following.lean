import ScriptTree.Proofs.Grammar.Parallel.Rules

/-!
# What parallel parses read

Each rule of the grammar that applies in one of two parallel parses applies in
the other one, if what is read inside of it is read there, too.  So they read the
same trees at the same places.
-/

namespace ScriptTree.Grammar

namespace Comparison

variable {comparison : Comparison} {state next other : State}

namespace Parallel

theorem endsList_eq (parallel : comparison.Parallel state other)
    (admits : comparison.Admits state) : endsList other = endsList state := by
  rw [endsList, endsList, parallel.peek_eq admits]

theorem rest_ne_nil (parallel : comparison.Parallel state other) (nonempty : state.rest ≠ []) :
    other.rest ≠ [] := by
  intro empty
  have length := parallel.length_rest
  rw [empty, List.length_nil] at length
  exact nonempty (List.length_eq_zero_iff.mp (by omega))

end Parallel

/-- Whatever parse is parallel at first reads the same, up to where the comparison ends. -/
def IsFollowed (comparison : Comparison) (production : Production) (state : State)
    (value : production.Value) (next : State) : Prop :=
  ∀ ⦃other⦄, comparison.Parallel state other → comparison.Admits next →
    comparison.Follows production value next other

theorem isFollowed_optional (token : Token) :
    (Production.optional token).Inherits State.Normal comparison.IsFollowed := by
  intro state value next reads parts other parallel admits
  cases parts with
  | optionalTaken taken =>
    rcases parallel.takes taken with ⟨_, _, takenOther, same, parallel⟩
    exact ⟨_, _, .optionalTaken takenOther, parallel, congrArg some same.range⟩
  | optionalAbsent declined =>
    exact ⟨_, _, .optionalAbsent (parallel.declines admits declined), parallel, rfl⟩

theorem isFollowed_expected (token : Token) :
    (Production.expected token).Inherits State.Normal comparison.IsFollowed := by
  intro state value next reads parts other parallel admits
  cases parts with
  | expectedTaken taken =>
    rcases parallel.takes taken with ⟨_, _, takenOther, same, parallel⟩
    exact ⟨_, _, .expectedTaken takenOther, parallel, congrArg some same.range⟩
  | expectedMissing missed =>
    have before := admits.fail
    exact ⟨_, _, .expectedMissing (parallel.misses before missed), parallel.fail admits, rfl⟩
  | expectedIdle recovering =>
    exact ⟨_, _, .expectedIdle (parallel.mode ▸ recovering), parallel, rfl⟩

theorem isFollowed_closingBrace :
    Production.closingBrace.Inherits State.Normal comparison.IsFollowed := by
  intro state value next reads parts other parallel admits
  cases parts with
  | closingBraceTaken taken =>
    rcases parallel.takes taken with ⟨_, _, takenOther, same, parallel⟩
    exact ⟨_, _, .closingBraceTaken takenOther, parallel, congrArg some same.range⟩
  | closingBraceMissing declined =>
    have before := admits.fail
    exact ⟨_, _, .closingBraceMissing (parallel.declines before declined), parallel.fail admits,
      rfl⟩

theorem isFollowed_terminator :
    Production.terminator.Inherits State.Normal comparison.IsFollowed := by
  intro state value next reads parts other parallel admits
  cases parts with
  | terminatorTaken taken =>
    rcases parallel.takes taken with ⟨_, _, takenOther, same, parallel⟩
    exact ⟨_, _, .terminatorTaken takenOther, parallel, congrArg some same.range⟩
  | terminatorGranted missed opens =>
    have before := admits.reportMissing
    exact ⟨_, _, .terminatorGranted (parallel.misses before missed)
      (parallel.peek_eq before ▸ opens), parallel.reportMissing before _, rfl⟩
  | terminatorMissing missed plain =>
    have before := admits.fail
    rw [← parallel.peek_eq before] at plain
    exact ⟨_, _, .terminatorMissing (parallel.misses before missed) plain, parallel.fail admits,
      rfl⟩
  | terminatorIdle recovering =>
    exact ⟨_, _, .terminatorIdle (parallel.mode ▸ recovering), parallel, rfl⟩

theorem isFollowed_identifier :
    Production.identifier.Inherits State.Normal comparison.IsFollowed := by
  intro state value next reads parts other parallel admits
  cases parts with
  | identifierTaken taken =>
    rcases parallel.takes taken with ⟨_, _, takenOther, same, parallel⟩
    refine ⟨_, _, .identifierTaken takenOther, parallel, ?_⟩
    have text := same.identifier (only_eq_some_iff.mp taken.recognized)
    simp [Identifier.mapRanges, text, same.range]
  | identifierMissing missed =>
    have before := admits.fail
    refine ⟨_, _, .identifierMissing (parallel.misses before missed), parallel.fail admits, ?_⟩
    simp [Identifier.mapRanges_missing, parallel.anchor]
  | identifierIdle recovering =>
    refine ⟨_, _, .identifierIdle (parallel.mode ▸ recovering), parallel, ?_⟩
    simp [Identifier.mapRanges_missing, parallel.anchor]

theorem isFollowed_directName :
    Production.directName.Inherits State.Normal comparison.IsFollowed := by
  intro state value next reads parts other parallel admits
  cases parts with
  | nameTaken taken =>
    rcases parallel.takes taken with ⟨_, _, takenOther, same, parallel⟩
    refine ⟨_, _, .nameTaken takenOther, parallel, ?_⟩
    have text := same.identifier (only_eq_some_iff.mp taken.recognized)
    simp [Identifier.mapRanges, text, same.range]
  | nameMissing declined =>
    have before := admits.fail
    refine ⟨_, _, .nameMissing (parallel.declines before declined), parallel.fail admits, ?_⟩
    simp [Identifier.mapRanges_missing, parallel.anchor]

theorem isFollowed_typeReference :
    Production.typeReference.Inherits State.Normal comparison.IsFollowed := by
  intro state value next reads parts other parallel admits
  cases parts with
  | typeTaken taken =>
    rcases parallel.takes taken with ⟨_, _, takenOther, same, parallel⟩
    refine ⟨_, _, .typeTaken takenOther, parallel, ?_⟩
    simp only [Production.mapRanges, TypeReference.mapRanges, same.typeName taken.recognized,
      same.range]
  | typeMissing declined =>
    have before := admits.fail
    refine ⟨_, _, .typeMissing (parallel.declines before declined), parallel.fail admits, ?_⟩
    simp [TypeReference.mapRanges_missing, parallel.anchor]

theorem isFollowed_operation (power : Nat) :
    (Production.operation power).Inherits State.Normal comparison.IsFollowed := by
  intro state value next reads parts other parallel admits
  cases parts with
  | operation _ readsOperators _ operand _ operators =>
    rcases operand parallel (readsOperators.admits admits) with ⟨_, _, first, parallel, sameFirst⟩
    rcases operators parallel admits with ⟨_, _, tails, parallel, sameTails⟩
    refine ⟨_, _, .operation first tails, parallel, ?_⟩
    simp only [Production.mapRanges] at sameFirst sameTails ⊢
    rw [BinaryTail.mapRanges_foldl, BinaryTail.mapRanges_foldl, sameFirst, sameTails]

theorem isFollowed_operators (power : Nat) :
    (Production.operators power).Inherits State.Normal comparison.IsFollowed := by
  intro state value next reads parts other parallel admits
  cases parts with
  | operatorsEnd declined =>
    exact ⟨_, _, .operatorsEnd (parallel.declines admits declined), parallel, rfl⟩
  | operatorsNext taken readsOperand readsMore _ operand _ more =>
    rcases parallel.takes taken with ⟨_, _, sign, sameSign, parallel⟩
    rcases operand parallel (readsMore.admits admits) with ⟨_, _, right, parallel, sameRight⟩
    rcases more parallel admits with ⟨_, _, tails, parallel, sameTails⟩
    refine ⟨_, _, .operatorsNext sign right tails, parallel, ?_⟩
    simp only [Production.mapRanges] at sameRight sameTails
    simp [BinaryTail.mapRanges, sameSign.range, sameRight, sameTails]

theorem isFollowed_operand :
    Production.operand.Inherits State.Normal comparison.IsFollowed := by
  intro state value next reads parts other parallel admits
  cases parts with
  | operandSigned taken _ _ operand =>
    rcases parallel.takes taken with ⟨_, _, sign, sameSign, parallel⟩
    rcases operand parallel admits with ⟨_, _, inner, parallel, sameInner⟩
    refine ⟨_, _, .operandSigned sign inner, parallel, ?_⟩
    simp only [Production.mapRanges] at sameInner
    simp [Expression.mapRanges, sameSign.range, sameInner]
  | operandPlain declined readsPrimary readsAccesses _ primary _ accesses =>
    have admitsPrimary := readsAccesses.admits admits
    have declinedOther := parallel.declines (readsPrimary.admits admitsPrimary) declined
    rcases primary parallel admitsPrimary with ⟨_, _, head, parallel, sameHead⟩
    rcases accesses parallel admits with ⟨_, _, tails, parallel, sameTails⟩
    refine ⟨_, _, .operandPlain declinedOther head tails, parallel, ?_⟩
    simp only [Production.mapRanges] at sameHead sameTails ⊢
    rw [AccessTail.mapRanges_foldl, AccessTail.mapRanges_foldl, sameHead, sameTails]

theorem isFollowed_primary :
    Production.primary.Inherits State.Normal comparison.IsFollowed := by
  intro state value next reads parts other parallel admits
  cases parts with
  | primaryParenthesized taken _ closes _ inner _ closing =>
    rcases parallel.takes taken with ⟨_, _, opening, sameOpening, parallel⟩
    rcases inner parallel (closes.admits admits) with ⟨_, _, innerOther, parallel, sameInner⟩
    rcases closing parallel admits with ⟨_, _, closesOther, parallel, sameClosing⟩
    refine ⟨_, _, .primaryParenthesized opening innerOther closesOther, parallel, ?_⟩
    simp only [Production.mapRanges] at sameInner sameClosing
    simp [Expression.mapRanges, sameOpening.range, sameInner, sameClosing]
  | primaryLiteral taken =>
    rcases parallel.takes taken with ⟨_, _, takenOther, same, parallel⟩
    exact ⟨_, _, .primaryLiteral takenOther, parallel, same.literal taken.recognized⟩
  | primaryMissing noOpening declined =>
    have before := admits.fail
    refine ⟨_, _, .primaryMissing (parallel.declines before noOpening)
      (parallel.declines before declined), parallel.fail admits, ?_⟩
    simp [Expression.mapRanges_missing, parallel.anchor]

theorem isFollowed_accesses :
    Production.accesses.Inherits State.Normal comparison.IsFollowed := by
  intro state value next reads parts other parallel admits
  cases parts with
  | accessesEnd declined =>
    exact ⟨_, _, .accessesEnd (parallel.declines admits declined), parallel, rfl⟩
  | accessesIndex taken _ closes readsMore _ inner _ closing _ more =>
    have admitsClosing := readsMore.admits admits
    rcases parallel.takes taken with ⟨_, _, opening, sameOpening, parallel⟩
    rcases inner parallel (closes.admits admitsClosing) with
      ⟨_, _, innerOther, parallel, sameInner⟩
    rcases closing parallel admitsClosing with ⟨_, _, closesOther, parallel, sameClosing⟩
    rcases more parallel admits with ⟨_, _, tails, parallel, sameTails⟩
    refine ⟨_, _, .accessesIndex opening innerOther closesOther tails, parallel, ?_⟩
    simp only [Production.mapRanges] at sameInner sameClosing sameTails
    simp [AccessTail.mapRanges, sameOpening.range, sameInner, sameClosing, sameTails]
  | accessesMember taken _ readsMore _ name _ more =>
    rcases parallel.takes taken with ⟨_, _, dot, sameDot, parallel⟩
    rcases name parallel (readsMore.admits admits) with ⟨_, _, nameOther, parallel, sameName⟩
    rcases more parallel admits with ⟨_, _, tails, parallel, sameTails⟩
    refine ⟨_, _, .accessesMember dot nameOther tails, parallel, ?_⟩
    simp only [Production.mapRanges] at sameName sameTails
    simp [AccessTail.mapRanges, sameDot.range, sameName, sameTails]
  | accessesEmptyCall taken closes _ _ more =>
    rcases parallel.takes taken with ⟨_, _, opening, sameOpening, parallel⟩
    rcases parallel.takes closes with ⟨_, _, closing, sameClosing, parallel⟩
    rcases more parallel admits with ⟨_, _, tails, parallel, sameTails⟩
    refine ⟨_, _, .accessesEmptyCall opening closing tails, parallel, ?_⟩
    simp only [Production.mapRanges] at sameTails
    simp [AccessTail.mapRanges, Expression.listMapRanges, sameOpening.range, sameClosing.range,
      sameTails]
  | accessesCall taken filled readsArguments readsMore _ arguments _ more =>
    have admitsArguments := readsMore.admits admits
    rcases parallel.takes taken with ⟨_, _, opening, sameOpening, parallel⟩
    rw [← parallel.isAt_eq (readsArguments.admits admitsArguments)] at filled
    rcases arguments parallel admitsArguments with
      ⟨⟨_, _⟩, _, argumentsOther, parallel, sameArguments⟩
    rcases more parallel admits with ⟨_, _, tails, parallel, sameTails⟩
    refine ⟨_, _, .accessesCall opening filled argumentsOther tails, parallel, ?_⟩
    simp only [Production.mapRanges, Prod.mk.injEq] at sameArguments sameTails
    simp [AccessTail.mapRanges, sameOpening.range, sameArguments, sameTails]

theorem isFollowed_arguments :
    Production.arguments.Inherits State.Normal comparison.IsFollowed := by
  intro state value next reads parts other parallel admits
  cases parts with
  | argumentsLast _ declined closes _ argument _ closing =>
    have admitsArgument := closes.admits admits
    rcases argument parallel admitsArgument with ⟨_, _, argumentOther, parallel, sameArgument⟩
    have declinedOther := parallel.declines admitsArgument declined
    rcases closing parallel admits with ⟨_, _, closesOther, parallel, sameClosing⟩
    refine ⟨_, _, .argumentsLast argumentOther declinedOther closesOther, parallel, ?_⟩
    simp only [Production.mapRanges] at sameArgument sameClosing
    simp [Expression.listMapRanges, sameArgument, sameClosing]
  | argumentsTrailing _ taken closes _ argument =>
    have failed := closes.admits admits
    rcases argument parallel (taken.admits failed.fail) with
      ⟨_, _, argumentOther, parallel, sameArgument⟩
    rcases parallel.takes taken with ⟨_, _, comma, sameComma, parallel⟩
    rcases (parallel.fail failed).takes closes with ⟨_, _, closing, sameClosing, parallel⟩
    refine ⟨_, _, .argumentsTrailing argumentOther comma closing, parallel, ?_⟩
    simp only [Production.mapRanges] at sameArgument
    simp [Expression.listMapRanges, sameComma.range, sameClosing.range, sameArgument]
  | argumentsNext _ taken goesOn readsMore _ argument _ more =>
    have admitsComma := readsMore.admits admits
    rcases argument parallel (taken.admits admitsComma) with
      ⟨_, _, argumentOther, parallel, sameArgument⟩
    rcases parallel.takes taken with ⟨_, _, comma, sameComma, parallel⟩
    rw [← parallel.isAt_eq admitsComma] at goesOn
    rcases more parallel admits with ⟨⟨_, _⟩, _, moreOther, parallel, sameMore⟩
    refine ⟨_, _, .argumentsNext argumentOther comma goesOn moreOther, parallel, ?_⟩
    simp only [Production.mapRanges, Prod.mk.injEq] at sameArgument sameMore
    simp [Expression.listMapRanges, sameComma.range, sameArgument, sameMore]

theorem isFollowed_elements (isFirst : Bool) :
    (Production.elements isFirst).Inherits State.Normal comparison.IsFollowed := by
  intro state value next reads parts other parallel admits
  cases parts with
  | elementsEnd ends =>
    exact ⟨_, _, .elementsEnd ((parallel.isAt_eq admits _).trans ends), parallel, rfl⟩
  | elementsMissing goesOn readsElement missing _ element =>
    rw [← parallel.isAt_eq (readsElement.admits admits)] at goesOn
    rcases element parallel admits with ⟨_, _, readsOther, parallel, same⟩
    refine ⟨_, _, .elementsMissing goesOn readsOther ((isMissing_eq_of_mapRanges same).trans
      missing), parallel, ?_⟩
    simp [parallel.anchor]
  | elementsLast goesOn readsElement present declined _ element =>
    rw [← parallel.isAt_eq (readsElement.admits admits)] at goesOn
    rcases element parallel admits with ⟨_, _, readsOther, parallel, same⟩
    refine ⟨_, _, .elementsLast goesOn readsOther ((isMissing_eq_of_mapRanges same).trans
      present) (parallel.declines admits declined), parallel, ?_⟩
    simpa using same
  | elementsNext goesOn readsElement present taken readsMore _ element _ more =>
    have admitsElement := taken.admits (readsMore.admits admits)
    rw [← parallel.isAt_eq (readsElement.admits admitsElement)] at goesOn
    rcases element parallel admitsElement with ⟨_, _, readsOther, parallel, same⟩
    rcases parallel.takes taken with ⟨_, _, comma, sameComma, parallel⟩
    rcases more parallel admits with ⟨⟨_, _⟩, _, moreOther, parallel, sameMore⟩
    refine ⟨_, _, .elementsNext goesOn readsOther ((isMissing_eq_of_mapRanges same).trans
      present) comma moreOther, parallel, ?_⟩
    simp only [Production.mapRanges, Prod.mk.injEq] at same sameMore
    simp [sameComma.range, same, sameMore]

theorem isFollowed_initialValue :
    Production.initialValue.Inherits State.Normal comparison.IsFollowed := by
  intro state value next reads parts other parallel admits
  cases parts with
  | initialElements taken _ closes _ elements _ closing =>
    rcases parallel.takes taken with ⟨_, _, opening, sameOpening, parallel⟩
    rcases elements parallel (closes.admits admits) with
      ⟨⟨_, _⟩, _, elementsOther, parallel, sameElements⟩
    rcases closing parallel admits with ⟨_, _, closesOther, parallel, sameClosing⟩
    refine ⟨_, _, .initialElements opening elementsOther closesOther, parallel, ?_⟩
    simp only [Production.mapRanges, Prod.mk.injEq] at sameElements sameClosing
    simp [Expression.mapRanges, sameOpening.range, sameElements, sameClosing]
  | initialExpression declined readsValue _ value =>
    have declinedOther := parallel.declines (readsValue.admits admits) declined
    rcases value parallel admits with ⟨_, _, valueOther, parallel, same⟩
    exact ⟨_, _, .initialExpression declinedOther valueOther, parallel, same⟩

theorem isFollowed_arraySize :
    Production.arraySize.Inherits State.Normal comparison.IsFollowed := by
  intro state value next reads parts other parallel admits
  cases parts with
  | arraySizeAbsent declined =>
    exact ⟨_, _, .arraySizeAbsent (parallel.declines admits declined), parallel, rfl⟩
  | arraySizeWritten taken _ closes _ size _ closing =>
    rcases parallel.takes taken with ⟨_, _, opening, sameOpening, parallel⟩
    rcases size parallel (closes.admits admits) with ⟨_, _, sizeOther, parallel, sameSize⟩
    rcases closing parallel admits with ⟨_, _, closesOther, parallel, sameClosing⟩
    refine ⟨_, _, .arraySizeWritten opening sizeOther closesOther, parallel, ?_⟩
    simp only [Production.mapRanges] at sameSize sameClosing
    simp [ArraySize.mapRanges, sameOpening.range, sameSize, sameClosing]

theorem isFollowed_initializer :
    Production.initializer.Inherits State.Normal comparison.IsFollowed := by
  intro state value next reads parts other parallel admits
  cases parts with
  | initializerAbsent declined =>
    exact ⟨_, _, .initializerAbsent (parallel.declines admits declined), parallel, rfl⟩
  | initializerWritten taken _ _ value =>
    rcases parallel.takes taken with ⟨_, _, sign, sameSign, parallel⟩
    rcases value parallel admits with ⟨_, _, valueOther, parallel, sameValue⟩
    refine ⟨_, _, .initializerWritten sign valueOther, parallel, ?_⟩
    simp only [Production.mapRanges] at sameValue
    simp [Initializer.mapRanges, sameSign.range, sameValue]

theorem isFollowed_variableDeclaration :
    Production.variableDeclaration.Inherits State.Normal comparison.IsFollowed := by
  intro state value next reads parts other parallel admits
  cases parts with
  | variableDeclaration taken _ readsName readsSize readsInitializer ends _ type _ name _ size _
    initializer _ terminator =>
    have admitsInitializer := ends.admits admits
    have admitsSize := readsInitializer.admits admitsInitializer
    have admitsName := readsSize.admits admitsSize
    exact Carries.variableDeclaration taken
      (fun _ begun => type begun (readsName.admits admitsName))
      (fun _ begun => name begun admitsName) (fun _ begun => size begun admitsSize)
      (fun _ begun => initializer begun admitsInitializer) (fun _ begun => terminator begun admits)
      parallel

theorem isFollowed_assignmentTail :
    Production.assignmentTail.Inherits State.Normal comparison.IsFollowed := by
  intro state value next reads parts other parallel admits
  cases parts with
  | assignmentSigned taken _ ends _ right _ terminator =>
    rcases parallel.takes taken with ⟨_, _, sign, sameSign, parallel⟩
    rcases right parallel (ends.admits admits) with ⟨_, _, rightOther, parallel, sameRight⟩
    rcases terminator parallel admits with ⟨_, _, endsOther, parallel, sameEnd⟩
    refine ⟨_, _, .assignmentSigned sign rightOther endsOther, parallel, ?_⟩
    simp only [Production.mapRanges] at sameRight sameEnd
    simp [AssignmentTail.mapRanges, sameSign.range, sameRight, sameEnd]
  | assignmentUnsigned declined ends _ terminator =>
    have failed := ends.admits admits
    have declinedOther := parallel.declines failed.fail declined
    have anchor := parallel.anchor
    rcases terminator (parallel.fail failed) admits with ⟨_, _, endsOther, parallel, sameEnd⟩
    refine ⟨_, _, .assignmentUnsigned declinedOther endsOther, parallel, ?_⟩
    simp only [Production.mapRanges] at sameEnd
    simp [AssignmentTail.mapRanges, Expression.mapRanges_missing, anchor, sameEnd]

theorem isFollowed_condition :
    Production.condition.Inherits State.Normal comparison.IsFollowed := by
  intro state value next reads parts other parallel admits
  cases parts with
  | conditionBare noOpening opens readsCondition _ condition =>
    have reported := readsCondition.admits admits
    have before := reported.reportMissing
    rcases condition (parallel.reportMissing before _) admits with ⟨_, _, readsOther, after, same⟩
    exact ⟨_, _, .conditionBare ((parallel.isAt_eq before _).trans noOpening)
      (parallel.peek_eq before ▸ opens) readsOther, after, same⟩
  | conditionPlain plain readsCondition _ condition =>
    have before := readsCondition.admits admits
    rw [← parallel.isAt_eq before, ← parallel.peek_eq before] at plain
    rcases condition parallel admits with ⟨_, _, readsOther, after, same⟩
    exact ⟨_, _, .conditionPlain plain readsOther, after, same⟩

theorem isFollowed_block :
    Production.block.Inherits State.Normal comparison.IsFollowed := by
  intro state value next reads parts other parallel admits
  cases parts with
  | blockMissing declined =>
    have before := admits.fail
    refine ⟨_, _, .blockMissing (parallel.declines before declined), parallel.fail admits, ?_⟩
    simp [Block.mapRanges, parallel.anchor]
  | blockWritten taken _ closes _ items _ closing =>
    exact Carries.blockWritten taken (fun _ begun => items begun (closes.admits admits))
      (fun _ begun => closing begun admits) parallel

theorem isFollowed_statements :
    Production.statements.Inherits State.Normal comparison.IsFollowed := by
  intro state value next reads parts other parallel admits
  cases parts with
  | statementsEnd ends =>
    exact ⟨_, _, .statementsEnd ((parallel.endsList_eq admits).trans ends), parallel, rfl⟩
  | statementsNext goesOn readsItem resumes readsMore _ item _ more =>
    have admitsResumed := readsMore.admits admits
    have admitsItem := resumes.admits admitsResumed
    rw [← parallel.endsList_eq (readsItem.admits admitsItem)] at goesOn
    rcases item parallel admitsItem with ⟨_, _, itemOther, parallelItem, sameItem⟩
    rcases parallelItem.exists_resumes parallel resumes admitsResumed with
      ⟨_, _, resumesOther, parallel, sameNode⟩
    rcases more parallel admits with ⟨_, _, moreOther, parallel, sameMore⟩
    refine ⟨_, _, .statementsNext goesOn itemOther resumesOther moreOther, parallel, ?_⟩
    refine map_resumed ?_ ?_ sameItem sameNode sameMore <;>
      exact fun node => by rw [Statement.mapRanges]

theorem isFollowed_statement :
    Production.statement.Inherits State.Normal comparison.IsFollowed := by
  intro state value next reads parts other parallel admits
  cases parts with
  | statementIf taken _ readsConsequence noElse _ condition _ consequence =>
    rcases parallel.takes taken with ⟨_, _, keyword, sameKeyword, parallel⟩
    rcases condition parallel (readsConsequence.admits admits) with
      ⟨_, _, conditionOther, parallel, sameCondition⟩
    rcases consequence parallel admits with ⟨_, _, consequenceOther, parallel, sameConsequence⟩
    refine ⟨_, _, .statementIf keyword conditionOther consequenceOther
      (parallel.declines admits noElse), parallel, ?_⟩
    simp only [Production.mapRanges] at sameCondition sameConsequence
    simp [Statement.mapRanges, sameKeyword.range, sameCondition, sameConsequence]
  | statementIfElse taken _ readsConsequence otherwise readsAlternative _ condition _ consequence _
    alternative =>
    have admitsConsequence := otherwise.admits (readsAlternative.admits admits)
    rcases parallel.takes taken with ⟨_, _, keyword, sameKeyword, parallel⟩
    rcases condition parallel (readsConsequence.admits admitsConsequence) with
      ⟨_, _, conditionOther, parallel, sameCondition⟩
    rcases consequence parallel admitsConsequence with
      ⟨_, _, consequenceOther, parallel, sameConsequence⟩
    rcases parallel.takes otherwise with ⟨_, _, elseOther, sameElse, parallel⟩
    rcases alternative parallel admits with ⟨_, _, alternativeOther, parallel, sameAlternative⟩
    refine ⟨_, _, .statementIfElse keyword conditionOther consequenceOther elseOther
      alternativeOther, parallel, ?_⟩
    simp only [Production.mapRanges] at sameCondition sameConsequence sameAlternative
    simp [sameKeyword.range, sameElse.range, sameCondition, sameConsequence, sameAlternative]
  | statementReturn taken bare ends _ terminator =>
    rcases parallel.takes taken with ⟨_, _, keyword, sameKeyword, parallel⟩
    rw [← parallel.peek_eq (ends.admits admits)] at bare
    rcases terminator parallel admits with ⟨_, _, endsOther, parallel, sameEnd⟩
    refine ⟨_, _, .statementReturn keyword bare endsOther, parallel, ?_⟩
    simp only [Production.mapRanges] at sameEnd
    simp [ReturnStatement.mapRanges, sameKeyword.range, sameEnd]
  | statementReturnValue taken opens readsValue ends _ value _ terminator =>
    have admitsValue := ends.admits admits
    rcases parallel.takes taken with ⟨_, _, keyword, sameKeyword, parallel⟩
    rw [← parallel.peek_eq (readsValue.admits admitsValue)] at opens
    rcases value parallel admitsValue with ⟨_, _, valueOther, parallel, sameValue⟩
    rcases terminator parallel admits with ⟨_, _, endsOther, parallel, sameEnd⟩
    refine ⟨_, _, .statementReturnValue keyword opens valueOther endsOther, parallel, ?_⟩
    simp only [Production.mapRanges] at sameValue sameEnd
    simp [ReturnStatement.mapRanges, sameKeyword.range, sameValue, sameEnd]
  | statementVariable _ _ declaration =>
    rcases declaration parallel admits with ⟨_, _, declarationOther, parallel, same⟩
    refine ⟨_, _, .statementVariable declarationOther, parallel, ?_⟩
    simpa [Statement.mapRanges] using same
  | statementBlock opens readsBlock _ block =>
    rw [← parallel.isAt_eq (readsBlock.admits admits)] at opens
    rcases block parallel admits with ⟨_, _, blockOther, parallel, same⟩
    refine ⟨_, _, .statementBlock opens blockOther, parallel, ?_⟩
    simpa using same
  | statementExpression opens readsExpression unsigned ends _ expression _ terminator =>
    have admitsExpression := ends.admits admits
    rw [← parallel.peek_eq (readsExpression.admits admitsExpression)] at opens
    rcases expression parallel admitsExpression with
      ⟨_, _, expressionOther, parallel, sameExpression⟩
    rw [parallel.mode, ← parallel.peek_eq admitsExpression] at unsigned
    rcases terminator parallel admits with ⟨_, _, endsOther, parallel, sameEnd⟩
    refine ⟨_, _, .statementExpression opens expressionOther unsigned endsOther, parallel, ?_⟩
    simp only [Production.mapRanges] at sameExpression sameEnd
    simp [ExpressionStatement.mapRanges, sameExpression, sameEnd]
  | statementAssignment opens readsTarget signed readsTail _ target _ tail =>
    have admitsChecked := readsTail.admits admits
    have admitsTarget := admitsChecked.checkTarget
    rw [← parallel.peek_eq (readsTarget.admits admitsTarget)] at opens
    rcases target parallel admitsTarget with ⟨_, _, targetOther, parallel, sameTarget⟩
    rw [parallel.mode, ← parallel.peek_eq admitsTarget] at signed
    rcases tail (parallel.checkTarget sameTarget) admits with
      ⟨_, _, tailOther, parallel, sameTail⟩
    refine ⟨_, _, .statementAssignment opens targetOther signed tailOther, parallel, ?_⟩
    simp only [Production.mapRanges] at sameTarget sameTail
    simp [AssignmentTail.mapRanges_onto, sameTarget, sameTail]
  | statementAbsent empty =>
    exact ⟨_, _, .statementAbsent (parallel.rest_eq_nil admits.fail empty), parallel.fail admits,
      rfl⟩
  | statementRejected nonempty noIf noReturn noKind noBlock noExpression =>
    have before := admits.reject
    rw [← parallel.isAt_eq before] at noBlock
    rw [← parallel.peek_eq before] at noExpression
    exact ⟨_, _, .statementRejected (parallel.rest_ne_nil nonempty)
      (parallel.declines before noIf) (parallel.declines before noReturn)
      (parallel.declines before noKind) noBlock noExpression, parallel.reject before _, rfl⟩

theorem isFollowed_branch :
    Production.branch.Inherits State.Normal comparison.IsFollowed := by
  intro state value next reads parts other parallel admits
  cases parts with
  | branchRecovering recovering =>
    refine ⟨_, _, .branchRecovering (parallel.mode ▸ recovering), parallel, ?_⟩
    simp [Branch.mapRanges, parallel.anchor]
  | branchBlock normal opens readsBlock readsSemicolon _ block _ semicolon =>
    have admitsBlock := readsSemicolon.admits admits
    have normalOther := parallel.mode ▸ normal
    rw [← parallel.isAt_eq (readsBlock.admits admitsBlock)] at opens
    rcases block parallel admitsBlock with ⟨_, _, blockOther, parallel, sameBlock⟩
    rcases semicolon parallel admits with ⟨_, _, semicolonOther, parallel, sameSemicolon⟩
    refine ⟨_, _, .branchBlock normalOther opens blockOther semicolonOther, parallel, ?_⟩
    simp only [Production.mapRanges] at sameBlock sameSemicolon
    simp [Branch.mapRanges, Statement.mapRanges, sameBlock, sameSemicolon]
  | branchStatement normal plain readsStatement _ statement =>
    rw [← parallel.isAt_eq (readsStatement.admits admits)] at plain
    rcases statement parallel admits with ⟨_ | _, _, statementOther, after, same⟩
    · cases same
    · refine ⟨_, _, .branchStatement (parallel.mode ▸ normal) plain statementOther, after, ?_⟩
      simpa using same
  | branchMissing normal plain readsStatement _ statement =>
    rw [← parallel.isAt_eq (readsStatement.admits admits)] at plain
    rcases statement parallel admits with ⟨_ | _, _, statementOther, after, same⟩
    · refine ⟨_, _, .branchMissing (parallel.mode ▸ normal) plain statementOther, after, ?_⟩
      simp [after.anchor]
    · cases same

theorem isFollowed_parentClause :
    Production.parentClause.Inherits State.Normal comparison.IsFollowed := by
  intro state value next reads parts other parallel admits
  cases parts with
  | parentAbsent declined =>
    exact ⟨_, _, .parentAbsent (parallel.declines admits declined), parallel, rfl⟩
  | parentWritten taken _ closes _ name _ closing =>
    rcases parallel.takes taken with ⟨_, _, opening, sameOpening, parallel⟩
    rcases name parallel (closes.admits admits) with ⟨_, _, nameOther, parallel, sameName⟩
    rcases closing parallel admits with ⟨_, _, closesOther, parallel, sameClosing⟩
    refine ⟨_, _, .parentWritten opening nameOther closesOther, parallel, ?_⟩
    simp only [Production.mapRanges] at sameName sameClosing
    simp [ParentClause.mapRanges, sameOpening.range, sameName, sameClosing]

theorem isFollowed_instanceBody (hasParent : Bool) :
    (Production.instanceBody hasParent).Inherits State.Normal comparison.IsFollowed := by
  intro state value next reads parts other parallel admits
  cases parts with
  | instanceIdle recovering =>
    exact ⟨_, _, .instanceIdle (parallel.mode ▸ recovering), parallel, rfl⟩
  | instanceBlock normal opens readsBody readsSemicolon _ body _ semicolon =>
    have admitsBody := readsSemicolon.admits admits
    exact Carries.instanceBlock normal
      (fun _ begun => (begun.isAt_eq (readsBody.admits admitsBody) _).trans opens)
      (fun _ begun => body begun admitsBody) (fun _ begun => semicolon begun admits) parallel
  | @instanceForward hasParent _ _ _ taken =>
    have before := taken.admits admits
    cases hasParent with
    | true =>
      rcases parallel.takes taken with ⟨_, _, takenOther, same, parallel⟩
      refine ⟨_, _, .instanceForward takenOther, parallel, ?_⟩
      simp [same.range]
    | false =>
      rcases (parallel.reportMissing before.reportMissing _).takes taken with
        ⟨_, _, takenOther, same, parallel⟩
      refine ⟨_, _, .instanceForward takenOther, parallel, ?_⟩
      simp [same.range]
  | instanceBare normal noBlock noSemicolon =>
    have before := admits.fail
    rw [← parallel.isAt_eq before] at noBlock noSemicolon
    exact ⟨_, _, .instanceBare (parallel.mode ▸ normal) noBlock noSemicolon, parallel.fail admits,
      rfl⟩

theorem isFollowed_declarationBody :
    Production.declarationBody.Inherits State.Normal comparison.IsFollowed := by
  intro state value next reads parts other parallel admits
  cases parts with
  | bodyIdle recovering =>
    refine ⟨_, _, .bodyIdle (parallel.mode ▸ recovering), parallel, ?_⟩
    simp [Block.mapRanges, parallel.anchor]
  | bodyMissing normal _ missing _ body =>
    have normalOther := parallel.mode ▸ normal
    rcases body parallel admits with ⟨_, _, bodyOther, parallel, same⟩
    refine ⟨_, _, .bodyMissing normalOther bodyOther ((isMissing_eq_of_block same).trans missing),
      parallel,
      ?_⟩
    simpa using same
  | bodyWritten normal _ written readsSemicolon _ body _ semicolon =>
    exact Carries.bodyWritten normal written
      (fun _ begun => body begun (readsSemicolon.admits admits))
      (fun _ begun => semicolon begun admits) parallel

theorem isFollowed_qualifier :
    Production.qualifier.Inherits State.Normal comparison.IsFollowed := by
  intro state value next reads parts other parallel admits
  cases parts with
  | qualifierAbsent declined =>
    exact ⟨_, _, .qualifierAbsent (parallel.declines admits declined), parallel, rfl⟩
  | qualifierWritten taken =>
    rcases parallel.takes taken with ⟨_, _, takenOther, same, parallel⟩
    refine ⟨_, _, .qualifierWritten takenOther, parallel, ?_⟩
    simp [same.range]

theorem isFollowed_parameter :
    Production.parameter.Inherits State.Normal comparison.IsFollowed := by
  intro state value next reads parts other parallel admits
  cases parts with
  | parameter _ readsType readsName _ qualifier _ type _ name =>
    have admitsType := readsName.admits admits
    rcases qualifier parallel (readsType.admits admitsType) with
      ⟨_, _, qualifierOther, parallel, sameQualifier⟩
    rcases type parallel admitsType with ⟨_, _, typeOther, parallel, sameType⟩
    rcases name parallel admits with ⟨_, _, nameOther, parallel, sameName⟩
    refine ⟨_, _, .parameter qualifierOther typeOther nameOther, parallel, ?_⟩
    simp only [Production.mapRanges] at sameQualifier sameType sameName
    simp [Parameter.mapRanges, sameQualifier, sameType, sameName]

theorem isFollowed_parameters :
    Production.parameters.Inherits State.Normal comparison.IsFollowed := by
  intro state value next reads parts other parallel admits
  cases parts with
  | parametersLast _ declined closes _ item _ closing =>
    have admitsItem := closes.admits admits
    rcases item parallel admitsItem with ⟨_, _, itemOther, parallel, sameItem⟩
    have declinedOther := parallel.declines admitsItem declined
    rcases closing parallel admits with ⟨_, _, closesOther, parallel, sameClosing⟩
    refine ⟨_, _, .parametersLast itemOther declinedOther closesOther, parallel, ?_⟩
    simp only [Production.mapRanges] at sameItem sameClosing
    simp [Parameter.listMapRanges, sameItem, sameClosing]
  | parametersTrailing _ taken closes _ item =>
    have failed := closes.admits admits
    rcases item parallel (taken.admits failed.fail) with ⟨_, _, itemOther, parallel, sameItem⟩
    rcases parallel.takes taken with ⟨_, _, comma, sameComma, parallel⟩
    rcases (parallel.fail failed).takes closes with ⟨_, _, closing, sameClosing, parallel⟩
    refine ⟨_, _, .parametersTrailing itemOther comma closing, parallel, ?_⟩
    simp only [Production.mapRanges] at sameItem
    simp [Parameter.listMapRanges, sameComma.range, sameClosing.range, sameItem]
  | parametersNext _ taken goesOn readsMore _ item _ more =>
    have admitsComma := readsMore.admits admits
    rcases item parallel (taken.admits admitsComma) with ⟨_, _, itemOther, parallel, sameItem⟩
    rcases parallel.takes taken with ⟨_, _, comma, sameComma, parallel⟩
    rw [← parallel.isAt_eq admitsComma] at goesOn
    rcases more parallel admits with ⟨⟨_, _⟩, _, moreOther, parallel, sameMore⟩
    refine ⟨_, _, .parametersNext itemOther comma goesOn moreOther, parallel, ?_⟩
    simp only [Production.mapRanges, Parameter.listMapRanges, Prod.mk.injEq] at sameItem sameMore
    simp [Parameter.listMapRanges, sameComma.range, sameItem, sameMore]

theorem isFollowed_parameterList :
    Production.parameterList.Inherits State.Normal comparison.IsFollowed := by
  intro state value next reads parts other parallel admits
  cases parts with
  | parameterListIdle recovering =>
    refine ⟨_, _, .parameterListIdle (parallel.mode ▸ recovering), parallel, ?_⟩
    simp [ParameterList.mapRanges, parallel.anchor]
  | parameterListMissing missed =>
    have before := admits.fail
    refine ⟨_, _, .parameterListMissing (parallel.misses before missed), parallel.fail admits, ?_⟩
    simp [ParameterList.mapRanges, parallel.anchor]
  | parameterListEmpty taken closes =>
    rcases parallel.takes taken with ⟨_, _, opening, sameOpening, parallel⟩
    rcases parallel.takes closes with ⟨_, _, closing, sameClosing, parallel⟩
    refine ⟨_, _, .parameterListEmpty opening closing, parallel, ?_⟩
    simp [ParameterList.mapRanges, Parameter.listMapRanges,
      sameOpening.range, sameClosing.range]
  | parameterListFilled taken filled readsParameters _ parameters =>
    rcases parallel.takes taken with ⟨_, _, opening, sameOpening, parallel⟩
    rw [← parallel.isAt_eq (readsParameters.admits admits)] at filled
    rcases parameters parallel admits with ⟨⟨_, _⟩, _, parametersOther, parallel, sameParameters⟩
    refine ⟨_, _, .parameterListFilled opening filled parametersOther, parallel, ?_⟩
    simp only [Production.mapRanges, Prod.mk.injEq] at sameParameters
    simp [ParameterList.mapRanges, sameOpening.range, sameParameters]

theorem isFollowed_classItem :
    Production.classItem.Inherits State.Normal comparison.IsFollowed := by
  intro state value next reads parts other parallel admits
  cases parts with
  | classVariable _ _ declaration =>
    rcases declaration parallel admits with ⟨_, _, declarationOther, parallel, same⟩
    refine ⟨_, _, .classVariable declarationOther, parallel, ?_⟩
    simpa [ClassItem.mapRanges, ClassMember.mapRanges] using same
  | classAbandoned opens readsTarget recovering _ target =>
    rw [← parallel.isAt_eq (readsTarget.admits admits)] at opens
    rcases target parallel admits with ⟨_, _, targetOther, parallel, same⟩
    refine ⟨_, _, .classAbandoned opens targetOther (parallel.mode ▸ recovering), parallel, ?_⟩
    simpa [ClassItem.mapRanges] using same
  | classAssignment opens readsTarget normal readsTail _ target _ tail =>
    have admitsTarget := (readsTail.admits admits).checkTarget
    rw [← parallel.isAt_eq (readsTarget.admits admitsTarget)] at opens
    rcases target parallel admitsTarget with ⟨_, _, targetOther, parallel, sameTarget⟩
    have normalOther := parallel.mode ▸ normal
    rcases tail (parallel.checkTarget sameTarget) admits with
      ⟨_, _, tailOther, parallel, sameTail⟩
    refine ⟨_, _, .classAssignment opens targetOther normalOther tailOther, parallel, ?_⟩
    simp only [Production.mapRanges] at sameTarget sameTail
    simp [ClassItem.mapRanges, ClassMember.mapRanges,
      AssignmentTail.mapRanges_onto, sameTarget, sameTail]
  | classRejected noKind noTarget =>
    have before := admits.reject
    rw [← parallel.isAt_eq before] at noTarget
    exact ⟨_, _, .classRejected (parallel.declines before noKind) noTarget,
      parallel.reject before _, rfl⟩

theorem isFollowed_classItems :
    Production.classItems.Inherits State.Normal comparison.IsFollowed := by
  intro state value next reads parts other parallel admits
  cases parts with
  | classItemsEnd ends =>
    exact ⟨_, _, .classItemsEnd ((parallel.endsList_eq admits).trans ends), parallel, rfl⟩
  | classItemsNext goesOn readsItem resumes readsMore _ item _ more =>
    have admitsResumed := readsMore.admits admits
    have admitsItem := resumes.admits admitsResumed
    rw [← parallel.endsList_eq (readsItem.admits admitsItem)] at goesOn
    rcases item parallel admitsItem with ⟨_, _, itemOther, parallelItem, sameItem⟩
    rcases parallelItem.exists_resumes parallel resumes admitsResumed with
      ⟨_, _, resumesOther, parallel, sameNode⟩
    rcases more parallel admits with ⟨_, _, moreOther, parallel, sameMore⟩
    refine ⟨_, _, .classItemsNext goesOn itemOther resumesOther moreOther, parallel, ?_⟩
    refine map_resumed ?_ ?_ sameItem sameNode sameMore <;> exact fun _ => rfl

theorem isFollowed_classBody :
    Production.classBody.Inherits State.Normal comparison.IsFollowed := by
  intro state value next reads parts other parallel admits
  cases parts with
  | classBodyMissing declined =>
    have before := admits.fail
    refine ⟨_, _, .classBodyMissing (parallel.declines before declined), parallel.fail admits, ?_⟩
    simp [ClassBody.mapRanges, parallel.anchor]
  | classBodyWritten taken _ closes _ items _ closing =>
    exact Carries.classBodyWritten taken (fun _ begun => items begun (closes.admits admits))
      (fun _ begun => closing begun admits) parallel

theorem isFollowed_declaration :
    Production.declaration.Inherits State.Normal comparison.IsFollowed := by
  intro state value next reads parts other parallel admits
  cases parts with
  | declarationInstance taken readsName readsParent readsBody _ name _ parent _ body =>
    have admitsParent := readsBody.admits admits
    exact Carries.declarationInstance taken
      (fun _ begun => name begun (readsParent.admits admitsParent))
      (fun _ begun => parent begun admitsParent) (fun _ begun => body begun admits) parallel
  | declarationPrototype taken readsName opens readsParent closes readsBody _ name _ opening _
    parent _ closing _ body =>
    have admitsClosing := readsBody.admits admits
    have admitsParent := closes.admits admitsClosing
    have admitsOpening := readsParent.admits admitsParent
    exact Carries.declarationPrototype taken
      (fun _ begun => name begun (opens.admits admitsOpening))
      (fun _ begun => opening begun admitsOpening) (fun _ begun => parent begun admitsParent)
      (fun _ begun => closing begun admitsClosing) (fun _ begun => body begun admits) parallel
  | declarationFunction taken readsType readsName readsParameters readsBody _ type _ name _
    parameters _ body =>
    have admitsParameters := readsBody.admits admits
    have admitsName := readsParameters.admits admitsParameters
    exact Carries.declarationFunction taken
      (fun _ begun => type begun (readsName.admits admitsName))
      (fun _ begun => name begun admitsName)
      (fun _ begun => parameters begun admitsParameters) (fun _ begun => body begun admits)
      parallel
  | declarationNamelessClass taken _ recovering _ name =>
    rcases parallel.takes taken with ⟨_, _, keyword, sameKeyword, parallel⟩
    rcases name parallel admits with ⟨_, _, nameOther, parallel, sameName⟩
    have recoveringOther := parallel.mode ▸ recovering
    refine ⟨_, _, .declarationNamelessClass keyword nameOther recoveringOther, parallel, ?_⟩
    simp only [Production.mapRanges] at sameName
    simp [Declaration.mapRanges, ClassDeclaration.mapRanges, ClassBody.mapRanges,
      sameKeyword.range, parallel.anchor, sameName]
  | declarationUnfinishedClass taken _ normal readsBody missing _ name _ body =>
    rcases parallel.takes taken with ⟨_, _, keyword, sameKeyword, parallel⟩
    rcases name parallel (readsBody.admits admits) with ⟨_, _, nameOther, parallel, sameName⟩
    have normalOther := parallel.mode ▸ normal
    rcases body parallel admits with ⟨_, _, bodyOther, parallel, sameBody⟩
    refine ⟨_, _, .declarationUnfinishedClass keyword nameOther normalOther bodyOther
      ((isMissing_eq_of_classBody sameBody).trans missing), parallel, ?_⟩
    simp only [Production.mapRanges] at sameName sameBody
    simp [Declaration.mapRanges, ClassDeclaration.mapRanges, sameKeyword.range, sameName, sameBody]
  | declarationClass taken _ normal readsBody written readsSemicolon _ name _ body _ semicolon =>
    have admitsBody := readsSemicolon.admits admits
    exact Carries.declarationClass normal written taken
      (fun _ begun => name begun (readsBody.admits admitsBody))
      (fun _ begun => body begun admitsBody) (fun _ begun => semicolon begun admits) parallel
  | declarationVariable _ _ declaration =>
    exact Carries.declarationVariable (fun _ begun => declaration begun admits) parallel
  | declarationRejected declined =>
    have before := admits.reject
    exact ⟨_, _, .declarationRejected (parallel.declines before declined),
      parallel.reject before _, rfl⟩

theorem isFollowed_declarations :
    Production.declarations.Inherits State.Normal comparison.IsFollowed := by
  intro state value next reads parts other parallel admits
  cases parts with
  | declarationsEnd ends =>
    exact ⟨_, _, .declarationsEnd (parallel.rest_eq_nil admits ends), parallel, rfl⟩
  | declarationsNext goesOn readsItem resumes readsMore _ item _ more =>
    have admitsResumed := readsMore.admits admits
    have admitsItem := resumes.admits admitsResumed
    rcases item parallel admitsItem with ⟨_, _, itemOther, parallelItem, sameItem⟩
    rcases parallelItem.exists_resumes parallel resumes admitsResumed with
      ⟨_, _, resumesOther, after, sameNode⟩
    rcases more after admits with ⟨_, _, moreOther, after, sameMore⟩
    refine ⟨_, _, .declarationsNext (parallel.rest_ne_nil goesOn) itemOther resumesOther moreOther,
      after, ?_⟩
    refine map_resumed ?_ ?_ sameItem sameNode sameMore <;> exact fun _ => rfl

/-- What any production reads is followed if its parts are. -/
theorem inherits_isFollowed (comparison : Comparison) (production : Production) :
    production.Inherits State.Normal comparison.IsFollowed := by
  cases production with
  | optional token => exact isFollowed_optional token
  | expected token => exact isFollowed_expected token
  | closingBrace => exact isFollowed_closingBrace
  | terminator => exact isFollowed_terminator
  | identifier => exact isFollowed_identifier
  | directName => exact isFollowed_directName
  | typeReference => exact isFollowed_typeReference
  | operation power => exact isFollowed_operation power
  | operators power => exact isFollowed_operators power
  | operand => exact isFollowed_operand
  | primary => exact isFollowed_primary
  | accesses => exact isFollowed_accesses
  | arguments => exact isFollowed_arguments
  | elements isFirst => exact isFollowed_elements isFirst
  | initialValue => exact isFollowed_initialValue
  | arraySize => exact isFollowed_arraySize
  | initializer => exact isFollowed_initializer
  | variableDeclaration => exact isFollowed_variableDeclaration
  | assignmentTail => exact isFollowed_assignmentTail
  | condition => exact isFollowed_condition
  | block => exact isFollowed_block
  | statements => exact isFollowed_statements
  | statement => exact isFollowed_statement
  | branch => exact isFollowed_branch
  | parentClause => exact isFollowed_parentClause
  | instanceBody hasParent => exact isFollowed_instanceBody hasParent
  | declarationBody => exact isFollowed_declarationBody
  | qualifier => exact isFollowed_qualifier
  | parameter => exact isFollowed_parameter
  | parameters => exact isFollowed_parameters
  | parameterList => exact isFollowed_parameterList
  | classItem => exact isFollowed_classItem
  | classItems => exact isFollowed_classItems
  | classBody => exact isFollowed_classBody
  | declaration => exact isFollowed_declaration
  | declarations => exact isFollowed_declarations

/-- What one parse reads is read by a parallel one. -/
theorem Parallel.follows {production : Production} {value : production.Value}
    (parallel : comparison.Parallel state other) (reads : Reads production state value next)
    (admits : comparison.Admits next) : comparison.Follows production value next other :=
  reads.of_inherits comparison.inherits_isFollowed parallel admits

end Comparison

end ScriptTree.Grammar
