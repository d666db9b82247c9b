import ScriptTree.Proofs.Grammar.Alone.Repetition

/-!
# Variables, assignments and heads read alone

Elements of an array need some care: a closing brace ends them, and where the
lexemes end instead, one more element is sought.  This makes no difference if
the brace is not among what follows the lexemes, or if it is not looked at.
-/

/-!
## Expressions read alone

Whether an expression goes on is decided by the next lexeme and by nothing else.
So it goes on alone as it does in front of other lexemes, and it ends where the
lexemes end.
-/

namespace ScriptTree.Grammar

variable {lines : Nat} {tail : List Lexeme}

theorem unplaced_literal {below above : Lexeme} (same : Lexeme.IsBelow lines below above)
    (literal : Literal) :
    (literal.expression above).unplaced = (literal.expression below).unplaced := by
  cases literal <;>
    simp [Literal.expression, Identifier.unplaced, ErrorNode.unplaced, same.token, same.text]

/-- What reads a part of an expression is read alone too. -/
def Production.RepeatedExpression (lines : Nat) (tail : List Lexeme) (production : Production)
    (state : State) (value : production.Value) (next : State) : Prop :=
  production.isExpression = true →
    production.Repeated lines tail state value next

theorem Production.repeated_operation (power : Nat) :
    (Production.operation power).Inherits State.Normal (RepeatedExpression lines tail) := by
  intro state value next reads parts _
  change reads.Repeats lines tail
  refine .of_unfinished fun alone unfinished echo left admits => ?_
  cases parts with
  | operation _ readsOperators _ operand _ operators =>
    rcases operand rfl echo (left.trans readsOperators.rest_suffix) trivial with
      ⟨first, _, operandAlone, firstAlike, echo⟩
    rcases operators rfl echo left trivial with ⟨tails, _, operatorsAlone, tailsAlike, echo⟩
    refine ⟨_, _, .operation operandAlone operatorsAlone, ?_, echo⟩
    simp only [Production.unplaced] at firstAlike tailsAlike
    simp [Production.unplaced, firstAlike, tailsAlike]

theorem Production.repeated_operators (power : Nat) :
    (Production.operators power).Inherits State.Normal (RepeatedExpression lines tail) := by
  intro state value next reads parts _
  change reads.Repeats lines tail
  refine .of_unfinished fun alone unfinished echo left admits => ?_
  cases parts with
  | operatorsEnd declined => exact ⟨_, _, .operatorsEnd (echo.declines declined), rfl, echo⟩
  | operatorsNext taken readsOperand more _ operand _ operators =>
    have leftRight := left.trans more.rest_suffix
    rcases echo.takes taken (leftRight.trans readsOperand.rest_suffix) with
      ⟨_, _, takenAlone, _, echo⟩
    rcases operand rfl echo leftRight trivial with ⟨right, _, operandAlone, rightAlike, echo⟩
    rcases operators rfl echo left trivial with ⟨tails, _, operatorsAlone, tailsAlike, echo⟩
    refine ⟨_, _, .operatorsNext takenAlone operandAlone operatorsAlone, ?_, echo⟩
    simp only [Production.unplaced] at rightAlike tailsAlike
    simp [Production.unplaced, rightAlike, tailsAlike]

theorem Production.repeated_operand :
    Production.operand.Inherits State.Normal (RepeatedExpression lines tail) := by
  intro state value next reads parts _
  change reads.Repeats lines tail
  refine .of_unfinished fun alone unfinished echo left admits => ?_
  cases parts with
  | operandSigned taken readsOperand _ operand =>
    rcases echo.takes taken (left.trans readsOperand.rest_suffix) with
      ⟨_, _, takenAlone, _, echo⟩
    rcases operand rfl echo left trivial with ⟨inner, _, operandAlone, innerAlike, echo⟩
    refine ⟨_, _, .operandSigned takenAlone operandAlone, ?_, echo⟩
    simp only [Production.unplaced] at innerAlike
    simp [Production.unplaced, innerAlike]
  | operandPlain declined _ readsAccesses _ primary _ accesses =>
    rcases primary rfl echo (left.trans readsAccesses.rest_suffix) trivial with
      ⟨head, _, primaryAlone, headAlike, echoBetween⟩
    rcases accesses rfl echoBetween left trivial with
      ⟨tails, _, accessesAlone, tailsAlike, echoNext⟩
    refine ⟨_, _, .operandPlain (echo.declines declined) primaryAlone accessesAlone, ?_, echoNext⟩
    simp only [Production.unplaced] at headAlike tailsAlike
    simp [Production.unplaced, headAlike, tailsAlike]

theorem Production.repeated_primary :
    Production.primary.Inherits State.Normal (RepeatedExpression lines tail) := by
  intro state value next reads parts _
  change reads.Repeats lines tail
  refine .of_unfinished fun alone unfinished echo left admits => ?_
  cases parts with
  | primaryParenthesized taken readsInner closes _ inner =>
    have leftInner := left.trans closes.rest_suffix
    rcases echo.takes taken (leftInner.trans readsInner.rest_suffix) with
      ⟨_, _, takenAlone, _, echo⟩
    rcases inner rfl echo leftInner trivial with ⟨value, _, innerAlone, innerAlike, echo⟩
    rcases closes.repeats_expected echo left trivial with
      ⟨place, _, closesAlone, placeAlike, echo⟩
    refine ⟨_, _, .primaryParenthesized takenAlone innerAlone closesAlone, ?_, echo⟩
    simp only [Production.unplaced] at innerAlike placeAlike
    simp [Production.unplaced, innerAlike, placeAlike]
  | primaryLiteral taken =>
    rcases echo.takes taken left with ⟨_, _, takenAlone, same, echo⟩
    exact ⟨_, _, .primaryLiteral takenAlone, unplaced_literal same _, echo⟩
  | primaryMissing noOpening declined =>
    exact ⟨_, _, .primaryMissing (echo.declines noOpening) (echo.declines declined), rfl,
      echo.fail _⟩

theorem Production.repeated_accesses :
    Production.accesses.Inherits State.Normal (RepeatedExpression lines tail) := by
  intro state value next reads parts _
  change reads.Repeats lines tail
  refine .of_unfinished fun alone unfinished echo left admits => ?_
  cases parts with
  | accessesEnd declined => exact ⟨_, _, .accessesEnd (echo.declines declined), rfl, echo⟩
  | accessesIndex taken readsInner closes more _ inner _ _ _ accesses =>
    have leftClosing := left.trans more.rest_suffix
    have leftInner := leftClosing.trans closes.rest_suffix
    rcases echo.takes taken (leftInner.trans readsInner.rest_suffix) with
      ⟨_, _, takenAlone, _, echo⟩
    rcases inner rfl echo leftInner trivial with ⟨value, _, innerAlone, innerAlike, echo⟩
    rcases closes.repeats_expected echo leftClosing trivial with
      ⟨place, _, closesAlone, placeAlike, echo⟩
    rcases accesses rfl echo left trivial with ⟨tails, _, accessesAlone, tailsAlike, echo⟩
    refine ⟨_, _, .accessesIndex takenAlone innerAlone closesAlone accessesAlone, ?_, echo⟩
    simp only [Production.unplaced] at innerAlike placeAlike tailsAlike
    simp [Production.unplaced, innerAlike, placeAlike, tailsAlike]
  | accessesMember taken readsName more _ _ _ accesses =>
    have leftName := left.trans more.rest_suffix
    rcases echo.takes taken (leftName.trans readsName.rest_suffix) with ⟨_, _, takenAlone, _, echo⟩
    rcases readsName.repeats_directName echo leftName trivial with
      ⟨name, _, nameAlone, nameAlike, echo⟩
    rcases accesses rfl echo left trivial with ⟨tails, _, accessesAlone, tailsAlike, echo⟩
    refine ⟨_, _, .accessesMember takenAlone nameAlone accessesAlone, ?_, echo⟩
    simp only [Production.unplaced] at nameAlike tailsAlike
    simp [Production.unplaced, nameAlike, tailsAlike]
  | accessesEmptyCall taken closes more _ accesses =>
    have leftClosing := left.trans more.rest_suffix
    rcases echo.takes taken (leftClosing.trans closes.moves.rest_suffix) with
      ⟨_, _, takenAlone, _, echo⟩
    rcases echo.takes closes leftClosing with ⟨_, _, closesAlone, _, echo⟩
    rcases accesses rfl echo left trivial with ⟨tails, _, accessesAlone, tailsAlike, echo⟩
    refine ⟨_, _, .accessesEmptyCall takenAlone closesAlone accessesAlone, ?_, echo⟩
    simp only [Production.unplaced] at tailsAlike
    simp [Production.unplaced, tailsAlike]
  | accessesCall taken filled readsArguments more _ arguments _ accesses =>
    have leftArguments := left.trans more.rest_suffix
    rcases echo.takes taken (leftArguments.trans readsArguments.rest_suffix) with
      ⟨_, _, takenAlone, _, echoOpening⟩
    rcases arguments rfl echoOpening leftArguments trivial with
      ⟨⟨items, place⟩, _, argumentsAlone, itemsAlike, echo⟩
    rcases accesses rfl echo left trivial with ⟨tails, _, accessesAlone, tailsAlike, echo⟩
    refine ⟨_, _, .accessesCall takenAlone (echoOpening.isAt_eq_false filled) argumentsAlone
      accessesAlone, ?_, echo⟩
    simp only [Production.unplaced, Prod.mk.injEq] at itemsAlike tailsAlike
    simp [Production.unplaced, itemsAlike, tailsAlike]

theorem Production.repeated_arguments :
    Production.arguments.Inherits State.Normal (RepeatedExpression lines tail) := by
  intro state value next reads parts _
  change reads.Repeats lines tail
  refine .of_unfinished fun alone unfinished echo left admits => ?_
  cases parts with
  | argumentsLast _ declined closes _ argument =>
    rcases argument rfl echo (left.trans closes.rest_suffix) trivial with
      ⟨value, _, argumentAlone, argumentAlike, echo⟩
    rcases closes.repeats_expected echo left trivial with
      ⟨place, _, closesAlone, placeAlike, echoNext⟩
    refine ⟨_, _, .argumentsLast argumentAlone (echo.declines declined) closesAlone, ?_, echoNext⟩
    simp only [Production.unplaced] at argumentAlike placeAlike
    simp [Production.unplaced, argumentAlike, placeAlike]
  | argumentsTrailing _ taken closes _ argument =>
    have leftComma := left.trans closes.moves.rest_suffix
    rw [State.rest_fail] at leftComma
    rcases argument rfl echo (leftComma.trans taken.moves.rest_suffix) trivial with
      ⟨value, _, argumentAlone, argumentAlike, echo⟩
    rcases echo.takes taken leftComma with ⟨_, _, takenAlone, _, echo⟩
    rcases (echo.fail _).takes closes left with ⟨_, _, closesAlone, _, echo⟩
    refine ⟨_, _, .argumentsTrailing argumentAlone takenAlone closesAlone, ?_, echo⟩
    simp only [Production.unplaced] at argumentAlike
    simp [Production.unplaced, argumentAlike]
  | argumentsNext _ taken goesOn more _ argument _ arguments =>
    have leftComma := left.trans more.rest_suffix
    rcases argument rfl echo (leftComma.trans taken.moves.rest_suffix) trivial with
      ⟨value, _, argumentAlone, argumentAlike, echo⟩
    rcases echo.takes taken leftComma with ⟨_, _, takenAlone, _, echoComma⟩
    rcases arguments rfl echoComma left trivial with
      ⟨⟨items, place⟩, _, moreAlone, moreAlike, echo⟩
    refine ⟨_, _, .argumentsNext argumentAlone takenAlone (echoComma.isAt_eq_false goesOn)
      moreAlone, ?_, echo⟩
    simp only [Production.unplaced, Prod.mk.injEq] at argumentAlike moreAlike
    simp [Production.unplaced, argumentAlike, moreAlike]

theorem Production.inherits_repeatedExpression (production : Production) :
    production.Inherits State.Normal (RepeatedExpression lines tail) := by
  cases production with
  | operation power => exact repeated_operation power
  | operators power => exact repeated_operators power
  | operand => exact repeated_operand
  | primary => exact repeated_primary
  | accesses => exact repeated_accesses
  | arguments => exact repeated_arguments
  | optional | expected | closingBrace | terminator | identifier | directName | typeReference
  | elements | initialValue | arraySize | initializer | variableDeclaration | assignmentTail
  | condition | block | statements | statement | branch | parentClause | instanceBody
  | declarationBody | qualifier | parameter | parameters | parameterList | classItem | classItems
  | classBody | declaration | declarations =>
    exact fun _ _ _ _ _ => nofun

theorem Derivation.repeats_expression {production : Production} {state next : State}
    {value : production.Value} (reads : Reads production state value next)
    (expression : production.isExpression = true) : reads.Repeats lines tail :=
  reads.of_inherits Production.inherits_repeatedExpression expression

theorem Derivation.repeats_operation {power : Nat} {state next : State} {value : Expression}
    (reads : Reads (.operation power) state value next) : reads.Repeats lines tail :=
  reads.repeats_expression rfl

end ScriptTree.Grammar

/-! ## Elements, variables and heads -/

namespace ScriptTree.Grammar

variable {lines : Nat} {tail : List Lexeme} {state next : State}

/-! ## Values of variables -/

theorem Derivation.repeats_elements_of_eq {production : Production} {state next : State}
    {value : production.Value} (reads : Reads production state value next)
    (same : ∃ isFirst, production = .elements isFirst) : reads.Repeats lines tail := by
  induction reads with refine .of_unfinished fun alone unfinished echo left admits => ?_
  | elementsEnd ends =>
    rw [← echo.isAt_eq unfinished] at ends
    exact ⟨_, _, .elementsEnd ends, rfl, echo⟩
  | elementsMissing goesOn readsElement missing =>
    rw [← echo.isAt_eq unfinished] at goesOn
    rcases readsElement.repeats_operation echo left trivial with
      ⟨value, _, elementAlone, elementAlike, echo⟩
    simp only [Production.unplaced] at elementAlike
    rw [← Expression.isMissing_unplaced, ← elementAlike, Expression.isMissing_unplaced] at missing
    exact ⟨_, _, .elementsMissing goesOn elementAlone missing, rfl, echo⟩
  | elementsLast goesOn readsElement present declined =>
    rw [← echo.isAt_eq unfinished] at goesOn
    rcases readsElement.repeats_operation echo left trivial with
      ⟨value, _, elementAlone, elementAlike, echo⟩
    simp only [Production.unplaced] at elementAlike
    rw [← Expression.isMissing_unplaced, ← elementAlike, Expression.isMissing_unplaced] at present
    refine ⟨_, _, .elementsLast goesOn elementAlone present (echo.declines declined), ?_,
      echo⟩
    simp [Production.unplaced, elementAlike]
  | elementsNext goesOn readsElement present taken more _ elements =>
    rw [← echo.isAt_eq unfinished] at goesOn
    have leftComma := left.trans more.rest_suffix
    rcases readsElement.repeats_operation echo (leftComma.trans taken.moves.rest_suffix) trivial
      with ⟨value, _, elementAlone, elementAlike, echo⟩
    simp only [Production.unplaced] at elementAlike
    rw [← Expression.isMissing_unplaced, ← elementAlike, Expression.isMissing_unplaced] at present
    rcases echo.takes taken leftComma with ⟨_, _, takenAlone, _, echo⟩
    rcases elements ⟨_, rfl⟩ echo left ⟨fun _ => taken.normal_next, admits.2⟩ with
      ⟨⟨items, gap⟩, _, moreAlone, moreAlike, echo⟩
    refine ⟨_, _, .elementsNext goesOn elementAlone present takenAlone moreAlone, ?_, echo⟩
    simp only [Production.unplaced, Prod.mk.injEq] at moreAlike
    simp [Production.unplaced, elementAlike, moreAlike]
  | _ => rcases same with ⟨_, ⟨⟩⟩

theorem Derivation.repeats_elements {isFirst : Bool} {value : (Production.elements isFirst).Value}
    (reads : Reads (.elements isFirst) state value next) : reads.Repeats lines tail :=
  reads.repeats_elements_of_eq ⟨isFirst, rfl⟩

theorem Derivation.repeats_initialValue {value : Expression}
    (reads : Reads .initialValue state value next) : reads.Repeats lines tail := by
  cases reads with refine .of_unfinished fun alone unfinished echo left admits => ?_
  | @initialElements _ _ _ _ _ afterItems _ _ taken readsElements closes =>
    have leftItems := left.trans closes.rest_suffix
    rcases echo.takes taken (leftItems.trans readsElements.rest_suffix) with
      ⟨_, _, takenAlone, _, echo⟩
    -- A brace right after the elements is taken, so it is none of what follows.
    have stays : afterItems.rest = tail → afterItems.recovering = false →
        afterItems.isAt .rBrace = false := by
      intro ended normal
      cases found : afterItems.isAt .rBrace with
      | false => rfl
      | true =>
        have fewer := closes.fewer_expected normal found
        have longer := left.length_le
        rw [← ended] at longer
        exact absurd fewer (Nat.not_lt.mpr longer)
    rcases readsElements.repeats_elements echo leftItems ⟨nofun, stays⟩ with
      ⟨⟨items, gap⟩, _, elementsAlone, elementsAlike, echo⟩
    rcases closes.repeats_expected echo left trivial with
      ⟨place, _, closesAlone, placeAlike, echo⟩
    refine ⟨_, _, .initialElements takenAlone elementsAlone closesAlone, ?_, echo⟩
    simp only [Production.unplaced, Prod.mk.injEq] at elementsAlike placeAlike
    simp [Production.unplaced, elementsAlike, placeAlike]
  | initialExpression declined readsValue =>
    rcases readsValue.repeats_operation echo left trivial with
      ⟨value, _, valueAlone, valueAlike, echoNext⟩
    exact ⟨_, _, .initialExpression (echo.declines declined) valueAlone, valueAlike, echoNext⟩

theorem Derivation.repeats_arraySize {value : Option ArraySize}
    (reads : Reads .arraySize state value next) : reads.Repeats lines tail := by
  cases reads with refine .of_unfinished fun alone unfinished echo left admits => ?_
  | arraySizeAbsent declined => exact ⟨_, _, .arraySizeAbsent (echo.declines declined), rfl, echo⟩
  | arraySizeWritten taken readsSize closes =>
    have leftSize := left.trans closes.rest_suffix
    rcases echo.takes taken (leftSize.trans readsSize.rest_suffix) with ⟨_, _, takenAlone, _, echo⟩
    rcases readsSize.repeats_operation echo leftSize trivial with
      ⟨size, _, sizeAlone, sizeAlike, echo⟩
    rcases closes.repeats_expected echo left trivial with
      ⟨place, _, closesAlone, placeAlike, echo⟩
    refine ⟨_, _, .arraySizeWritten takenAlone sizeAlone closesAlone, ?_, echo⟩
    simp only [Production.unplaced] at sizeAlike placeAlike
    simp [Production.unplaced, ArraySize.unplaced, sizeAlike, placeAlike]

theorem Derivation.repeats_initializer {value : Option Initializer}
    (reads : Reads .initializer state value next) : reads.Repeats lines tail := by
  cases reads with refine .of_unfinished fun alone unfinished echo left admits => ?_
  | initializerAbsent declined =>
    exact ⟨_, _, .initializerAbsent (echo.declines declined), rfl, echo⟩
  | initializerWritten taken readsValue =>
    rcases echo.takes taken (left.trans readsValue.rest_suffix) with ⟨_, _, takenAlone, _, echo⟩
    rcases readsValue.repeats_initialValue echo left trivial with
      ⟨value, _, valueAlone, valueAlike, echo⟩
    refine ⟨_, _, .initializerWritten takenAlone valueAlone, ?_, echo⟩
    simp only [Production.unplaced] at valueAlike
    simp [Production.unplaced, Initializer.unplaced, valueAlike]

theorem Derivation.repeats_variableDeclaration {value : VariableDeclaration}
    (reads : Reads .variableDeclaration state value next) : reads.Repeats lines tail := by
  cases reads with refine .of_unfinished fun alone unfinished echo left admits => ?_
  | variableDeclaration taken readsType readsName readsSize readsInitializer ends =>
    have leftInitializer := left.trans ends.rest_suffix
    have leftSize := leftInitializer.trans readsInitializer.rest_suffix
    have leftName := leftSize.trans readsSize.rest_suffix
    have leftType := leftName.trans readsName.rest_suffix
    rcases echo.takes taken (leftType.trans readsType.rest_suffix) with ⟨_, _, takenAlone, _, echo⟩
    rcases readsType.repeats_typeReference echo leftType trivial with
      ⟨type, _, typeAlone, typeAlike, echo⟩
    rcases readsName.repeats_identifier echo leftName trivial with
      ⟨name, _, nameAlone, nameAlike, echo⟩
    rcases readsSize.repeats_arraySize echo leftSize trivial with
      ⟨size, _, sizeAlone, sizeAlike, echo⟩
    rcases readsInitializer.repeats_initializer echo leftInitializer trivial with
      ⟨initializer, _, initializerAlone, initializerAlike, echo⟩
    rcases ends.repeats_terminator echo left trivial with
      ⟨place, _, endsAlone, placeAlike, echo⟩
    refine ⟨_, _, .variableDeclaration takenAlone typeAlone nameAlone sizeAlone initializerAlone
      endsAlone, ?_, echo⟩
    simp only [Production.unplaced] at typeAlike nameAlike sizeAlike initializerAlike placeAlike
    simp [Production.unplaced, VariableDeclaration.unplaced, typeAlike, nameAlike, sizeAlike,
      initializerAlike, placeAlike]

/-! ## Assignments and conditions -/

theorem Derivation.repeats_assignmentTail {value : AssignmentTail}
    (reads : Reads .assignmentTail state value next) : reads.Repeats lines tail := by
  cases reads with refine .of_unfinished fun alone unfinished echo left admits => ?_
  | assignmentSigned taken readsRight ends =>
    have leftRight := left.trans ends.rest_suffix
    rcases echo.takes taken (leftRight.trans readsRight.rest_suffix) with
      ⟨_, _, takenAlone, _, echo⟩
    rcases readsRight.repeats_operation echo leftRight trivial with
      ⟨right, _, rightAlone, rightAlike, echo⟩
    rcases ends.repeats_terminator echo left trivial with ⟨place, _, endsAlone, placeAlike, echo⟩
    refine ⟨_, _, .assignmentSigned takenAlone rightAlone endsAlone, ?_, echo⟩
    simp only [Production.unplaced] at rightAlike placeAlike
    simp [Production.unplaced, rightAlike, placeAlike]
  | assignmentUnsigned declined ends =>
    rcases ends.repeats_terminator (echo.fail _) left trivial with
      ⟨place, _, endsAlone, placeAlike, echoNext⟩
    refine ⟨_, _, .assignmentUnsigned (echo.declines declined) endsAlone, ?_, echoNext⟩
    simp only [Production.unplaced] at placeAlike
    simp [Production.unplaced, placeAlike]

theorem Derivation.repeats_condition {value : Expression}
    (reads : Reads .condition state value next) : reads.Repeats lines tail := by
  cases reads with refine .of_unfinished fun alone unfinished echo left admits => ?_
  | conditionBare noOpening opens readsCondition =>
    rcases readsCondition.repeats_operation (echo.reportMissing _) left trivial with
      ⟨condition, _, conditionAlone, conditionAlike, echoNext⟩
    rw [← echo.peek_eq unfinished] at opens
    exact ⟨_, _, .conditionBare (echo.isAt_eq_false noOpening) opens conditionAlone,
      conditionAlike, echoNext⟩
  | conditionPlain plain readsCondition =>
    rcases readsCondition.repeats_operation echo left trivial with
      ⟨condition, _, conditionAlone, conditionAlike, echoNext⟩
    rw [← echo.peek_eq unfinished, ← echo.isAt_eq unfinished] at plain
    exact ⟨_, _, .conditionPlain plain conditionAlone, conditionAlike, echoNext⟩

/-! ## Parents and parameters -/

theorem Derivation.repeats_parentClause {value : Option ParentClause}
    (reads : Reads .parentClause state value next) : reads.Repeats lines tail := by
  cases reads with refine .of_unfinished fun alone unfinished echo left admits => ?_
  | parentAbsent declined => exact ⟨_, _, .parentAbsent (echo.declines declined), rfl, echo⟩
  | parentWritten taken readsName closes =>
    have leftName := left.trans closes.rest_suffix
    rcases echo.takes taken (leftName.trans readsName.rest_suffix) with ⟨_, _, takenAlone, _, echo⟩
    rcases readsName.repeats_directName echo leftName trivial with
      ⟨name, _, nameAlone, nameAlike, echo⟩
    rcases closes.repeats_expected echo left trivial with
      ⟨place, _, closesAlone, placeAlike, echo⟩
    refine ⟨_, _, .parentWritten takenAlone nameAlone closesAlone, ?_, echo⟩
    simp only [Production.unplaced] at nameAlike placeAlike
    simp [Production.unplaced, ParentClause.unplaced, nameAlike, placeAlike]

theorem Derivation.repeats_parameter {value : Parameter}
    (reads : Reads .parameter state value next) : reads.Repeats lines tail := by
  cases reads with refine .of_unfinished fun alone unfinished echo left admits => ?_
  | parameter readsQualifier readsType readsName =>
    have leftType := left.trans readsName.rest_suffix
    rcases readsQualifier.repeats_qualifier echo (leftType.trans readsType.rest_suffix) trivial with
      ⟨qualifier, _, qualifierAlone, qualifierAlike, echo⟩
    rcases readsType.repeats_typeReference echo leftType trivial with
      ⟨type, _, typeAlone, typeAlike, echo⟩
    rcases readsName.repeats_identifier echo left trivial with
      ⟨name, _, nameAlone, nameAlike, echo⟩
    refine ⟨_, _, .parameter qualifierAlone typeAlone nameAlone, ?_, echo⟩
    simp only [Production.unplaced] at qualifierAlike typeAlike nameAlike
    simp [Production.unplaced, Parameter.unplaced, qualifierAlike, typeAlike, nameAlike]

theorem Derivation.repeats_parameters_of_eq {production : Production} {state next : State}
    {value : production.Value} (reads : Reads production state value next)
    (same : production = .parameters) : reads.Repeats lines tail := by
  induction reads with refine .of_unfinished fun alone unfinished echo left admits => ?_
  | parametersLast readsItem declined closes =>
    rcases readsItem.repeats_parameter echo (left.trans closes.rest_suffix) trivial with
      ⟨item, _, itemAlone, itemAlike, echo⟩
    rcases closes.repeats_expected echo left trivial with
      ⟨place, _, closesAlone, placeAlike, echoNext⟩
    refine ⟨_, _, .parametersLast itemAlone (echo.declines declined) closesAlone, ?_, echoNext⟩
    simp only [Production.unplaced] at itemAlike placeAlike
    simp [Production.unplaced, unplacedItems, itemAlike, placeAlike]
  | parametersTrailing readsItem taken closes =>
    have leftComma := left.trans closes.moves.rest_suffix
    rw [State.rest_fail] at leftComma
    rcases readsItem.repeats_parameter echo (leftComma.trans taken.moves.rest_suffix) trivial with
      ⟨item, _, itemAlone, itemAlike, echo⟩
    rcases echo.takes taken leftComma with ⟨_, _, takenAlone, _, echo⟩
    rcases (echo.fail _).takes closes left with ⟨_, _, closesAlone, _, echo⟩
    refine ⟨_, _, .parametersTrailing itemAlone takenAlone closesAlone, ?_, echo⟩
    simp only [Production.unplaced] at itemAlike
    simp [Production.unplaced, unplacedItems, itemAlike]
  | parametersNext readsItem taken goesOn more _ parameters =>
    have leftComma := left.trans more.rest_suffix
    rcases readsItem.repeats_parameter echo (leftComma.trans taken.moves.rest_suffix) trivial with
      ⟨item, _, itemAlone, itemAlike, echo⟩
    rcases echo.takes taken leftComma with ⟨_, _, takenAlone, _, echoComma⟩
    rcases parameters rfl echoComma left trivial with
      ⟨⟨items, place⟩, _, moreAlone, moreAlike, echo⟩
    refine ⟨_, _, .parametersNext itemAlone takenAlone (echoComma.isAt_eq_false goesOn) moreAlone,
      ?_, echo⟩
    simp only [Production.unplaced, unplacedItems, Prod.mk.injEq] at itemAlike moreAlike
    simp [Production.unplaced, unplacedItems, itemAlike, moreAlike]
  | _ => cases same

theorem Derivation.repeats_parameterList {value : ParameterList}
    (reads : Reads .parameterList state value next) : reads.Repeats lines tail := by
  cases reads with refine .of_unfinished fun alone unfinished echo left admits => ?_
  | parameterListIdle recovering =>
    exact ⟨_, _, .parameterListIdle ((echo.mode unfinished).trans recovering), rfl, echo⟩
  | parameterListMissing missed =>
    exact ⟨_, _, .parameterListMissing (echo.misses unfinished missed), rfl, echo.fail _⟩
  | parameterListEmpty taken closes =>
    rcases echo.takes taken (left.trans closes.moves.rest_suffix) with ⟨_, _, takenAlone, _, echo⟩
    rcases echo.takes closes left with ⟨_, _, closesAlone, _, echo⟩
    exact ⟨_, _, .parameterListEmpty takenAlone closesAlone, rfl, echo⟩
  | parameterListFilled taken filled readsParameters =>
    rcases echo.takes taken (left.trans readsParameters.rest_suffix) with
      ⟨_, _, takenAlone, _, echo⟩
    rcases readsParameters.repeats_parameters_of_eq rfl echo left trivial with
      ⟨⟨items, place⟩, _, parametersAlone, parametersAlike, echoNext⟩
    refine ⟨_, _, .parameterListFilled takenAlone (echo.isAt_eq_false filled) parametersAlone, ?_,
      echoNext⟩
    simp only [Production.unplaced, Prod.mk.injEq] at parametersAlike
    simp [Production.unplaced, ParameterList.unplaced, parametersAlike]

end ScriptTree.Grammar
