import ScriptTree.Proofs.Grammar.Alone.Variable

/-!
# Statements read alone

Where statements end in front of a lexeme that they do not take, they end at the
end of the lexemes too.  An element of a list is begun only while lexemes are
left, and a skip that stays in front of other lexemes stays inside of its own.
-/

namespace ScriptTree.Grammar

variable {lines : Nat} {tail : List Lexeme} {state next alone : State}

/-- A list ends alone where it ends in the whole. -/
theorem Echo.endsList_eq (echo : Echo lines tail state alone) (unfinished : alone.rest ≠ []) :
    endsList alone = endsList state := by
  rw [endsList, endsList, echo.peek_eq unfinished]

theorem Echo.attends_eq_false (echo : Echo lines tail state alone) {test : Token → Bool}
    (absent : (!state.recovering && state.peek.any test) = false) :
    (!alone.recovering && alone.peek.any test) = false := by
  by_cases ended : alone.rest = []
  · simp [State.peek, ended]
  · rw [echo.mode ended, echo.peek_eq ended, absent]

/-! ## Statements with a keyword or a target -/

section

variable {keyword : Lexeme} {afterKeyword : State}

/-- An `if` without an `else` is read alone if its branch is. -/
theorem Derivation.repeats_if {condition : Expression} {consequence : Branch}
    {afterCondition : State}
    (taken : Takes state (State.only .kwIf) () keyword afterKeyword)
    (readsCondition : Reads .condition afterKeyword condition afterCondition)
    (readsConsequence : Reads .branch afterCondition consequence next)
    (noElse : Declines next (State.only .kwElse))
    (repeatsConsequence : readsConsequence.Repeats lines tail) :
    Repeats lines tail (.statementIf taken readsCondition readsConsequence noElse) := by
  refine .of_unfinished fun alone unfinished echo left admits => ?_
  have leftCondition := left.trans readsConsequence.rest_suffix
  rcases echo.takes taken (leftCondition.trans readsCondition.rest_suffix) with
    ⟨_, _, takenAlone, _, echo⟩
  rcases readsCondition.repeats_condition echo leftCondition trivial with
    ⟨condition, _, conditionAlone, conditionAlike, echo⟩
  rcases repeatsConsequence echo left trivial with
    ⟨branch, _, consequenceAlone, consequenceAlike, echo⟩
  refine ⟨_, _, .statementIf takenAlone conditionAlone consequenceAlone (echo.declines noElse),
    ?_, echo⟩
  simp only [Production.unplaced] at conditionAlike consequenceAlike
  simp [Production.unplaced, conditionAlike, consequenceAlike]

/-- An `if` with an `else` is read alone if both of its branches are. -/
theorem Derivation.repeats_ifElse {condition : Expression} {consequence alternative : Branch}
    {elseKeyword : Lexeme} {afterCondition afterConsequence afterElse : State}
    (taken : Takes state (State.only .kwIf) () keyword afterKeyword)
    (readsCondition : Reads .condition afterKeyword condition afterCondition)
    (readsConsequence : Reads .branch afterCondition consequence afterConsequence)
    (otherwise : Takes afterConsequence (State.only .kwElse) () elseKeyword afterElse)
    (readsAlternative : Reads .branch afterElse alternative next)
    (repeatsConsequence : readsConsequence.Repeats lines tail)
    (repeatsAlternative : readsAlternative.Repeats lines tail) :
    Repeats lines tail
      (.statementIfElse taken readsCondition readsConsequence otherwise readsAlternative) := by
  refine .of_unfinished fun alone unfinished echo left admits => ?_
  have leftElse := left.trans readsAlternative.rest_suffix
  have leftConsequence := leftElse.trans otherwise.moves.rest_suffix
  have leftCondition := leftConsequence.trans readsConsequence.rest_suffix
  rcases echo.takes taken (leftCondition.trans readsCondition.rest_suffix) with
    ⟨_, _, takenAlone, _, echo⟩
  rcases readsCondition.repeats_condition echo leftCondition trivial with
    ⟨condition, _, conditionAlone, conditionAlike, echo⟩
  rcases repeatsConsequence echo leftConsequence trivial with
    ⟨branch, _, consequenceAlone, consequenceAlike, echo⟩
  rcases echo.takes otherwise leftElse with ⟨_, _, otherwiseAlone, _, echo⟩
  rcases repeatsAlternative echo left trivial with
    ⟨other, _, alternativeAlone, alternativeAlike, echo⟩
  refine ⟨_, _, .statementIfElse takenAlone conditionAlone consequenceAlone otherwiseAlone
    alternativeAlone, ?_, echo⟩
  simp only [Production.unplaced] at conditionAlike consequenceAlike alternativeAlike
  simp [Production.unplaced, conditionAlike, consequenceAlike, alternativeAlike]

/-- A `return` without a value is read alone as well. -/
theorem Derivation.repeats_return {terminator : Option Range}
    (taken : Takes state (State.only .kwReturn) () keyword afterKeyword)
    (bare : afterKeyword.peek.any startsExpression = false)
    (ends : Reads .terminator afterKeyword terminator next) :
    Repeats lines tail (.statementReturn taken bare ends) := by
  refine .of_unfinished fun alone unfinished echo left admits => ?_
  rcases echo.takes taken (left.trans ends.rest_suffix) with ⟨_, _, takenAlone, _, echoKeyword⟩
  rcases ends.repeats_terminator echoKeyword left trivial with
    ⟨place, _, endsAlone, placeAlike, echo⟩
  refine ⟨_, _, .statementReturn takenAlone (echoKeyword.any_peek_eq_false bare) endsAlone, ?_,
    echo⟩
  simp only [Production.unplaced] at placeAlike
  simp [Production.unplaced, ReturnStatement.unplaced, placeAlike]

/-- A `return` with its value is read alone as well. -/
theorem Derivation.repeats_returnValue {value : Expression} {terminator : Option Range}
    {afterValue : State} (taken : Takes state (State.only .kwReturn) () keyword afterKeyword)
    (opens : afterKeyword.peek.any startsExpression = true)
    (readsValue : Reads (.operation lowestPower) afterKeyword value afterValue)
    (ends : Reads .terminator afterValue terminator next) :
    Repeats lines tail (.statementReturnValue taken opens readsValue ends) := by
  refine .of_unfinished fun alone unfinished echo left admits => ?_
  have leftValue := left.trans ends.rest_suffix
  rcases echo.takes taken (leftValue.trans readsValue.rest_suffix) with
    ⟨_, _, takenAlone, _, echoKeyword⟩
  -- The value takes a lexeme, so there is one left where it starts.
  have unfinishedValue := echoKeyword.unfinished leftValue
    (readsValue.length_rest_lt taken.normal_next opens)
  rcases readsValue.repeats_operation echoKeyword leftValue trivial with
    ⟨result, _, valueAlone, valueAlike, echoValue⟩
  rcases ends.repeats_terminator echoValue left trivial with
    ⟨place, _, endsAlone, placeAlike, echo⟩
  rw [← echoKeyword.peek_eq unfinishedValue] at opens
  refine ⟨_, _, .statementReturnValue takenAlone opens valueAlone endsAlone, ?_, echo⟩
  simp only [Production.unplaced] at valueAlike placeAlike
  simp [Production.unplaced, ReturnStatement.unplaced, valueAlike, placeAlike]

/-- An assignment is read alone as well. -/
theorem Derivation.repeats_assignment {target : Expression} {afterTarget : State}
    {assigned : AssignmentTail} (opens : state.peek.any startsExpression = true)
    (readsTarget : Reads (.operation lowestPower) state target afterTarget)
    (signed : (!afterTarget.recovering && afterTarget.peek.any Token.isAssignmentOperator) = true)
    (readsTail : Reads .assignmentTail (afterTarget.checkTarget target) assigned next) :
    Repeats lines tail (.statementAssignment opens readsTarget signed readsTail) := by
  refine .of_unfinished fun alone unfinished echo left admits => ?_
  have leftTarget := left.trans readsTail.rest_suffix
  rw [State.rest_checkTarget] at leftTarget
  rcases readsTarget.repeats_operation echo leftTarget trivial with
    ⟨target, _, targetAlone, targetAlike, echoTarget⟩
  rcases readsTail.repeats_assignmentTail (echoTarget.checkTarget _ target) left trivial with
    ⟨rest, _, tailAlone, tailAlike, echoNext⟩
  have unfinishedTail := echoTarget.unfinished left (readsTail.fewer_assignmentTail signed)
  rw [← echo.peek_eq unfinished] at opens
  rw [← echoTarget.mode unfinishedTail, ← echoTarget.peek_eq unfinishedTail] at signed
  refine ⟨_, _, .statementAssignment opens targetAlone signed tailAlone, ?_, echoNext⟩
  simp only [Production.unplaced] at targetAlike tailAlike
  simp [Production.unplaced, AssignmentTail.unplaced_onto, targetAlike, -AssignmentTail.unplaced,
    tailAlike]

end

/-! ## All statements -/

/-- What reads statements is read alone too. -/
def Production.RepeatedStatement (lines : Nat) (tail : List Lexeme) (production : Production)
    (state : State) (value : production.Value) (next : State) : Prop :=
  production.isStatement = true →
    production.Repeated lines tail state value next

theorem Production.repeated_block :
    Production.block.Inherits State.Normal (RepeatedStatement lines tail) := by
  intro state value next reads parts _
  change reads.Repeats lines tail
  refine .of_unfinished fun alone unfinished echo left admits => ?_
  cases parts with
  | blockMissing declined => exact ⟨_, _, .blockMissing (echo.declines declined), rfl, echo.fail _⟩
  | blockWritten taken readsItems closes _ items =>
    have leftItems := left.trans closes.rest_suffix
    rcases echo.takes taken (leftItems.trans readsItems.rest_suffix) with
      ⟨_, _, takenAlone, _, echo⟩
    rcases items rfl echo leftItems taken.normal_next with
      ⟨statements, _, itemsAlone, itemsAlike, echo⟩
    rcases closes.repeats_closingBrace echo left trivial with
      ⟨place, _, closesAlone, placeAlike, echo⟩
    refine ⟨_, _, .blockWritten takenAlone itemsAlone closesAlone, ?_, echo⟩
    simp only [Production.unplaced] at itemsAlike placeAlike
    simp [Production.unplaced, itemsAlike, placeAlike]

theorem Production.repeated_statements :
    Production.statements.Inherits State.Normal (RepeatedStatement lines tail) := by
  intro state value next reads parts _
  change reads.Repeats lines tail
  refine .of_unfinished fun alone unfinished echo left admits => ?_
  cases parts with
  | statementsEnd ends =>
    rw [← echo.endsList_eq unfinished] at ends
    exact ⟨_, _, .statementsEnd ends, rfl, echo⟩
  | statementsNext goesOn readsItem resumes readsMore _ item _ more =>
    have leftResumed := left.trans readsMore.rest_suffix
    rw [← echo.endsList_eq unfinished] at goesOn
    rcases item rfl echo (leftResumed.trans resumes.moves.rest_suffix) admits with
      ⟨first, _, itemAlone, itemAlike, echoItem⟩
    rcases echo.resumes echoItem resumes leftResumed with
      ⟨node, _, resumesAlone, nodeAlike, echoResumed⟩
    rcases more rfl echoResumed left resumes.normal with
      ⟨statements, _, moreAlone, moreAlike, echoNext⟩
    refine ⟨_, _, .statementsNext goesOn itemAlone resumesAlone moreAlone, ?_, echoNext⟩
    simp only [Production.unplaced, Statement.listUnplaced_eq] at itemAlike moreAlike ⊢
    refine map_resumed ?_ ?_ itemAlike nodeAlike moreAlike <;>
      exact fun node => by rw [Statement.unplaced]

theorem Production.repeated_statement :
    Production.statement.Inherits State.Normal (RepeatedStatement lines tail) := by
  intro state value next reads parts _
  change reads.Repeats lines tail
  cases parts with
  | statementIf taken readsCondition readsConsequence noElse _ _ _ consequence =>
    exact Derivation.repeats_if taken readsCondition readsConsequence noElse (consequence rfl)
  | statementIfElse taken readsCondition readsConsequence otherwise readsAlternative _ _ _
    consequence _ alternative =>
    exact Derivation.repeats_ifElse taken readsCondition readsConsequence otherwise readsAlternative
      (consequence rfl) (alternative rfl)
  | statementReturn taken bare ends => exact Derivation.repeats_return taken bare ends
  | statementReturnValue taken opens readsValue ends =>
    exact Derivation.repeats_returnValue taken opens readsValue ends
  | statementAssignment opens readsTarget signed readsTail =>
    exact Derivation.repeats_assignment opens readsTarget signed readsTail
  | statementVariable readsDeclaration =>
    refine .of_unfinished fun alone unfinished echo left admits => ?_
    rcases readsDeclaration.repeats_variableDeclaration echo left trivial with
      ⟨declaration, _, declarationAlone, declarationAlike, echo⟩
    refine ⟨_, _, .statementVariable declarationAlone, ?_, echo⟩
    simp only [Production.unplaced] at declarationAlike
    simp [Production.unplaced, declarationAlike]
  | statementBlock opens _ _ block =>
    refine .of_unfinished fun alone unfinished echo left admits => ?_
    rcases block rfl echo left trivial with ⟨inner, _, blockAlone, blockAlike, echoNext⟩
    rw [← echo.isAt_eq unfinished] at opens
    refine ⟨_, _, .statementBlock opens blockAlone, ?_, echoNext⟩
    simp only [Production.unplaced] at blockAlike
    simp [Production.unplaced, blockAlike]
  | statementExpression opens readsExpression unsigned ends =>
    refine .of_unfinished fun alone unfinished echo left admits => ?_
    rcases readsExpression.repeats_operation echo (left.trans ends.rest_suffix) trivial with
      ⟨expression, _, expressionAlone, expressionAlike, echoExpression⟩
    rcases ends.repeats_terminator echoExpression left trivial with
      ⟨place, _, endsAlone, placeAlike, echoNext⟩
    rw [← echo.peek_eq unfinished] at opens
    refine ⟨_, _, .statementExpression opens expressionAlone
      (echoExpression.attends_eq_false unsigned) endsAlone, ?_, echoNext⟩
    simp only [Production.unplaced] at expressionAlike placeAlike
    simp [Production.unplaced, ExpressionStatement.unplaced, expressionAlike, placeAlike]
  | statementAbsent empty =>
    refine .of_unfinished fun alone unfinished echo left admits => ?_
    rcases echo.exists_first unfinished with ⟨_, _, _, _, whole, _⟩
    rw [empty] at whole
    cases whole
  | statementRejected nonempty noIf noReturn noKind noBlock noExpression =>
    refine .of_unfinished fun alone unfinished echo left admits => ?_
    exact ⟨_, _, .statementRejected unfinished (echo.declines noIf) (echo.declines noReturn)
      (echo.declines noKind) (echo.isAt_eq_false noBlock) (echo.any_peek_eq_false noExpression),
      rfl, echo.reject _⟩

theorem Production.repeated_branch :
    Production.branch.Inherits State.Normal (RepeatedStatement lines tail) := by
  intro state value next reads parts _
  change reads.Repeats lines tail
  refine .of_unfinished fun alone unfinished echo left admits => ?_
  cases parts with
  | branchRecovering recovering =>
    exact ⟨_, _, .branchRecovering ((echo.mode unfinished).trans recovering), rfl, echo⟩
  | branchBlock normal opens readsBlock readsSemicolon _ block =>
    rcases block rfl echo (left.trans readsSemicolon.rest_suffix) trivial with
      ⟨inner, _, blockAlone, blockAlike, echoBlock⟩
    rcases readsSemicolon.repeats_optional echoBlock left trivial with
      ⟨place, _, semicolonAlone, placeAlike, echoNext⟩
    rw [← echo.isAt_eq unfinished] at opens
    refine ⟨_, _, .branchBlock ((echo.mode unfinished).trans normal) opens blockAlone
      semicolonAlone, ?_, echoNext⟩
    simp only [Production.unplaced] at blockAlike placeAlike
    simp [Production.unplaced, blockAlike, placeAlike]
  | branchStatement normal plain _ _ statement =>
    rcases statement rfl echo left normal with
      ⟨inner, _, statementAlone, statementAlike, echoNext⟩
    cases inner with
    | none => cases statementAlike
    | some inner =>
      refine ⟨_, _, .branchStatement ((echo.mode unfinished).trans normal)
        (echo.isAt_eq_false plain) statementAlone, ?_, echoNext⟩
      simp only [Production.unplaced, Option.map_some, Option.some.injEq] at statementAlike
      simp [Production.unplaced, statementAlike]
  | branchMissing normal plain _ _ statement =>
    rcases statement rfl echo left normal with
      ⟨inner, _, statementAlone, statementAlike, echoNext⟩
    cases inner with
    | none =>
      exact ⟨_, _, .branchMissing ((echo.mode unfinished).trans normal)
        (echo.isAt_eq_false plain) statementAlone, rfl, echoNext⟩
    | some => cases statementAlike

theorem Production.inherits_repeatedStatement (production : Production) :
    production.Inherits State.Normal (RepeatedStatement lines tail) := by
  cases production with
  | block => exact repeated_block
  | statements => exact repeated_statements
  | statement => exact repeated_statement
  | branch => exact repeated_branch
  | optional | expected | closingBrace | terminator | identifier | directName | typeReference
  | operation | operators | operand | primary | accesses | arguments | elements | initialValue
  | arraySize | initializer | variableDeclaration | assignmentTail | condition | parentClause
  | instanceBody | declarationBody | qualifier | parameter | parameters | parameterList
  | classItem | classItems | classBody | declaration | declarations =>
    exact fun _ _ _ _ _ => nofun

theorem Derivation.repeats_statement {production : Production} {value : production.Value}
    (reads : Reads production state value next) (within : production.isStatement = true) :
    reads.Repeats lines tail :=
  reads.of_inherits Production.inherits_repeatedStatement within

end ScriptTree.Grammar
