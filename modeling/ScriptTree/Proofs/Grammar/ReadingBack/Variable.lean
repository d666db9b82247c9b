import ScriptTree.Proofs.Grammar.ReadingBack.Expression

/-!
# Reading variables and assignments back

The brackets and the value of a variable are optional, and each of them starts
with a token of its own.  Where one is not written, the next token starts
something else, so nothing is taken in its place.
-/

namespace ScriptTree

open Grammar Slot

namespace Expression

@[simp]
theorem isAssignable_unplaced (expression : Expression) :
    expression.unplaced.isAssignable = expression.isAssignable := by
  cases expression <;>
    (rw [unplaced]
     rfl)

theorem isMissing_of_isComplete {expression : Expression}
    (complete : expression.isComplete = true) : expression.isMissing = false := by
  cases expression with
  | error => simp [isComplete] at complete
  | _ => rfl

end Expression

namespace Grammar

open Expression

variable {state : State} {lexemes tail : List Lexeme}

/-! ## Array initializers -/

/-- Elements are read back up to the closing brace. -/
theorem readsBack_elements (isFirst : Bool) {items : List (Expression × Option Range)}
    {closing : Option Range} {beyond : List Lexeme} (nonempty : isFirst = true → items ≠ [])
    (complete : areComplete items = true) (grouped : areGrouped items = true)
    (faces : state.Faces lexemes) (spells : Spells (listSlots items) lexemes tail)
    (closes : Spells (required .rBrace closing) tail beyond) :
    ReadsBack (.elements isFirst) state
      (fun found => listUnplaced found.1 = listUnplaced items ∧ found.2 = none) tail := by
  induction items generalizing isFirst state lexemes with
  | nil =>
    rw [listSlots] at spells
    cases spells_nil.mp spells
    cases isFirst with
    | true => exact absurd rfl (nonempty rfl)
    | false =>
      have ends : state.isAt .rBrace = true := faces.isAt_eq_true closes rfl
      exact ⟨([], none), state, .elementsEnd ends, ⟨rfl, rfl⟩, faces⟩
  | cons item rest ih =>
    rcases item with ⟨expression, place⟩
    rw [areComplete, Bool.and_eq_true, Bool.and_eq_true] at complete
    rw [areGrouped, Bool.and_eq_true] at grouped
    rw [listSlots] at spells
    rcases spells_append.mp spells with ⟨afterComma, spellsItem, spellsRest⟩
    rcases spells_append.mp spellsItem with ⟨afterItem, spellsFront, spellsComma⟩
    rcases exists_firstToken? complete.1.1 with ⟨token, found, opens, -⟩
    have goesOn : (!isFirst && state.isAt .rBrace) = false := by
      rw [faces.isAt_eq_false spellsFront found (ne_of_startsExpression opens rfl),
        Bool.and_false]
    cases place with
    | none =>
      have last : rest = [] := by simpa using complete.1.2
      subst last
      cases spells_nil.mp spellsComma
      rw [listSlots] at spellsRest
      cases spells_nil.mp spellsRest
      rcases (isReadBack_of_isComplete expression complete.1.1 grouped.1).whole faces spellsFront
          (endsExpression_of_required closes rfl rfl)
        with ⟨value, next, readsValue, alike, facesNext⟩
      have present : value.isMissing = false := by
        rw [← isMissing_unplaced, alike, isMissing_unplaced]
        exact isMissing_of_isComplete complete.1.1
      have noComma : Declines next (State.only .comma) :=
        facesNext.declines (closes.avoids rfl rfl)
      refine ⟨([(value, none)], none), next, .elementsLast goesOn readsValue present noComma,
        ⟨?_, rfl⟩, facesNext⟩
      show listUnplaced [(value, none)] = listUnplaced [(expression, none)]
      simp only [listUnplaced, alike]
    | some range =>
      rw [comma_some] at spellsComma
      rcases (isReadBack_of_isComplete expression complete.1.1 grouped.1).whole faces spellsFront
          (endsExpression_of_required spellsComma rfl rfl)
        with ⟨value, between, readsValue, alike, facesComma⟩
      have present : value.isMissing = false := by
        rw [← isMissing_unplaced, alike, isMissing_unplaced]
        exact isMissing_of_isComplete complete.1.1
      rcases facesComma.takes_only spellsComma with ⟨lexeme, afterTaken, taken, -, facesRest⟩
      rcases ih false nofun complete.2 grouped.2 facesRest spellsRest
        with ⟨⟨more, gap⟩, next, readsMore, ⟨alikeMore, noGap⟩, facesNext⟩
      refine ⟨((value, some lexeme.range) :: more, gap), next,
        .elementsNext goesOn readsValue present taken readsMore, ⟨?_, noGap⟩, facesNext⟩
      show listUnplaced ((value, some lexeme.range) :: more) =
        listUnplaced ((expression, some range) :: rest)
      rw [listUnplaced, listUnplaced, alike, alikeMore, unplaced?_some, unplaced?_some]

theorem readsBack_initialValue {value : Expression} (complete : value.isCompleteValue = true)
    (grouped : value.isGrouped = true) (faces : state.Faces lexemes)
    (spells : Spells value.slots lexemes tail) (ends : EndsExpression tail) :
    ReadsBack .initialValue state (fun found => found.unplaced = value.unplaced) tail := by
  by_cases plain : value.isComplete = true
  · rcases exists_firstToken? plain with ⟨token, found, opens, -⟩
    have noBrace : Declines state (State.only .lBrace) :=
      faces.declines (spells.avoids found (only_eq_none (ne_of_startsExpression opens rfl)))
    rcases (isReadBack_of_isComplete value plain grouped).whole faces spells ends
      with ⟨read, next, readsValue, alike, facesNext⟩
    exact ⟨read, next, .initialExpression noBrace readsValue, alike, facesNext⟩
  · cases value with
    | arrayInitializer opening elements gap closing =>
      rw [isCompleteValue_arrayInitializer] at complete
      simp only [isGrouped, Bool.and_eq_true, Bool.not_eq_true', List.isEmpty_eq_false_iff,
        Option.isNone_iff_eq_none] at complete grouped
      rcases complete with ⟨⟨⟨nonempty, completeItems⟩, noGap⟩, closed⟩
      rw [slots] at spells
      rcases spells_append.mp spells with ⟨beforeClosing, spellsFront, spellsClosing⟩
      rcases spells_append.mp spellsFront with ⟨afterOpening, spellsOpening, spellsItems⟩
      rcases faces.takes_only spellsOpening with ⟨lexeme, between, taken, -, facesItems⟩
      rcases readsBack_elements true (fun _ => nonempty) completeItems grouped facesItems
        spellsItems
          spellsClosing
        with ⟨⟨items, _⟩, afterItems, readsItems, ⟨alike, rfl⟩, facesClosing⟩
      rcases readsBack_expected facesClosing spellsClosing closed
        with ⟨place, next, closes, alikeClosing, facesNext⟩
      refine ⟨_, next, .initialElements taken readsItems closes, ?_, facesNext⟩
      show (arrayInitializer lexeme.range items none place).unplaced = _
      rw [unplaced, unplaced, alike, alikeClosing, noGap]
    | _ => exact absurd complete plain

/-! ## Variables -/

theorem readsBack_arraySize {size : Option ArraySize}
    (complete : size.all ArraySize.isComplete = true)
    (grouped : (size.all fun size => size.size.isGrouped) = true) (faces : state.Faces lexemes)
    (spells : Spells (size.elim [] ArraySize.slots) lexemes tail)
    (avoids : Avoids (State.only .lBracket) tail) :
    ReadsBack .arraySize state
      (fun found => found.map ArraySize.unplaced = size.map ArraySize.unplaced) tail := by
  cases size with
  | none =>
    cases spells_nil.mp spells
    exact ⟨none, state, .arraySizeAbsent (faces.declines avoids), rfl, faces⟩
  | some size =>
    simp only [Option.all_some, ArraySize.isComplete, Bool.and_eq_true] at complete grouped
    rw [Option.elim_some, ArraySize.slots] at spells
    rcases spells_append.mp spells with ⟨beforeClosing, spellsFront, spellsClosing⟩
    rcases spells_append.mp spellsFront with ⟨afterOpening, spellsOpening, spellsSize⟩
    rcases faces.takes_only spellsOpening with ⟨lexeme, between, taken, -, facesSize⟩
    rcases (isReadBack_of_isComplete size.size complete.1 grouped).whole facesSize spellsSize
        (endsExpression_of_required spellsClosing rfl rfl)
      with ⟨value, afterSize, readsSize, alike, facesClosing⟩
    rcases readsBack_expected facesClosing spellsClosing complete.2
      with ⟨place, next, closes, alikeClosing, facesNext⟩
    refine ⟨_, next, .arraySizeWritten taken readsSize closes, ?_, facesNext⟩
    simp only [Option.map_some, ArraySize.unplaced, alike, alikeClosing]

theorem readsBack_initializer {initializer : Option Initializer}
    (complete : (initializer.all fun initializer => initializer.value.isCompleteValue) = true)
    (grouped : (initializer.all fun initializer => initializer.value.isGrouped) = true)
    (faces : state.Faces lexemes)
    (spells : Spells (initializer.elim [] Initializer.slots) lexemes tail)
    (avoids : Avoids (State.only .assign) tail) (ends : EndsExpression tail) :
    ReadsBack .initializer state
      (fun found => found.map Initializer.unplaced = initializer.map Initializer.unplaced)
      tail := by
  cases initializer with
  | none =>
    cases spells_nil.mp spells
    exact ⟨none, state, .initializerAbsent (faces.declines avoids), rfl, faces⟩
  | some initializer =>
    rw [Option.all_some] at complete grouped
    rw [Option.elim_some, Initializer.slots] at spells
    rcases spells_append.mp spells with ⟨afterSign, spellsSign, spellsValue⟩
    rcases faces.takes_only spellsSign with ⟨lexeme, between, taken, -, facesValue⟩
    rcases readsBack_initialValue complete grouped facesValue spellsValue ends
      with ⟨value, next, readsValue, alike, facesNext⟩
    refine ⟨_, next, .initializerWritten taken readsValue, ?_, facesNext⟩
    simp only [Option.map_some, Initializer.unplaced, alike]

/-- The brackets and the value of a variable stand in front of a semicolon, if they stand there
at all. -/
theorem avoids_initializer {α : Type} {recognize : Token → Option α}
    {initializer : Option Initializer} {terminator : Option Range} {between : List Lexeme}
    (spells : Spells (initializer.elim [] Initializer.slots) lexemes between)
    (ends : Spells (required .semicolon terminator) between tail)
    (noSign : recognize .assign = none) (noSemicolon : recognize .semicolon = none) :
    Avoids recognize lexemes := by
  cases initializer with
  | none =>
    cases spells_nil.mp spells
    exact ends.avoids rfl noSemicolon
  | some initializer =>
    rw [Option.elim_some, Initializer.slots] at spells
    exact spells.avoids (firstToken?_required_append ..) noSign

theorem readsBack_variableDeclaration {declaration : VariableDeclaration}
    (complete : declaration.isComplete = true) (grouped : declaration.isGrouped = true)
    (faces : state.Faces lexemes) (spells : Spells declaration.slots lexemes tail) :
    ReadsBack .variableDeclaration state
      (fun found => found.unplaced = declaration.unplaced) tail := by
  rw [VariableDeclaration.slots] at spells
  simp only [VariableDeclaration.isComplete, VariableDeclaration.isGrouped, Bool.and_eq_true]
    at complete grouped
  rcases complete with ⟨⟨⟨⟨completeType, -⟩, completeSize⟩, completeInitializer⟩, ended⟩
  rcases spells_append.mp spells with ⟨beforeEnd, spellsFront, spellsEnd⟩
  rcases spells_append.mp spellsFront with ⟨afterSize, spellsFront, spellsInitializer⟩
  rcases spells_append.mp spellsFront with ⟨afterName, spellsFront, spellsSize⟩
  rcases spells_append.mp spellsFront with ⟨afterType, spellsFront, spellsName⟩
  rcases spells_append.mp spellsFront with ⟨afterKeyword, spellsKeyword, spellsType⟩
  rcases faces.takes_required spellsKeyword (VariableKind.ofToken?_eq_some_iff.mpr rfl)
    with ⟨lexeme, facingType, taken, -, facesType⟩
  rcases readsBack_typeReference facesType spellsType completeType
    with ⟨type, facingName, readsType, alikeType, facesName⟩
  rcases readsBack_identifier facesName spellsName
    with ⟨name, facingSize, readsName, alikeName, facesSize⟩
  rcases readsBack_arraySize completeSize grouped.1 facesSize spellsSize
      (avoids_initializer spellsInitializer spellsEnd rfl rfl)
    with ⟨size, facingInitializer, readsSize, alikeSize, facesInitializer⟩
  rcases readsBack_initializer completeInitializer grouped.2 facesInitializer spellsInitializer
      (spellsEnd.avoids rfl rfl) (endsExpression_of_required spellsEnd rfl rfl)
    with ⟨initializer, facingEnd, readsInitializer, alikeInitializer, facesEnd⟩
  rcases readsBack_terminator facesEnd spellsEnd ended
    with ⟨terminator, next, ends, alikeEnd, facesNext⟩
  refine ⟨_, next,
    .variableDeclaration taken readsType readsName readsSize readsInitializer ends, ?_, facesNext⟩
  simp only [VariableDeclaration.unplaced, alikeType, alikeName, alikeSize, alikeInitializer,
    alikeEnd]

/-! ## Assignments -/

/-- A target and the tail of an assignment are read, and together they are like the assignment. -/
def ReadsBackAssignment (state : State) (assignment : AssignmentStatement)
    (tail : List Lexeme) : Prop :=
  ∃ target between rest next, Reads (.operation lowestPower) state target between ∧
    between.recovering = false ∧ between.peek.any Token.isAssignmentOperator = true ∧
    Reads .assignmentTail (between.checkTarget target) rest next ∧
    (rest.onto target).unplaced = assignment.unplaced ∧ next.Faces tail

theorem readsBack_assignment {assignment : AssignmentStatement}
    (complete : assignment.isComplete = true) (grouped : assignment.isGrouped = true)
    (faces : state.Faces lexemes) (spells : Spells assignment.slots lexemes tail) :
    ReadsBackAssignment state assignment tail := by
  rw [AssignmentStatement.slots] at spells
  simp only [AssignmentStatement.isComplete, AssignmentStatement.isGrouped, Bool.and_eq_true]
    at complete grouped
  rcases complete with ⟨⟨⟨⟨completeLeft, assignable⟩, signed⟩, completeRight⟩, ended⟩
  rcases spells_append.mp spells with ⟨beforeEnd, spellsFront, spellsEnd⟩
  rcases spells_append.mp spellsFront with ⟨afterSign, spellsFront, spellsRight⟩
  rcases spells_append.mp spellsFront with ⟨beforeSign, spellsLeft, spellsSign⟩
  have endsLeft : EndsExpression beforeSign :=
    endsExpression_of_required spellsSign (by cases assignment.operator <;> rfl)
      (by cases assignment.operator <;> rfl)
  rcases (isReadBack_of_isComplete assignment.left completeLeft grouped.1).whole faces spellsLeft
    endsLeft
    with ⟨target, between, readsLeft, alikeLeft, facesSign⟩
  have accepted : between.checkTarget target = between := by
    have found : target.isAssignable = true := by
      rw [← isAssignable_unplaced, alikeLeft, isAssignable_unplaced, assignable]
    rw [State.checkTarget, isAcceptableTarget, found, Bool.true_or, if_pos rfl]
  have atSign : between.peek.any Token.isAssignmentOperator = true := by
    rw [facesSign.any_peek spellsSign rfl]
    cases assignment.operator <;> rfl
  rcases facesSign.takes_required spellsSign (AssignmentOperator.ofToken?_eq_some_iff.mpr rfl)
    with ⟨lexeme, facingRight, taken, -, facesRight⟩
  rcases (isReadBack_of_isComplete assignment.right completeRight grouped.2).whole facesRight
    spellsRight
      (endsExpression_of_required spellsEnd rfl rfl)
    with ⟨right, facingEnd, readsRight, alikeRight, facesEnd⟩
  rcases readsBack_terminator facesEnd spellsEnd ended
    with ⟨terminator, next, ends, alikeEnd, facesNext⟩
  refine ⟨target, between, ⟨assignment.operator, some lexeme.range, right, terminator⟩, next,
    readsLeft, facesSign.clean.normal, atSign, ?_, ?_, facesNext⟩
  · rw [accepted]
    exact .assignmentSigned taken readsRight ends
  · simp only [AssignmentTail.onto, AssignmentStatement.unplaced, alikeLeft, alikeRight, alikeEnd,
      unplaced?_some, unplaced?_of_isSome signed]

end Grammar

end ScriptTree
