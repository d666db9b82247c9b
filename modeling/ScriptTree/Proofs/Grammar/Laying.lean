import ScriptTree.Proofs.Grammar.Tiling

/-!
# How productions fill the way of a parse

Each production yields something that fills the way between where the parse was
before it and where it has come to, if what is read inside of it does.
-/

namespace ScriptTree.Grammar

open ScriptTree.Part

/-- What a production yields fills the way between two states.  A tail does so behind anything that
fills the way before it. -/
def Production.Laid : (production : Production) → State → State → production.Value → Prop
  | .optional sought, state, next, place | .expected sought, state, next, place =>
    Tile state.offset next.offset (Part.optional sought place)
  | .terminator, state, next, place =>
    Tile state.offset next.offset (Part.optional .semicolon place)
  | .closingBrace, state, next, place => Tile state.offset next.offset (Part.optional .rBrace place)
  | .identifier, state, next, name | .directName, state, next, name =>
    name.assembly.Laid state.offset next.offset
  | .typeReference, state, next, type => type.assembly.Laid state.offset next.offset
  | .operation _, state, next, value
  | .operand, state, next, value
  | .primary, state, next, value =>
    Rests state.offset next value
  | .operators _, state, next, tails =>
    ∀ (start : Nat) (first : Expression), Rests start state first →
      Rests start next (tails.foldl BinaryTail.onto first)
  | .accesses, state, next, tails =>
    ∀ (start : Nat) (head : Expression), Rests start state head →
      Rests start next (tails.foldl AccessTail.onto head)
  | .arguments, state, next, (items, closing) =>
    Tile state.offset next.offset
      (Expression.listParts .arguments items ++ Part.optional .rParen closing)
  | .elements _, state, next, (items, missing) =>
    Tile state.offset next.offset
      (Expression.listParts .elements items ++ (missing.map Part.gap).toList)
  | .initialValue, state, next, value | .condition, state, next, value =>
    value.assembly.Laid state.offset next.offset
  | .arraySize, state, next, value =>
    Tile state.offset next.offset (VariableDeclaration.sizeParts value)
  | .initializer, state, next, value =>
    Tile state.offset next.offset (VariableDeclaration.initializerParts value)
  | .variableDeclaration, state, next, value =>
    value.assembly.Laid state.offset next.offset ∧ state.offset < next.offset
  | .assignmentTail, state, next, tail =>
    ∀ (start : Nat) (target : Expression), target.assembly.Laid start state.offset →
      start < state.offset → (tail.onto target).assembly.Laid start next.offset
  | .block, state, next, value =>
    value.assembly.Laid state.offset next.offset ∧
      (value.isMissing = true → state.offset = next.offset)
  | .statements, state, next, items =>
    state.recovering = false → Tile state.offset next.offset (Statement.listParts items)
  | .statement, state, next, item =>
    state.recovering = false → (item = none → state.offset = next.offset) ∧
      ∀ value ∈ item, value.assembly.Laid state.offset next.offset
  | .branch, state, next, value =>
    ∀ field, Tile state.offset next.offset (value.parts field)
  | .parentClause, state, next, value =>
    Tile state.offset next.offset (InstanceDeclaration.parentParts value)
  | .instanceBody _, state, next, (body, semicolon) =>
    Tile state.offset next.offset
      ((body.map fun body => Part.child .body body.assembly).toList ++
        Part.optional .semicolon semicolon)
  | .declarationBody, state, next, (body, semicolon) =>
    Tile state.offset next.offset (body.part :: Part.optional .semicolon semicolon)
  | .qualifier, state, next, value =>
    Tile state.offset next.offset (Parameter.qualifierParts value)
  | .parameter, state, next, value => value.assembly.Laid state.offset next.offset
  | .parameters, state, next, (items, closing) =>
    Tile state.offset next.offset (ParameterList.parts items ++ Part.optional .rParen closing)
  | .parameterList, state, next, value => value.assembly.Laid state.offset next.offset
  | .classItem, state, next, item =>
    state.recovering = false → (item = none → state.offset = next.offset) ∧
      ∀ content, item = some (.member content) →
        content.assembly.Laid state.offset next.offset
  | .classItems, state, next, items =>
    state.recovering = false → Tile state.offset next.offset (items.map ClassItem.part)
  | .classBody, state, next, value => value.assembly.Laid state.offset next.offset
  | .declaration, state, next, item =>
    (item = none → state.offset = next.offset) ∧
      ∀ value ∈ item,
        value.assembly.Laid state.offset next.offset ∧ state.offset < next.offset
  | .declarations, state, next, items =>
    Tile state.offset next.offset (items.map fun item => .child .declarations item.assembly) ∧
      ∀ item ∈ items, item.range.isEmpty = false

/-- What is read from a located state is laid. -/
def Production.LaidFrom (index : LineIndex) (production : Production) (state : State)
    (value : production.Value) (next : State) : Prop :=
  state.Located index → production.Laid state next value

section

variable {index : LineIndex}

theorem Production.laid_optional (token : Token) :
    (Production.optional token).Inherits State.Normal (LaidFrom index) := by
  intro state value next reads parts located
  cases parts with
  | optionalTaken taken => exact taken.tile located
  | optionalAbsent => exact Tile.nil

theorem Production.laid_expected (token : Token) :
    (Production.expected token).Inherits State.Normal (LaidFrom index) := by
  intro state value next reads parts located
  cases parts with
  | expectedTaken taken => exact taken.tile located
  | expectedMissing =>
    simp only [Production.Laid, State.offset_fail]
    exact Tile.nil
  | expectedIdle => exact Tile.nil

theorem Production.laid_closingBrace :
    Production.closingBrace.Inherits State.Normal (LaidFrom index) := by
  intro state value next reads parts located
  cases parts with
  | closingBraceTaken taken => exact taken.tile located
  | closingBraceMissing =>
    simp only [Production.Laid, State.offset_fail]
    exact Tile.nil

theorem Production.laid_terminator :
    Production.terminator.Inherits State.Normal (LaidFrom index) := by
  intro state value next reads parts located
  cases parts with
  | terminatorTaken taken => exact taken.tile located
  | terminatorGranted | terminatorMissing =>
    simp only [Production.Laid, State.offset_fail, State.offset_reportMissing]
    exact Tile.nil
  | terminatorIdle => exact Tile.nil

theorem Production.laid_identifier :
    Production.identifier.Inherits State.Normal (LaidFrom index) := by
  intro state value next reads parts located
  cases parts with
  | identifierTaken taken => exact Assembly.laid_leaf (taken.fills located) rfl
  | identifierMissing => exact Assembly.laid_leaf (located.fills_fail _) rfl
  | identifierIdle => exact located.laid_anchor

theorem Production.laid_directName :
    Production.directName.Inherits State.Normal (LaidFrom index) := by
  intro state value next reads parts located
  cases parts with
  | nameTaken taken => exact Assembly.laid_leaf (taken.fills located) rfl
  | nameMissing => exact Assembly.laid_leaf (located.fills_fail _) rfl

theorem Production.laid_typeReference :
    Production.typeReference.Inherits State.Normal (LaidFrom index) := by
  intro state value next reads parts located
  cases parts with
  | typeTaken taken => exact Assembly.laid_leaf (taken.fills located) rfl
  | typeMissing => exact Assembly.laid_leaf (located.fills_fail _) rfl

theorem Production.laid_operation (power : Nat) :
    (Production.operation power).Inherits State.Normal (LaidFrom index) := by
  intro state value next reads parts located
  cases parts with
  | operation readsOperand _ _ operand _ operators =>
    exact operators (readsOperand.located located) _ _ (operand located)

theorem Production.laid_operators (power : Nat) :
    (Production.operators power).Inherits State.Normal (LaidFrom index) := by
  intro state value next reads parts located
  cases parts with
  | operatorsEnd => exact fun _ _ rests => rests
  | operatorsNext taken readsOperand _ _ operand _ operators =>
    intro start first rests
    have locatedSign := taken.located located
    have goesOn := Nat.lt_of_lt_of_le (Nat.lt_of_le_of_lt rests.laid.le (taken.offset_lt located))
      (readsOperand.moves.offset_le locatedSign.ordered)
    refine operators (readsOperand.located locatedSign) _ _ (.of_lt ⟨?_, goesOn⟩)
    refine Assembly.laid_chain rfl rests.laid ((taken.tile located).append
      (tile_child (operand locatedSign).laid)) (by simp [Part.child?]) fun same => ?_
    have sign := (operatorFrom?_eq_some_iff.mp taken.recognized).1
    rw [same]
    exact taken.apart_of_stranded located (rests.stranded same) (sign ▸ grantsInsertion_operator _)

theorem Production.laid_operand :
    Production.operand.Inherits State.Normal (LaidFrom index) := by
  intro state value next reads parts located
  cases parts with
  | operandSigned taken _ _ operand =>
    have locatedSign := taken.located located
    exact .of_lt (Assembly.laid_ofParts_token ((taken.tile located).append
      (tile_child (operand locatedSign).laid)) rfl)
  | operandPlain _ readsPrimary _ _ primary _ accesses =>
    exact accesses (readsPrimary.located located) _ _ (primary located)

theorem Production.laid_primary :
    Production.primary.Inherits State.Normal (LaidFrom index) := by
  intro state value next reads parts located
  cases parts with
  | primaryParenthesized taken readsInner _ _ inner _ closing =>
    have locatedOpening := taken.located located
    exact .of_lt (Assembly.laid_ofParts_token (((taken.tile located).append
      (tile_child (inner locatedOpening).laid)).append
        (closing (readsInner.located locatedOpening))) rfl)
  | @primaryLiteral _ literal _ _ taken =>
    have fits := taken.fits located.ordered
    have fills := taken.fills located
    refine .of_lt ⟨?_, taken.offset_lt located⟩
    rw [← fills.stop_eq]
    exact literal.laid_expression fits.low_le (located.wide _ taken.mem_rest)
  | primaryMissing noOpening =>
    exact ⟨located.laid_fail _ _,
      fun _ => State.stranded_fail noOpening _⟩

theorem Production.laid_accesses :
    Production.accesses.Inherits State.Normal (LaidFrom index) := by
  intro state value next reads parts located
  cases parts with
  | accessesEnd => exact fun _ _ rests => rests
  | accessesIndex taken readsInner closes _ _ inner _ closing _ accesses =>
    intro start head rests
    have locatedOpening := taken.located located
    have locatedInner := readsInner.located locatedOpening
    have goesOn := Nat.lt_of_lt_of_le (Nat.lt_of_le_of_lt rests.laid.le (taken.offset_lt located))
      (Nat.le_trans (readsInner.moves.offset_le locatedOpening.ordered)
        (closes.moves.offset_le locatedInner.ordered))
    refine accesses (closes.located locatedInner) _ _ (.of_lt ⟨?_, goesOn⟩)
    refine Assembly.laid_chain rfl rests.laid ((taken.tile located).append
      ((tile_child (inner locatedOpening).laid).append (closing locatedInner))) ?_ fun same => ?_
    · refine List.forall_mem_cons.mpr ⟨by simp, ?_⟩
      change ∀ entry ∈ (Part.optional .rBracket _).filterMap Part.child?, _
      simp
    · have opening := Access.ofToken?_eq_some_iff.mp taken.recognized
      rw [same]
      exact taken.apart_of_stranded located (rests.stranded same) (opening ▸ rfl)
  | accessesMember taken readsName _ _ name _ accesses =>
    intro start head rests
    have locatedDot := taken.located located
    have goesOn := Nat.lt_of_lt_of_le (Nat.lt_of_le_of_lt rests.laid.le (taken.offset_lt located))
      (readsName.moves.offset_le locatedDot.ordered)
    refine accesses (readsName.located locatedDot) _ _ (.of_lt ⟨?_, goesOn⟩)
    refine Assembly.laid_chain rfl rests.laid ((taken.tile located).append
      (tile_child (name locatedDot))) (by simp [Part.child?]) fun same => ?_
    have dot := Access.ofToken?_eq_some_iff.mp taken.recognized
    rw [same]
    exact taken.apart_of_stranded located (rests.stranded same) (dot ▸ rfl)
  | accessesEmptyCall taken closes _ _ accesses =>
    intro start head rests
    have locatedOpening := taken.located located
    have wide := rests.lt_of_call taken
    have goesOn := Nat.lt_trans wide
      (Nat.lt_trans (taken.offset_lt located) (closes.offset_lt locatedOpening))
    refine accesses (closes.located locatedOpening) _ _ (.of_lt ⟨?_, goesOn⟩)
    exact Expression.laid_call rests.laid wide (taken.tile located) (closes.tile locatedOpening)
  | accessesCall taken _ readsArguments _ _ arguments _ accesses =>
    intro start head rests
    have locatedOpening := taken.located located
    have wide := rests.lt_of_call taken
    have goesOn := Nat.lt_of_lt_of_le (Nat.lt_trans wide (taken.offset_lt located))
      (readsArguments.moves.offset_le locatedOpening.ordered)
    refine accesses (readsArguments.located locatedOpening) _ _ (.of_lt ⟨?_, goesOn⟩)
    exact Expression.laid_call rests.laid wide (taken.tile located) (arguments locatedOpening)

theorem Production.laid_arguments :
    Production.arguments.Inherits State.Normal (LaidFrom index) := by
  intro state value next reads parts located
  cases parts with
  | argumentsLast readsArgument _ _ _ argument _ closing =>
    exact Expression.tile_cons (argument located).laid Tile.nil
      (closing (readsArgument.located located))
  | argumentsTrailing readsArgument taken closes _ argument =>
    have locatedArgument := readsArgument.located located
    have closing : Tile _ _ [.token ⟨.rParen, _⟩] :=
      closes.tile ((taken.located locatedArgument).fail _)
    rw [State.offset_fail] at closing
    exact Expression.tile_cons (argument located).laid (taken.tile locatedArgument) closing
  | argumentsNext readsArgument taken _ _ _ argument _ arguments =>
    have locatedArgument := readsArgument.located located
    exact Expression.tile_cons (argument located).laid (taken.tile locatedArgument)
      (arguments (taken.located locatedArgument))

theorem Production.laid_elements (isFirst : Bool) :
    (Production.elements isFirst).Inherits State.Normal (LaidFrom index) := by
  intro state value next reads parts located
  cases parts with
  | elementsEnd => exact Tile.nil
  | elementsMissing _ readsElement missing _ element =>
    have stays := readsElement.offset_eq_of_missing located (element located) missing
    have fills := (readsElement.located located).fills_anchor
    rw [← stays] at fills
    rw [Production.Laid, ← stays]
    exact tile_gap fills
  | elementsLast _ _ _ _ _ element =>
    exact Expression.tile_cons (element located).laid Tile.nil Tile.nil
  | elementsNext _ readsElement _ taken _ _ element _ elements =>
    have locatedElement := readsElement.located located
    exact Expression.tile_cons (element located).laid (taken.tile locatedElement)
      (elements (taken.located locatedElement))

theorem Production.laid_initialValue :
    Production.initialValue.Inherits State.Normal (LaidFrom index) := by
  intro state value next reads parts located
  cases parts with
  | initialElements taken readsElements _ _ elements _ closing =>
    have locatedOpening := taken.located located
    exact (Assembly.laid_ofParts_token ((taken.tile located).append
      ((elements locatedOpening).append (closing (readsElements.located locatedOpening)))) rfl).1
  | initialExpression _ _ _ element => exact (element located).laid

theorem Production.laid_arraySize :
    Production.arraySize.Inherits State.Normal (LaidFrom index) := by
  intro state value next reads parts located
  cases parts with
  | arraySizeAbsent => exact Tile.nil
  | arraySizeWritten taken readsSize _ _ size _ closing =>
    have locatedOpening := taken.located located
    exact ((taken.tile located).append (tile_child (size locatedOpening).laid)).append
      (closing (readsSize.located locatedOpening))

theorem Production.laid_initializer :
    Production.initializer.Inherits State.Normal (LaidFrom index) := by
  intro state value next reads parts located
  cases parts with
  | initializerAbsent => exact Tile.nil
  | initializerWritten taken _ _ initial =>
    exact (taken.tile located).append (tile_child (initial (taken.located located)))

theorem Production.laid_variableDeclaration :
    Production.variableDeclaration.Inherits State.Normal (LaidFrom index) := by
  intro state value next reads parts located
  cases parts with
  | variableDeclaration taken readsType readsName readsSize readsInitializer _ _ type _ name _ size
    _ initializer _ terminator =>
    have locatedKeyword := taken.located located
    have locatedType := readsType.located locatedKeyword
    have locatedName := readsName.located locatedType
    have locatedSize := readsSize.located locatedName
    have locatedInitializer := readsInitializer.located locatedSize
    exact Assembly.laid_ofParts_token ((((((taken.tile located).append
      (tile_child (type locatedKeyword))).append (tile_child (name locatedType))).append
        (size locatedName)).append (initializer locatedSize)).append
          (terminator locatedInitializer)) rfl

theorem Production.laid_assignmentTail :
    Production.assignmentTail.Inherits State.Normal (LaidFrom index) := by
  intro state value next reads parts located
  cases parts with
  | assignmentSigned taken readsRight _ _ right _ terminator =>
    intro start target laid wide
    have locatedSign := taken.located located
    exact Assembly.laid_ofParts_child laid wide ((taken.tile located).append
      ((tile_child (right locatedSign).laid).append
        (terminator (readsRight.located locatedSign)))) rfl
  | assignmentUnsigned _ _ _ terminator =>
    intro start target laid wide
    have ends := terminator (located.fail _)
    simp only [Production.Laid, State.offset_fail] at ends
    exact Assembly.laid_ofParts_child laid wide
      ((tile_child located.laid_anchor).append ends) rfl

theorem Production.laid_condition :
    Production.condition.Inherits State.Normal (LaidFrom index) := by
  intro state value next reads parts located
  cases parts with
  | conditionBare _ _ _ _ inner =>
    have laid := (inner (located.reportMissing _)).laid
    rw [State.offset_reportMissing] at laid
    exact laid
  | conditionPlain _ _ _ inner => exact (inner located).laid

theorem Production.laid_block :
    Production.block.Inherits State.Normal (LaidFrom index) := by
  intro state value next reads parts located
  cases parts with
  | blockMissing =>
    refine ⟨located.laid_fail _ _, fun _ => ?_⟩
    rw [State.offset_fail]
  | blockWritten taken readsItems _ _ items _ closing =>
    have locatedOpening := taken.located located
    refine ⟨(Assembly.laid_ofParts_token ((taken.tile located).append
      ((items locatedOpening taken.normal_next).append
        (closing (readsItems.located locatedOpening)))) rfl).1, by rintro ⟨⟩⟩

theorem Production.laid_statements :
    Production.statements.Inherits State.Normal (LaidFrom index) := by
  intro state value next reads parts located
  cases parts with
  | statementsEnd => exact fun _ => Tile.nil
  | statementsNext _ readsItem resumes _ _ item _ more =>
    intro normal
    have locatedItem := readsItem.located located
    have first := tile_toList (fun statement => .child .statements statement.assembly)
      (item located normal).1 fun value member => tile_child ((item located normal).2 value member)
    have rest := more (resumes.located locatedItem) resumes.normal
    rw [Statement.listParts_eq_map] at rest ⊢
    rw [List.map_append, List.map_append, Option.toList_map, List.map_map]
    exact (first.append (resumes.tile locatedItem .statements)).append rest

theorem Production.laid_statement :
    Production.statement.Inherits State.Normal (LaidFrom index) := by
  intro state value next reads parts located
  cases parts with
  | statementIf taken readsCondition _ _ _ condition _ consequence =>
    refine fun _ => ⟨by simp, ?_⟩
    rintro _ ⟨⟩
    have locatedKeyword := taken.located located
    exact (Assembly.laid_ofParts_token ((((taken.tile located).append
      (tile_child (condition locatedKeyword))).append
        (consequence (readsCondition.located locatedKeyword) .consequence)).append Tile.nil) rfl).1
  | statementIfElse taken readsCondition readsConsequence otherwise _ _ condition _ consequence _
    alternative =>
    refine fun _ => ⟨by simp, ?_⟩
    rintro _ ⟨⟩
    have locatedKeyword := taken.located located
    have locatedCondition := readsCondition.located locatedKeyword
    have locatedConsequence := readsConsequence.located locatedCondition
    exact (Assembly.laid_ofParts_token ((((taken.tile located).append
      (tile_child (condition locatedKeyword))).append
        (consequence locatedCondition .consequence)).append
          ((otherwise.tile locatedConsequence).append
            (alternative (otherwise.located locatedConsequence) .alternative))) rfl).1
  | statementReturn taken _ _ _ terminator =>
    refine fun _ => ⟨by simp, ?_⟩
    rintro _ ⟨⟩
    exact (Assembly.laid_ofParts_token ((taken.tile located).append
      (terminator (taken.located located))) rfl).1
  | statementReturnValue taken _ readsValue _ _ result _ terminator =>
    refine fun _ => ⟨by simp, ?_⟩
    rintro _ ⟨⟩
    have locatedKeyword := taken.located located
    exact (Assembly.laid_ofParts_token ((taken.tile located).append
      ((tile_child (result locatedKeyword).laid).append
        (terminator (readsValue.located locatedKeyword)))) rfl).1
  | statementVariable _ _ declaration =>
    refine fun _ => ⟨by simp, ?_⟩
    rintro _ ⟨⟩
    exact (declaration located).1
  | statementBlock _ _ _ block =>
    refine fun _ => ⟨by simp, ?_⟩
    rintro _ ⟨⟩
    exact (block located).1
  | statementExpression opens readsExpression _ _ _ expression _ terminator =>
    refine fun normal => ⟨by simp, ?_⟩
    rintro _ ⟨⟩
    have wide := readsExpression.moves.offset_lt located
      (readsExpression.length_rest_lt normal opens)
    exact Assembly.laid_ofParts_child (expression located).laid wide
      (terminator (readsExpression.located located)) rfl
  | statementAssignment opens readsTarget _ _ _ target _ tail =>
    refine fun normal => ⟨by simp, ?_⟩
    rintro _ ⟨⟩
    have wide := readsTarget.moves.offset_lt located (readsTarget.length_rest_lt normal opens)
    have onto := tail ((readsTarget.located located).checkTarget _)
    rw [Production.Laid, State.offset_checkTarget] at onto
    exact onto _ _ (target located).laid wide
  | statementAbsent | statementRejected => exact fun _ => ⟨fun _ => by simp, by simp⟩

theorem Production.laid_branch :
    Production.branch.Inherits State.Normal (LaidFrom index) := by
  intro state value next reads parts located
  cases parts with
  | branchRecovering => exact fun _ => tile_standIn located.laid_anchor
  | branchBlock _ _ readsBlock _ _ block _ semicolon =>
    exact fun _ => (tile_child (block located).1).append (semicolon (readsBlock.located located))
  | branchStatement normal _ _ _ statement =>
    exact fun _ => tile_child ((statement located normal).2 _ rfl)
  | branchMissing normal _ readsStatement _ statement =>
    intro field
    have stays := (statement located normal).1 rfl
    have fills := (readsStatement.located located).fills_anchor
    rw [stays]
    exact tile_standIn (Assembly.laid_standIn fills rfl)

theorem Production.laid_parentClause :
    Production.parentClause.Inherits State.Normal (LaidFrom index) := by
  intro state value next reads parts located
  cases parts with
  | parentAbsent => exact Tile.nil
  | parentWritten taken readsName _ _ name _ closing =>
    have locatedOpening := taken.located located
    exact ((taken.tile located).append (tile_child (name locatedOpening))).append
      (closing (readsName.located locatedOpening))

theorem Production.laid_instanceBody (hasParent : Bool) :
    (Production.instanceBody hasParent).Inherits State.Normal (LaidFrom index) := by
  intro state value next reads parts located
  cases parts with
  | instanceIdle => exact Tile.nil
  | instanceBlock _ _ readsBody _ _ body _ semicolon =>
    exact (tile_child (body located).1).append (semicolon (readsBody.located located))
  | @instanceForward hasParent state _ _ taken =>
    cases hasParent with
    | true => exact taken.tile located
    | false =>
      change Takes (state.reportMissing .lParen) _ _ _ _ at taken
      have tile : Tile _ _ [.token ⟨.semicolon, _⟩] :=
        taken.tile (located.reportMissing .lParen)
      rw [State.offset_reportMissing] at tile
      exact tile
  | instanceBare =>
    rw [Production.Laid, State.offset_fail]
    exact Tile.nil

theorem Production.laid_declarationBody :
    Production.declarationBody.Inherits State.Normal (LaidFrom index) := by
  intro state value next reads parts located
  cases parts with
  | bodyIdle => exact Block.tile_part located.laid_anchor fun _ => rfl
  | bodyMissing _ _ _ _ body => exact Block.tile_part (body located).1 (body located).2
  | bodyWritten _ readsBody _ _ _ body _ semicolon =>
    exact (Block.tile_part (body located).1 (body located).2).append
      (semicolon (readsBody.located located))

theorem Production.laid_qualifier :
    Production.qualifier.Inherits State.Normal (LaidFrom index) := by
  intro state value next reads parts located
  cases parts with
  | qualifierAbsent => exact Tile.nil
  | qualifierWritten taken => exact taken.tile located

theorem Production.laid_parameter :
    Production.parameter.Inherits State.Normal (LaidFrom index) := by
  intro state value next reads parts located
  cases parts with
  | parameter readsQualifier readsType readsName _ qualifier _ type _ name =>
    have locatedQualifier := readsQualifier.located located
    have locatedType := readsType.located locatedQualifier
    refine Assembly.laid_ofParts ((qualifier located).append
      ((tile_child (type locatedQualifier)).append (tile_child (name locatedType))))
        (by simp [Part.range?]) ?_ rfl
    cases readsQualifier with
    | qualifierWritten taken =>
      rintro _ ⟨⟩ empty
      rw [(taken.fills located).isEmpty_eq_false (taken.offset_lt located)] at empty
      cases empty
    | qualifierAbsent =>
      rintro _ ⟨⟩ empty
      have stays := (type located).fills.isEmpty_iff.mp empty
      exact stays.trans (readsName.offset_eq_after_type readsType located stays)

theorem Production.laid_parameters :
    Production.parameters.Inherits State.Normal (LaidFrom index) := by
  intro state value next reads parts located
  cases parts with
  | parametersLast readsItem _ _ _ item _ closing =>
    exact ParameterList.tile_cons (item located) Tile.nil (closing (readsItem.located located))
  | parametersTrailing readsItem taken closes _ item =>
    have locatedItem := readsItem.located located
    have closing : Tile _ _ [.token ⟨.rParen, _⟩] :=
      closes.tile ((taken.located locatedItem).fail _)
    rw [State.offset_fail] at closing
    exact ParameterList.tile_cons (item located) (taken.tile locatedItem) closing
  | parametersNext readsItem taken _ _ _ item _ parameters =>
    have locatedItem := readsItem.located located
    exact ParameterList.tile_cons (item located) (taken.tile locatedItem)
      (parameters (taken.located locatedItem))

theorem Production.laid_parameterList :
    Production.parameterList.Inherits State.Normal (LaidFrom index) := by
  intro state value next reads parts located
  cases parts with
  | parameterListIdle => exact located.laid_anchor
  | parameterListMissing => exact located.laid_fail _ _
  | parameterListEmpty taken closes =>
    exact (Assembly.laid_ofParts_token ((taken.tile located).append
      (closes.tile (taken.located located))) rfl).1
  | parameterListFilled taken _ _ _ parameters =>
    exact (Assembly.laid_ofParts_token ((taken.tile located).append
      (parameters (taken.located located))) rfl).1

theorem Production.laid_classItem :
    Production.classItem.Inherits State.Normal (LaidFrom index) := by
  intro state value next reads parts located
  cases parts with
  | classVariable _ _ declaration =>
    refine fun _ => ⟨by simp, ?_⟩
    rintro _ ⟨⟩
    exact (declaration located).1
  | classAbandoned => exact fun _ => ⟨by simp, by simp⟩
  | classAssignment opens readsTarget _ _ _ target _ tail =>
    refine fun normal => ⟨by simp, ?_⟩
    rintro _ ⟨⟩
    have starts := State.startsExpression_of_isAt opens
    have wide := readsTarget.moves.offset_lt located
      (readsTarget.length_rest_lt normal starts)
    have onto := tail ((readsTarget.located located).checkTarget _)
    rw [Production.Laid, State.offset_checkTarget] at onto
    exact onto _ _ (target located).laid wide
  | classRejected => exact fun _ => ⟨fun _ => by simp, by simp⟩

theorem Production.laid_classItems :
    Production.classItems.Inherits State.Normal (LaidFrom index) := by
  intro state value next reads parts located
  cases parts with
  | classItemsEnd => exact fun _ => Tile.nil
  | @classItemsNext _ item _ _ _ _ _ _ readsItem resumes readsMore _ laidItem _ more =>
    intro normal
    have locatedItem := readsItem.located located
    have rest := more (resumes.located locatedItem) resumes.normal
    rw [List.map_append, List.map_append, List.append_assoc, Option.toList_map, List.map_map]
    have after := (resumes.tile locatedItem .members).append rest
    rcases laidItem located normal with ⟨absent, member⟩
    cases item with
    | none =>
      rw [absent rfl]
      exact after
    | some item =>
      cases item with
      | member content => exact (tile_child (member content rfl)).append after
      | abandoned target =>
        have onward := readsItem.moves.offset_le located.ordered
        have fewer := readsItem.fewer_after_abandoned normal resumes readsMore
        have moves : Moves _ _ := resumes.moves.trans readsMore.moves
        exact .abandoned onward (moves.offset_lt locatedItem fewer) after

theorem Production.laid_classBody :
    Production.classBody.Inherits State.Normal (LaidFrom index) := by
  intro state value next reads parts located
  cases parts with
  | classBodyMissing => exact located.laid_fail _ _
  | classBodyWritten taken readsItems _ _ items _ closing =>
    have locatedOpening := taken.located located
    exact (Assembly.laid_ofParts_token ((taken.tile located).append
      ((items locatedOpening taken.normal_next).append
        (closing (readsItems.located locatedOpening)))) rfl).1

theorem Production.laid_declaration :
    Production.declaration.Inherits State.Normal (LaidFrom index) := by
  intro state value next reads parts located
  cases parts with
  | declarationInstance taken readsName readsParent _ _ name _ parent _ body =>
    refine ⟨by simp, ?_⟩
    rintro _ ⟨⟩
    have locatedKeyword := taken.located located
    have locatedName := readsName.located locatedKeyword
    rw [Declaration.assembly, InstanceDeclaration.assembly, List.append_assoc]
    exact Assembly.laid_ofParts_token ((((taken.tile located).append
      (tile_child (name locatedKeyword))).append (parent locatedName)).append
        (body (readsParent.located locatedName))) rfl
  | declarationPrototype taken readsName opens readsParent closes _ _ name _ opening _ parent _
    closing _ body =>
    refine ⟨by simp, ?_⟩
    rintro _ ⟨⟩
    have locatedKeyword := taken.located located
    have locatedName := readsName.located locatedKeyword
    have locatedOpening := opens.located locatedName
    have locatedParent := readsParent.located locatedOpening
    exact Assembly.laid_ofParts_token ((((taken.tile located).append
      (tile_child (name locatedKeyword))).append (opening locatedName)).append
        ((tile_child (parent locatedOpening)).append
          ((closing locatedParent).append (body (closes.located locatedParent))))) rfl
  | declarationFunction taken readsType readsName readsParameters _ _ type _ name _ parameters _
    body =>
    refine ⟨by simp, ?_⟩
    rintro _ ⟨⟩
    have locatedKeyword := taken.located located
    have locatedType := readsType.located locatedKeyword
    have locatedName := readsName.located locatedType
    exact Assembly.laid_ofParts_token ((taken.tile located).append
      ((tile_child (type locatedKeyword)).append ((tile_child (name locatedType)).append
        ((tile_child (parameters locatedName)).append
          (body (readsParameters.located locatedName)))))) rfl
  | declarationNamelessClass taken readsName _ _ name =>
    refine ⟨by simp, ?_⟩
    rintro _ ⟨⟩
    have locatedKeyword := taken.located located
    exact Assembly.laid_ofParts_token ((taken.tile located).append
      ((tile_child (name locatedKeyword)).append
        (tile_child (readsName.located locatedKeyword).laid_anchor))) rfl
  | declarationUnfinishedClass taken readsName _ _ _ _ name _ body =>
    refine ⟨by simp, ?_⟩
    rintro _ ⟨⟩
    have locatedKeyword := taken.located located
    exact Assembly.laid_ofParts_token ((taken.tile located).append
      ((tile_child (name locatedKeyword)).append
        (tile_child (body (readsName.located locatedKeyword))))) rfl
  | declarationClass taken readsName _ readsBody _ _ _ name _ body _ semicolon =>
    refine ⟨by simp, ?_⟩
    rintro _ ⟨⟩
    have locatedKeyword := taken.located located
    have locatedName := readsName.located locatedKeyword
    exact Assembly.laid_ofParts_token ((taken.tile located).append
      ((tile_child (name locatedKeyword)).append ((tile_child (body locatedName)).append
        (semicolon (readsBody.located locatedName))))) rfl
  | declarationVariable _ _ declaration =>
    refine ⟨by simp, ?_⟩
    rintro _ ⟨⟩
    exact declaration located
  | declarationRejected => exact ⟨fun _ => by simp, by simp⟩

theorem Production.laid_declarations :
    Production.declarations.Inherits State.Normal (LaidFrom index) := by
  intro state value next reads parts located
  cases parts with
  | declarationsEnd => exact ⟨Tile.nil, by simp⟩
  | @declarationsNext _ item _ skipped _ _ _ _ readsItem resumes _ _ first _ more =>
    have locatedItem := readsItem.located located
    rcases first located with ⟨absent, present⟩
    rcases more (resumes.located locatedItem) with ⟨rest, filled⟩
    have head := tile_toList (fun item => .child .declarations item.assembly) absent
      fun value member => tile_child (present value member).1
    constructor
    · rw [List.map_append, List.map_append, Option.toList_map, List.map_map]
      exact (head.append (resumes.tile locatedItem .declarations)).append rest
    · intro value member
      rw [List.mem_append, List.mem_append, Option.mem_toList, Option.mem_toList] at member
      rcases member with (here | error) | later
      · rcases present value here with ⟨laid, wide⟩
        exact laid.fills.isEmpty_eq_false wide
      · rcases Option.map_eq_some_iff.mp error with ⟨node, found, rfl⟩
        rcases (resumes.laid locatedItem).2 node found with ⟨laid, wide⟩
        exact laid.fills.isEmpty_eq_false wide
      · exact filled value later

/-- What any production reads is laid if its parts are. -/
theorem Production.inherits_laidFrom (production : Production) :
    production.Inherits State.Normal (LaidFrom index) := by
  cases production with
  | optional token => exact laid_optional token
  | expected token => exact laid_expected token
  | closingBrace => exact laid_closingBrace
  | terminator => exact laid_terminator
  | identifier => exact laid_identifier
  | directName => exact laid_directName
  | typeReference => exact laid_typeReference
  | operation power => exact laid_operation power
  | operators power => exact laid_operators power
  | operand => exact laid_operand
  | primary => exact laid_primary
  | accesses => exact laid_accesses
  | arguments => exact laid_arguments
  | elements isFirst => exact laid_elements isFirst
  | initialValue => exact laid_initialValue
  | arraySize => exact laid_arraySize
  | initializer => exact laid_initializer
  | variableDeclaration => exact laid_variableDeclaration
  | assignmentTail => exact laid_assignmentTail
  | condition => exact laid_condition
  | block => exact laid_block
  | statements => exact laid_statements
  | statement => exact laid_statement
  | branch => exact laid_branch
  | parentClause => exact laid_parentClause
  | instanceBody hasParent => exact laid_instanceBody hasParent
  | declarationBody => exact laid_declarationBody
  | qualifier => exact laid_qualifier
  | parameter => exact laid_parameter
  | parameters => exact laid_parameters
  | parameterList => exact laid_parameterList
  | classItem => exact laid_classItem
  | classItems => exact laid_classItems
  | classBody => exact laid_classBody
  | declaration => exact laid_declaration
  | declarations => exact laid_declarations

/-- Whatever a production yields fills the way between where the parse was and where it has come
to. -/
theorem Derivation.laid {production : Production} {state next : State} {value : production.Value}
    (reads : Reads production state value next) (located : state.Located index) :
    production.Laid state next value :=
  reads.of_inherits Production.inherits_laidFrom located

end

end ScriptTree.Grammar
