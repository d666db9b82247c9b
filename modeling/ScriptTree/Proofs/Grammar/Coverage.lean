import ScriptTree.Proofs.Grammar.Conservation
import ScriptTree.Proofs.Grammar.Phrase
import ScriptTree.Proofs.Node.Stretch

/-!
# What productions cover

Each node that a production yields covers the tokens that it took, and no more.
What is missing stands at the end of the token before it, in an empty range.
-/

namespace ScriptTree.Grammar

open Slot ScriptTree.Part

/-- No lexeme of a state is empty, and what is missing there gets an empty range. -/
structure State.Settled (state : State) : Prop where
  spelled : state.Spelled
  anchored : state.anchor.isEmpty = true

theorem Move.anchored {state next : State} (move : Move state next)
    (before : state.anchor.isEmpty = true) : next.anchor.isEmpty = true := by
  cases move with
  | take => exact Range.isEmpty_emptyAt ..
  | report => rwa [State.anchor_report]
  | fail => rwa [State.anchor_fail]
  | reject => rwa [State.anchor_reject]
  | rejectTarget => exact before
  | @passOver skipped =>
    simp only [State.passOver]
    cases skipped.getLast? with
    | none => exact before
    | some last => exact Range.isEmpty_emptyAt ..

/-- A parse stays settled in all its moves. -/
theorem Moves.settled {state next : State} (moves : Moves state next) (before : state.Settled) :
    next.Settled where
  spelled := moves.spelled before.spelled
  anchored := moves.keeps (motive := fun state => state.anchor.isEmpty = true)
    (fun move => move.anchored) before.anchored

theorem Taking.settled {α : Type} {state next : State} {recognize : Token → Option α} {value : α}
    {lexeme : Lexeme} (taken : Takes state recognize value lexeme next)
    (before : state.Settled) : next.Settled :=
  taken.moves.settled before

theorem Derivation.settled {production : Production} {state next : State} {value : production.Value}
    (reads : Reads production state value next) (before : state.Settled) : next.Settled :=
  reads.moves.settled before

theorem Resumes.settled {level : SyncLevel} {start state next : State}
    {skipped : Option ErrorNode} (resumes : Resumes level start state skipped next)
    (before : state.Settled) : next.Settled :=
  resumes.moves.settled before

theorem State.settled_reportMissing {state : State} (settled : state.Settled) (token : Token) :
    (state.reportMissing token).Settled :=
  (moves_reportMissing state token).settled settled

theorem State.settled_checkTarget {state : State} (settled : state.Settled)
    (target : Expression) : (state.checkTarget target).Settled :=
  (moves_checkTarget state target).settled settled

/-- What expressions and statements cover, and what the parts of lists stretch over. -/
def Production.Covers : (production : Production) → production.Value → Prop
  | .operation _, value | .operand, value | .primary, value => value.range.Covers value.slots
  | .operators _, tails =>
    ∀ first : Expression, first.range.Covers first.slots →
      (tails.foldl BinaryTail.onto first).range.Covers (tails.foldl BinaryTail.onto first).slots
  | .accesses, tails =>
    ∀ head : Expression, head.range.Covers head.slots →
      (tails.foldl AccessTail.onto head).range.Covers (tails.foldl AccessTail.onto head).slots
  | .arguments, (items, _) =>
    Spells (Expression.listParts .arguments items) (Expression.listSlots items)
  | .elements _, (items, missing) =>
    Spells (Expression.listParts .elements items) (Expression.listSlots items) ∧
      ∀ range ∈ missing, range.isEmpty = true
  | .parameters, (items, _) => Spells (ParameterList.parts items) (ParameterList.itemSlots items)
  | .block, value => value.toNode.range.Covers value.slots
  | .statements, items => Spells (Statement.listParts items) (Statement.listSlots items)
  | .statement, item => ∀ value ∈ item, value.toNode.range.Covers value.slots
  | .branch, value => ∀ field, Spells (value.parts field) value.slots
  | .classItems, items => Continues (items.map ClassItem.part) (items.flatMap ClassItem.slots)
  | _, _ => True

/-! ## Single tokens -/

section

variable {state next : State} {lexeme : Lexeme}

/-- A single token is placed by a single slot. -/
theorem Taking.placed_eq {α : Type} {recognize : Token → Option α} {value : α} {slots : List Slot}
    (taken : Takes state recognize value lexeme next)
    (placed : state.placed = Slot.placed slots ++ next.placed) :
    Slot.placed slots = [⟨lexeme.token, lexeme.range⟩] := by
  rw [taken.placed, ← List.singleton_append] at placed
  exact (List.append_cancel_right placed).symm

/-- A literal covers its token. -/
theorem Taking.covers_literal {literal : Literal}
    (taken : Takes state Literal.ofToken? literal lexeme next) (settled : state.Settled) :
    (literal.expression lexeme).range.Covers (literal.expression lexeme).slots := by
  have placed := taken.placed_eq (taken.placed_literal (settled.spelled _ taken.mem_rest))
  cases literal <;> exact Range.covers_token placed

theorem Derivation.covers_identifier {value : Identifier}
    (reads : Reads .identifier state value next)
    (settled : state.Settled) : value.range.Covers value.slots := by
  have placed := reads.placed settled.spelled
  cases reads with
  | identifierTaken taken => exact Range.covers_token (taken.placed_eq placed)
  | identifierMissing | identifierIdle => exact Range.covers_of_isEmpty settled.anchored rfl

theorem Derivation.covers_directName {value : Identifier}
    (reads : Reads .directName state value next) (settled : state.Settled) :
    value.range.Covers value.slots := by
  have placed := reads.placed settled.spelled
  cases reads with
  | nameTaken taken => exact Range.covers_token (taken.placed_eq placed)
  | nameMissing => exact Range.covers_of_isEmpty settled.anchored rfl

theorem Derivation.covers_typeReference {value : TypeReference}
    (reads : Reads .typeReference state value next) (settled : state.Settled) :
    value.range.Covers value.slots := by
  have placed := reads.placed settled.spelled
  cases reads with
  | typeTaken taken => exact Range.covers_token (taken.placed_eq placed)
  | typeMissing => exact Range.covers_of_isEmpty settled.anchored rfl

end

/-! ## Lists -/

theorem Resumes.covers {level : SyncLevel} {start state next : State} {node : ErrorNode}
    {skipped : Option ErrorNode} (resumes : Resumes level start state skipped next)
    (member : node ∈ skipped) : node.range.Covers node.slots := by
  cases resumes with
  | onward => cases member
  | synchronized => exact ErrorNode.covers_ofTokens? member
  | skippedOne =>
    cases member
    exact Range.covers_token (ErrorNode.placed_slots _)

/-! ## Expressions -/

/-- What is read of an expression covers its slots. -/
theorem Derivation.covers_expression {production : Production} {state next : State}
    {value : production.Value} (reads : Reads production state value next)
    (expression : production.isExpression = true) (settled : state.Settled) :
    production.Covers value := by
  induction reads with
  | operation readsOperand _ operand operators =>
    exact operators rfl (readsOperand.settled settled) _ (operand rfl settled)
  | operatorsEnd => exact fun _ covers => covers
  | operatorsNext taken readsOperand _ operand operators =>
    intro first covers
    have right := operand rfl (taken.settled settled)
    apply operators rfl (readsOperand.settled (taken.settled settled))
    exact Assembly.covers_ofParts
      (((spells_child covers).append (spells_token _ _)).append (spells_child right))
  | operandSigned taken _ operand =>
    exact Assembly.covers_ofParts
      ((spells_token _ _).append (spells_child (operand rfl (taken.settled settled))))
  | operandPlain _ readsPrimary _ primary accesses =>
    exact accesses rfl (readsPrimary.settled settled) _ (primary rfl settled)
  | primaryParenthesized taken _ _ inner =>
    exact Assembly.covers_ofParts
      (((spells_token _ _).append (spells_child (inner rfl (taken.settled settled)))).append
        (spells_optional _ _))
  | primaryLiteral taken => exact taken.covers_literal settled
  | primaryMissing => exact Expression.covers_missing settled.anchored
  | accessesEnd => exact fun _ covers => covers
  | accessesIndex taken readsInner closes _ inner _ accesses =>
    intro head covers
    have settledOpening := taken.settled settled
    apply accesses rfl (closes.settled (readsInner.settled settledOpening))
    exact Assembly.covers_ofParts
      ((((spells_child covers).append (spells_token _ _)).append
        (spells_child (inner rfl settledOpening))).append (spells_optional _ _))
  | accessesMember taken readsName _ _ accesses =>
    intro head covers
    have settledDot := taken.settled settled
    apply accesses rfl (readsName.settled settledDot)
    exact Assembly.covers_ofParts
      (((spells_child covers).append (spells_token _ _)).append
        (spells_leaf (readsName.covers_directName settledDot)))
  | accessesEmptyCall taken closes _ accesses =>
    intro head covers
    apply accesses rfl (closes.settled (taken.settled settled))
    exact Expression.covers_call covers spells_nil
  | accessesCall taken _ readsArguments _ arguments accesses =>
    intro head covers
    have settledOpening := taken.settled settled
    apply accesses rfl (readsArguments.settled settledOpening)
    exact Expression.covers_call covers (arguments rfl settledOpening)
  | argumentsLast _ _ _ argument | argumentsTrailing _ _ _ argument =>
    exact Expression.spells_cons (argument rfl settled) spells_nil
  | argumentsNext readsArgument taken _ _ argument arguments =>
    exact Expression.spells_cons (argument rfl settled)
      (arguments rfl (taken.settled (readsArgument.settled settled)))
  | _ => cases expression

theorem Derivation.covers_operation {power : Nat} {state next : State} {value : Expression}
    (reads : Reads (.operation power) state value next) (settled : state.Settled) :
    value.range.Covers value.slots :=
  reads.covers_expression rfl settled

theorem Derivation.covers_elements {production : Production} {state next : State}
    {value : production.Value} (reads : Reads production state value next)
    (same : ∃ isFirst, production = .elements isFirst) (settled : state.Settled) :
    production.Covers value := by
  induction reads with
  | elementsEnd => exact ⟨spells_nil, nofun⟩
  | elementsMissing _ readsElement =>
    refine ⟨spells_nil, ?_⟩
    rintro _ ⟨⟩
    exact (readsElement.settled settled).anchored
  | elementsLast _ readsElement =>
    exact ⟨Expression.spells_cons (readsElement.covers_operation settled) spells_nil, nofun⟩
  | elementsNext _ readsElement _ taken _ _ elements =>
    rcases elements ⟨_, rfl⟩ (taken.settled (readsElement.settled settled)) with
      ⟨spelled, empty⟩
    exact ⟨Expression.spells_cons (readsElement.covers_operation settled) spelled, empty⟩
  | _ => rcases same with ⟨_, ⟨⟩⟩

/-! ## Variables, assignments and heads -/

section

variable {state next : State}

theorem Derivation.covers_initialValue {value : Expression}
    (reads : Reads .initialValue state value next) (settled : state.Settled) :
    value.range.Covers value.slots := by
  cases reads with
  | initialElements taken readsElements =>
    rcases readsElements.covers_elements ⟨_, rfl⟩ (taken.settled settled) with ⟨spelled, empty⟩
    exact Assembly.covers_ofParts (((spells_token _ _).append
      ((spelled.append (spells_gap empty)).append (spells_optional _ _))).of_placed_eq (by
        simp [Expression.slots]))
  | initialExpression _ readsValue => exact readsValue.covers_operation settled

theorem Derivation.spells_arraySize {value : Option ArraySize}
    (reads : Reads .arraySize state value next) (settled : state.Settled) :
    Spells (VariableDeclaration.sizeParts value) (value.elim [] ArraySize.slots) := by
  cases reads with
  | arraySizeAbsent => exact spells_nil
  | arraySizeWritten taken readsSize =>
    exact ((spells_token _ _).append
      (spells_child (readsSize.covers_operation (taken.settled settled)))).append
        (spells_optional _ _)

theorem Derivation.spells_initializer {value : Option Initializer}
    (reads : Reads .initializer state value next) (settled : state.Settled) :
    Spells (VariableDeclaration.initializerParts value) (value.elim [] Initializer.slots) := by
  cases reads with
  | initializerAbsent => exact spells_nil
  | initializerWritten taken readsValue =>
    exact (spells_token _ _).append
      (spells_child (readsValue.covers_initialValue (taken.settled settled)))

theorem Derivation.covers_variableDeclaration {value : VariableDeclaration}
    (reads : Reads .variableDeclaration state value next) (settled : state.Settled) :
    value.toNode.range.Covers value.slots := by
  cases reads with
  | variableDeclaration taken readsType readsName readsSize readsInitializer =>
    have settledKeyword := taken.settled settled
    have settledType := readsType.settled settledKeyword
    have settledName := readsName.settled settledType
    exact Assembly.covers_ofParts ((((((spells_token _ _).append
      (spells_leaf (readsType.covers_typeReference settledKeyword))).append
        (spells_leaf (readsName.covers_identifier settledType))).append
          (readsSize.spells_arraySize settledName)).append
            (readsInitializer.spells_initializer (readsSize.settled settledName))).append
              (spells_optional _ _))

theorem Derivation.covers_assignmentTail {value : AssignmentTail} {left : Expression}
    (reads : Reads .assignmentTail state value next) (settled : state.Settled)
    (covers : left.range.Covers left.slots) :
    (value.onto left).toNode.range.Covers (value.onto left).slots := by
  cases reads with
  | assignmentSigned taken readsRight =>
    exact Assembly.covers_ofParts ((((spells_child covers).append (spells_optional _ _)).append
      (spells_child (readsRight.covers_operation (taken.settled settled)))).append
        (spells_optional _ _))
  | assignmentUnsigned =>
    exact Assembly.covers_ofParts ((((spells_child covers).append (spells_optional _ _)).append
      (spells_child (Expression.covers_missing settled.anchored))).append (spells_optional _ _))

theorem Derivation.covers_condition {value : Expression} (reads : Reads .condition state value next)
    (settled : state.Settled) : value.range.Covers value.slots := by
  cases reads with
  | conditionBare _ _ readsCondition =>
    exact readsCondition.covers_operation (State.settled_reportMissing settled _)
  | conditionPlain _ readsCondition => exact readsCondition.covers_operation settled

theorem Derivation.spells_parentClause {value : Option ParentClause}
    (reads : Reads .parentClause state value next) (settled : state.Settled) :
    Spells (InstanceDeclaration.parentParts value) (value.elim [] ParentClause.slots) := by
  cases reads with
  | parentAbsent => exact spells_nil
  | parentWritten taken readsName =>
    exact ((spells_token _ _).append
      (spells_leaf (readsName.covers_directName (taken.settled settled)))).append
        (spells_optional _ _)

theorem Derivation.covers_parameter {value : Parameter} (reads : Reads .parameter state value next)
    (settled : state.Settled) : value.assembly.node.range.Covers value.slots := by
  cases reads with
  | parameter readsQualifier readsType readsName =>
    have settledQualifier := readsQualifier.settled settled
    have settledType := readsType.settled settledQualifier
    exact Assembly.covers_ofParts (((Parameter.spells_qualifier _).append
      ((spells_leaf (readsType.covers_typeReference settledQualifier)).append
        (spells_leaf (readsName.covers_identifier settledType)))).of_placed_eq (by simp))

end

theorem Derivation.covers_parameters {production : Production} {state next : State}
    {value : production.Value} (reads : Reads production state value next)
    (same : production = .parameters) (settled : state.Settled) : production.Covers value := by
  induction reads with
  | parametersLast readsItem | parametersTrailing readsItem =>
    exact ParameterList.spells_cons (readsItem.covers_parameter settled) spells_nil
  | parametersNext readsItem taken _ _ _ parameters =>
    exact ParameterList.spells_cons (readsItem.covers_parameter settled)
      (parameters rfl (taken.settled (readsItem.settled settled)))
  | _ => cases same

theorem Derivation.covers_parameterList {state next : State} {value : ParameterList}
    (reads : Reads .parameterList state value next) (settled : state.Settled) :
    value.assembly.node.range.Covers value.slots := by
  cases reads with
  | parameterListIdle | parameterListMissing => exact Range.covers_of_isEmpty settled.anchored rfl
  | parameterListEmpty =>
    exact Assembly.covers_ofParts ((spells_token _ _).append
      (spells_nil.append (spells_optional _ _)))
  | parameterListFilled taken _ readsParameters =>
    exact Assembly.covers_ofParts (((spells_token _ _).append
      (readsParameters.covers_parameters rfl (taken.settled settled))).append
        (spells_optional _ _))

/-! ## Statements -/

/-- What is read of a statement covers its slots. -/
theorem Derivation.covers_statement {production : Production} {state next : State}
    {value : production.Value} (reads : Reads production state value next)
    (within : production.isStatement = true) (settled : state.Settled) :
    production.Covers value := by
  induction reads with
  | blockMissing => exact Range.covers_of_isEmpty settled.anchored rfl
  | blockWritten taken _ _ items =>
    exact Assembly.covers_ofParts (((spells_token _ _).append
      (items rfl (taken.settled settled))).append (spells_optional _ _))
  | statementsEnd => exact spells_nil
  | @statementsNext _ _ _ skipped _ _ _ _ readsItem resumes _ item more =>
    have errors : ∀ value ∈ skipped.map Statement.error,
        value.toNode.range.Covers value.slots := by
      intro value member
      rcases Option.map_eq_some_iff.mp member with ⟨node, found, rfl⟩
      exact resumes.covers found
    exact Statement.spells_append
      (Statement.spells_append (Statement.spells_toList (item rfl settled))
        (Statement.spells_toList errors))
      (more rfl (resumes.settled (readsItem.settled settled)))
  | statementIf taken readsCondition _ _ _ consequence =>
    have settledKeyword := taken.settled settled
    rintro _ ⟨⟩
    exact Assembly.covers_ofParts (((((spells_token _ _).append
      (spells_child (readsCondition.covers_condition settledKeyword))).append
        (consequence rfl (readsCondition.settled settledKeyword) .consequence)).append
          spells_nil).of_placed_eq (by simp))
  | statementIfElse taken readsCondition readsConsequence otherwise _ _ consequence
      alternative =>
    have settledKeyword := taken.settled settled
    have settledCondition := readsCondition.settled settledKeyword
    have settledElse := otherwise.settled (readsConsequence.settled settledCondition)
    rintro _ ⟨⟩
    exact Assembly.covers_ofParts (((((spells_token _ _).append
      (spells_child (readsCondition.covers_condition settledKeyword))).append
        (consequence rfl settledCondition .consequence)).append
          ((spells_token _ _).append (alternative rfl settledElse .alternative))).of_placed_eq (by
            simp))
  | statementReturn =>
    rintro _ ⟨⟩
    exact Assembly.covers_ofParts (((spells_token _ _).append spells_nil).append
      (spells_optional _ _))
  | statementReturnValue taken _ readsValue =>
    rintro _ ⟨⟩
    exact Assembly.covers_ofParts (((spells_token _ _).append
      (spells_child (readsValue.covers_operation (taken.settled settled)))).append
      (spells_optional _ _))
  | statementVariable readsDeclaration =>
    rintro _ ⟨⟩
    exact readsDeclaration.covers_variableDeclaration settled
  | statementBlock _ _ block =>
    rintro _ ⟨⟩
    exact block rfl settled
  | statementExpression _ readsExpression =>
    rintro _ ⟨⟩
    exact Assembly.covers_ofParts ((spells_child (readsExpression.covers_operation settled)).append
      (spells_optional _ _))
  | statementAssignment _ readsTarget _ readsTail =>
    rintro _ ⟨⟩
    exact readsTail.covers_assignmentTail
      (State.settled_checkTarget (readsTarget.settled settled) _)
      (readsTarget.covers_operation settled)
  | statementAbsent | statementRejected => exact nofun
  | branchRecovering | branchMissing => exact fun field => spells_standIn field _
  | branchBlock _ _ _ _ block =>
    exact fun field => (spells_child (block rfl settled)).append (spells_allowed _ _)
  | branchStatement _ _ _ statement =>
    exact fun field => (spells_child (statement rfl settled _ rfl)).append spells_nil
  | _ => cases within

section

variable {state next : State}

theorem Derivation.covers_block {value : Block} (reads : Reads .block state value next)
    (settled : state.Settled) : value.toNode.range.Covers value.slots :=
  reads.covers_statement rfl settled

theorem Derivation.spells_instanceBody {hasParent : Bool} {body : Option Block}
    {semicolon : Option Range}
    (reads : Reads (.instanceBody hasParent) state (body, semicolon) next)
    (settled : state.Settled) :
    Spells ((body.map fun body => Part.child .body body.assembly).toList ++
        Part.optional .semicolon semicolon)
      (InstanceDeclaration.bodySlots body semicolon) := by
  cases reads with
  | instanceBlock _ _ readsBody =>
    exact (spells_child (readsBody.covers_block settled)).append (spells_allowed _ _)
  | instanceForward => exact spells_token _ _
  | instanceIdle | instanceBare => exact spells_nil.of_placed_eq rfl

theorem Derivation.spells_declarationBody {body : Block} {semicolon : Option Range}
    (reads : Reads .declarationBody state (body, semicolon) next) (settled : state.Settled) :
    Spells (body.part :: Part.optional .semicolon semicolon)
      (body.slots ++ allowed .semicolon semicolon) := by
  cases reads with
  | bodyIdle =>
    have covers : (Block.missing state.anchor false).toNode.range.Covers [] :=
      Range.covers_of_isEmpty settled.anchored rfl
    exact (Block.spells_part covers).append spells_nil
  | bodyMissing _ readsBody =>
    exact (Block.spells_part (readsBody.covers_block settled)).append spells_nil
  | bodyWritten _ readsBody =>
    exact (Block.spells_part (readsBody.covers_block settled)).append (spells_allowed _ _)

/-! ## Classes -/

theorem Derivation.covers_member {member : ClassMember}
    (reads : Reads .classItem state (some (.member member)) next) (settled : state.Settled) :
    member.toNode.range.Covers member.slots := by
  cases reads with
  | classVariable readsDeclaration => exact readsDeclaration.covers_variableDeclaration settled
  | classAssignment _ readsTarget _ readsTail =>
    exact readsTail.covers_assignmentTail
      (State.settled_checkTarget (readsTarget.settled settled) _)
      (readsTarget.covers_operation settled)

/-- A member, what is skipped after it, and the members that follow. -/
theorem Derivation.continues_members {item : Option ClassItem} {skipped : Option ErrorNode}
    {more : List ClassItem} {afterItem resumed : State}
    (readsItem : Reads .classItem state item afterItem)
    (resumes : Resumes .statement state afterItem skipped resumed)
    (readsMore : Reads .classItems resumed more next) (normal : state.recovering = false)
    (settled : state.Settled)
    (continued : Continues (more.map ClassItem.part) (more.flatMap ClassItem.slots)) :
    Continues
      ((item.toList ++ (skipped.map fun node => ClassItem.member (.error node)).toList ++
        more).map ClassItem.part)
      ((item.toList ++ (skipped.map fun node => ClassItem.member (.error node)).toList ++
        more).flatMap ClassItem.slots) := by
  have settledItem := readsItem.settled settled
  have rest : Continues
      (((skipped.map fun node => ClassItem.member (.error node)).toList ++ more).map
        ClassItem.part)
      (((skipped.map fun node => ClassItem.member (.error node)).toList ++ more).flatMap
        ClassItem.slots) := by
    cases skipped with
    | none => exact continued
    | some node =>
      have error : Spells [ClassItem.part (.member (.error node))]
          (ClassItem.slots (.member (.error node))) := spells_child (resumes.covers rfl)
      exact error.continues.append continued
  rw [List.append_assoc]
  cases item with
  | none => exact rest
  | some item =>
    cases item with
    | member content =>
      exact (spells_child (readsItem.covers_member settled)).continues.append rest
    | abandoned target =>
      apply continues_abandoned target.slots rest
      intro nothing
      have fewer := readsItem.fewer_after_abandoned normal resumes readsMore
      have placed : afterItem.placed = next.placed := by
        have empty : skipped.elim [] ErrorNode.skipped ++
            Slot.placed (more.flatMap ClassItem.slots) = [] := by
          cases skipped <;> simpa [ClassItem.slots, ClassMember.slots] using nothing
        rw [resumes.placed, readsMore.placed (resumes.settled settledItem).spelled,
          ← List.append_assoc]
        exact congrArg (· ++ next.placed) empty
      have length := congrArg List.length placed
      simp only [State.placed, List.length_map] at length
      exact absurd length (Nat.ne_of_gt fewer)

theorem Derivation.covers_classItems {production : Production} {state next : State}
    {value : production.Value} (reads : Reads production state value next)
    (same : production = .classItems) (normal : state.recovering = false)
    (settled : state.Settled) : production.Covers value := by
  induction reads with
  | classItemsEnd => exact spells_nil.continues
  | classItemsNext _ readsItem resumes readsMore _ more =>
    exact readsItem.continues_members resumes readsMore normal settled
      (more rfl resumes.normal (resumes.settled (readsItem.settled settled)))
  | _ => cases same

theorem Derivation.covers_classBody {value : ClassBody} (reads : Reads .classBody state value next)
    (settled : state.Settled) : value.assembly.node.range.Covers value.slots := by
  cases reads with
  | classBodyMissing => exact Range.covers_of_isEmpty settled.anchored rfl
  | classBodyWritten taken readsItems =>
    have items := readsItems.covers_classItems rfl taken.normal_next (taken.settled settled)
    exact Assembly.covers_ofParts
      (((items.append (spells_optional _ _).continues).after_token _ _).of_placed_eq (by
        simp [ClassBody.slots]))

/-! ## Declarations -/

/-- A declaration covers exactly the tokens that were taken for it. -/
theorem Derivation.covers_declaration {declaration : Declaration}
    (reads : Reads .declaration state (some declaration) next) (settled : state.Settled) :
    declaration.range.Covers declaration.slots := by
  cases reads with
  | declarationInstance taken readsName readsParent readsBody =>
    have settledKeyword := taken.settled settled
    have settledName := readsName.settled settledKeyword
    apply Assembly.covers_ofParts
    rw [List.append_assoc]
    exact (((spells_token _ _).append
      (spells_leaf (readsName.covers_directName settledKeyword))).append
        (readsParent.spells_parentClause settledName)).append
          (readsBody.spells_instanceBody (readsParent.settled settledName))
  | declarationPrototype taken readsName opens readsParent closes readsBody =>
    have settledKeyword := taken.settled settled
    have settledOpening := opens.settled (readsName.settled settledKeyword)
    have settledClosing := closes.settled (readsParent.settled settledOpening)
    exact Assembly.covers_ofParts (((((spells_token _ _).append
      (spells_leaf (readsName.covers_directName settledKeyword))).append
        (spells_optional _ _)).append
          ((spells_leaf (readsParent.covers_identifier settledOpening)).append
            ((spells_optional _ _).append
              (readsBody.spells_declarationBody settledClosing)))).of_placed_eq (by
                simp [Declaration.slots]))
  | declarationFunction taken readsType readsName readsParameters readsBody =>
    have settledKeyword := taken.settled settled
    have settledType := readsType.settled settledKeyword
    have settledName := readsName.settled settledType
    have settledParameters := readsParameters.settled settledName
    exact Assembly.covers_ofParts ((((spells_token _ _).append
      (spells_leaf (readsType.covers_typeReference settledKeyword))).append
        ((spells_leaf (readsName.covers_identifier settledType)).append
          ((spells_child (readsParameters.covers_parameterList settledName)).append
            (readsBody.spells_declarationBody settledParameters)))).of_placed_eq (by
              simp [Declaration.slots]))
  | declarationNamelessClass taken readsName =>
    have settledKeyword := taken.settled settled
    have settledName := readsName.settled settledKeyword
    have covers : (ClassBody.missing next.anchor).assembly.node.range.Covers [] :=
      Range.covers_of_isEmpty settledName.anchored rfl
    exact Assembly.covers_ofParts ((((spells_token _ _).append
      (spells_leaf (readsName.covers_directName settledKeyword))).append
        (spells_child covers)).append spells_nil)
  | declarationUnfinishedClass taken readsName _ readsBody =>
    have settledKeyword := taken.settled settled
    have settledName := readsName.settled settledKeyword
    exact Assembly.covers_ofParts ((((spells_token _ _).append
      (spells_leaf (readsName.covers_directName settledKeyword))).append
        (spells_child (readsBody.covers_classBody settledName))).append spells_nil)
  | declarationClass taken readsName _ readsBody =>
    have settledKeyword := taken.settled settled
    have settledName := readsName.settled settledKeyword
    exact Assembly.covers_ofParts ((((spells_token _ _).append
      (spells_leaf (readsName.covers_directName settledKeyword))).append
        (spells_child (readsBody.covers_classBody settledName))).append (spells_allowed _ _))
  | declarationVariable readsDeclaration =>
    exact readsDeclaration.covers_variableDeclaration settled

end

end ScriptTree.Grammar
