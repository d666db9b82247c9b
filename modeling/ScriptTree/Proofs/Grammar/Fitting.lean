import ScriptTree.Proofs.Grammar.Motion
import ScriptTree.Proofs.Lexeme.Order
import ScriptTree.Proofs.Node.Fitting
import ScriptTree.Proofs.Node.Stretch

/-!
# What productions yield fits

A parse has come to the end of the last lexeme that it took, and all that is left
starts there or later.  So what a production yields fits between where the parse
was before and where it is after, what is missing included: that is empty, and it
stands where the parse is.  This holds on every path through the grammar, because
a state knows no more of the past than where it has come to.
-/

namespace ScriptTree.Grammar

open ScriptTree.Part

/-- How far a parse has come. -/
def State.offset (state : State) : Nat :=
  state.anchor.span.stop

/-- The lexemes that are left follow each other from where the parse is. -/
structure State.Ordered (state : State) : Prop where
  anchored : state.anchor.span.start = state.anchor.span.stop
  follow : Lexeme.Follow state.offset state.rest

section

variable {state next : State}

/-- A report does not move a parse. -/
@[simp]
theorem State.offset_report (state : State) (range : Range) (expected : Expectation) :
    (state.report range expected).offset = state.offset := by
  rw [State.offset, State.anchor_report]
  rfl

@[simp]
theorem State.offset_reportMissing (state : State) (token : Token) :
    (state.reportMissing token).offset = state.offset :=
  State.offset_report ..

@[simp]
theorem State.offset_fail (state : State) (expected : Expectation) :
    (state.fail expected).offset = state.offset := by
  rw [State.offset, State.anchor_fail]
  rfl

@[simp]
theorem State.offset_reject (state : State) (production : String) :
    (state.reject production).offset = state.offset :=
  rfl

@[simp]
theorem State.offset_checkTarget (state : State) (target : Expression) :
    (state.checkTarget target).offset = state.offset := by
  rw [State.offset, State.anchor_checkTarget]
  rfl

/-- A move keeps the lexemes ahead in order. -/
theorem Move.ordered (move : Move state next) (before : state.Ordered) : next.Ordered := by
  have follow := before.follow
  cases move with
  | take _ front =>
    rw [front] at follow
    exact ⟨rfl, follow.2.2⟩
  | report => exact ⟨by simpa using before.anchored, by simpa using follow⟩
  | fail => exact ⟨by simpa using before.anchored, by simpa using follow⟩
  | reject => exact ⟨by simpa using before.anchored, by simpa using follow⟩
  | rejectTarget => exact ⟨before.anchored, follow⟩
  | @passOver skipped rest front =>
    rw [front] at follow
    have split := Lexeme.follow_append_iff.mp follow
    cases last : skipped.getLast? with
    | none =>
      rw [List.getLast?_eq_none_iff.mp last] at split ⊢
      exact ⟨before.anchored, split.2⟩
    | some lexeme =>
      rw [Lexeme.endOf, last] at split
      have anchor : (state.passOver skipped rest).anchor = lexeme.range.after := by
        simp [State.passOver, last]
      constructor
      · rw [anchor]
        rfl
      · rw [State.offset, anchor]
        exact split.2

theorem Moves.ordered (moves : Moves state next) (before : state.Ordered) : next.Ordered :=
  moves.keeps (fun move => move.ordered) before

/-- A parse never goes back. -/
theorem Move.offset_le (move : Move state next) (ordered : state.Ordered) :
    state.offset ≤ next.offset := by
  have follow := ordered.follow
  cases move with
  | take _ front =>
    rw [front] at follow
    exact Nat.le_trans follow.1 follow.2.1
  | report | fail | reject => simp
  | rejectTarget => exact Nat.le_refl _
  | @passOver skipped rest front =>
    rw [front] at follow
    have reached := (Lexeme.follow_append_iff.mp follow).1.le_endOf
    cases last : skipped.getLast? with
    | none => simp [State.offset, State.passOver, last]
    | some lexeme =>
      rw [Lexeme.endOf, last] at reached
      simpa [State.offset, State.passOver, last, Range.after, Range.emptyAt] using reached

/-- A parse only moves forwards. -/
theorem Moves.offset_le (moves : Moves state next) (ordered : state.Ordered) :
    state.offset ≤ next.offset := by
  have kept := moves.keeps
    (motive := fun later => later.Ordered ∧ state.offset ≤ later.offset)
    (fun move before =>
      ⟨move.ordered before.1, Nat.le_trans before.2 (move.offset_le before.1)⟩)
    ⟨ordered, Nat.le_refl _⟩
  exact kept.2

theorem State.Ordered.fits_anchor (ordered : state.Ordered) :
    state.anchor.Fits state.offset state.offset :=
  ⟨Nat.le_of_eq ordered.anchored.symm, Nat.le_of_eq ordered.anchored, Nat.le_refl _⟩

theorem Taking.ordered {α : Type} {recognize : Token → Option α} {value : α} {lexeme : Lexeme}
    (taken : Takes state recognize value lexeme next) (ordered : state.Ordered) : next.Ordered :=
  taken.moves.ordered ordered

theorem Derivation.ordered {production : Production} {value : production.Value}
    (reads : Reads production state value next) (ordered : state.Ordered) : next.Ordered :=
  reads.moves.ordered ordered

theorem Resumes.ordered {level : SyncLevel} {start : State} {skipped : Option ErrorNode}
    (resumes : Resumes level start state skipped next) (ordered : state.Ordered) :
    next.Ordered :=
  resumes.moves.ordered ordered

theorem State.Ordered.fail (ordered : state.Ordered) (expected : Expectation) :
    (state.fail expected).Ordered :=
  (moves_fail state expected).ordered ordered

theorem State.Ordered.reportMissing (ordered : state.Ordered) (token : Token) :
    (state.reportMissing token).Ordered :=
  (moves_reportMissing state token).ordered ordered

theorem State.Ordered.checkTarget (ordered : state.Ordered) (target : Expression) :
    (state.checkTarget target).Ordered :=
  (moves_checkTarget state target).ordered ordered

/-- A lexeme that is taken fits between the states before and after it. -/
theorem Taking.fits {α : Type} {recognize : Token → Option α} {value : α} {lexeme : Lexeme}
    (taken : Takes state recognize value lexeme next) (ordered : state.Ordered) :
    lexeme.range.Fits state.offset next.offset := by
  have follow := ordered.follow
  rw [taken.front] at follow
  refine ⟨follow.1, follow.2.1, ?_⟩
  rw [taken.moved]
  exact Nat.le_refl _

/-- A skip moves a parse to the end of what it skips. -/
theorem State.offset_synchronize (state : State) (level : SyncLevel) :
    (state.synchronize level).2.offset =
      Lexeme.endOf state.offset (level.skip 0 state.rest).1 := by
  cases last : (level.skip 0 state.rest).1.getLast? <;>
    simp [State.synchronize, State.passOver, State.offset, Lexeme.endOf, last, Range.after,
      Range.emptyAt]

/-- What is passed over when a list resumes fits. -/
theorem Resumes.fits {level : SyncLevel} {start : State} {skipped : Option ErrorNode}
    (resumes : Resumes level start state skipped next) (ordered : state.Ordered) :
    ∀ node ∈ skipped, node.assembly.Fits state.offset next.offset := by
  intro node member
  have follow := ordered.follow
  refine ⟨?_, rfl⟩
  cases resumes with
  | onward => cases member
  | synchronized =>
    rw [← level.skip_append 0 state.rest] at follow
    have fits := (Lexeme.follow_append_iff.mp follow).1.fits_ofTokens? node member
    rw [State.offset_synchronize]
    exact fits
  | skippedOne _ _ front =>
    cases member
    rw [front] at follow
    exact ⟨follow.1, follow.2.1, Nat.le_refl _⟩

end

/-! ## Productions -/

/-- What a production yields fits between two offsets.  A tail fits if it does so behind anything
that fits before it. -/
def Production.Fits : (production : Production) → Nat → Nat → production.Value → Prop
  | .optional sought, low, high, place | .expected sought, low, high, place =>
    Fit low high (Part.optional sought place)
  | .terminator, low, high, place => Fit low high (Part.optional .semicolon place)
  | .closingBrace, low, high, place => Fit low high (Part.optional .rBrace place)
  | .identifier, low, high, name | .directName, low, high, name => name.range.Fits low high
  | .typeReference, low, high, type => type.range.Fits low high
  | .operation _, low, high, value | .operand, low, high, value | .primary, low, high, value
  | .initialValue, low, high, value | .condition, low, high, value =>
    value.assembly.Fits low high
  | .operators _, low, high, tails =>
    ∀ (start : Nat) (first : Expression), first.assembly.Fits start low →
      (tails.foldl BinaryTail.onto first).assembly.Fits start high
  | .accesses, low, high, tails =>
    ∀ (start : Nat) (head : Expression), head.assembly.Fits start low →
      (tails.foldl AccessTail.onto head).assembly.Fits start high
  | .arguments, low, high, (items, closing) =>
    Fit low high (Expression.listParts .arguments items ++ Part.optional .rParen closing)
  | .elements _, low, high, (items, missing) =>
    Fit low high (Expression.listParts .elements items ++ (missing.map Part.gap).toList)
  | .arraySize, low, high, value => Fit low high (VariableDeclaration.sizeParts value)
  | .initializer, low, high, value => Fit low high (VariableDeclaration.initializerParts value)
  | .variableDeclaration, low, high, value => value.assembly.Fits low high
  | .assignmentTail, low, high, tail =>
    ∀ (start : Nat) (target : Expression), target.assembly.Fits start low →
      (tail.onto target).assembly.Fits start high
  | .block, low, high, value => value.assembly.Fits low high
  | .statements, low, high, items => Fit low high (Statement.listParts items)
  | .statement, low, high, item => ∀ value ∈ item, value.assembly.Fits low high
  | .branch, low, high, value => ∀ field, Fit low high (value.parts field)
  | .parentClause, low, high, value => Fit low high (InstanceDeclaration.parentParts value)
  | .instanceBody _, low, high, (body, semicolon) =>
    Fit low high ((body.map fun body => Part.child .body body.assembly).toList ++
      Part.optional .semicolon semicolon)
  | .declarationBody, low, high, (body, semicolon) =>
    Fit low high (body.part :: Part.optional .semicolon semicolon)
  | .qualifier, low, high, value => Fit low high (Parameter.qualifierParts value)
  | .parameter, low, high, value => value.assembly.Fits low high
  | .parameters, low, high, (items, closing) =>
    Fit low high (ParameterList.parts items ++ Part.optional .rParen closing)
  | .parameterList, low, high, value => value.assembly.Fits low high
  | .classItem, low, high, item => ∀ value ∈ item, Fit low high [value.part]
  | .classItems, low, high, items => Fit low high (items.map ClassItem.part)
  | .classBody, low, high, value => value.assembly.Fits low high
  | .declaration, low, high, item => ∀ value ∈ item, value.assembly.Fits low high
  | .declarations, _, _, items => ∀ value ∈ items, value.assembly.overlap = none

/-- What stands in for a missing part stands where the parse is. -/
theorem State.Ordered.fits_fail {state : State} (ordered : state.Ordered)
    (expected : Expectation) : state.anchor.Fits state.offset (state.fail expected).offset := by
  rw [State.offset_fail]
  exact ordered.fits_anchor

theorem Literal.fits_expression {low high : Nat} {lexeme : Lexeme}
    (fits : lexeme.range.Fits low high) (literal : Literal) :
    (literal.expression lexeme).assembly.Fits low high := by
  cases literal <;> exact ⟨fits, rfl⟩

/-- What is read from an ordered state fits. -/
def Production.FitsFrom (production : Production) (state : State) (value : production.Value)
    (next : State) : Prop :=
  state.Ordered → production.Fits state.offset next.offset value

theorem Production.fits_optional (token : Token) :
    (Production.optional token).Inherits State.Normal FitsFrom := by
  intro state value next reads parts ordered
  cases parts with
  | optionalTaken taken => exact fit_token (taken.fits ordered)
  | optionalAbsent => exact Fit.nil (Nat.le_refl _)

theorem Production.fits_expected (token : Token) :
    (Production.expected token).Inherits State.Normal FitsFrom := by
  intro state value next reads parts ordered
  cases parts with
  | expectedTaken taken => exact fit_token (taken.fits ordered)
  | expectedMissing => exact Fit.nil (by simp)
  | expectedIdle => exact Fit.nil (Nat.le_refl _)

theorem Production.fits_closingBrace :
    Production.closingBrace.Inherits State.Normal FitsFrom := by
  intro state value next reads parts ordered
  cases parts with
  | closingBraceTaken taken => exact fit_token (taken.fits ordered)
  | closingBraceMissing => exact Fit.nil (by simp)

theorem Production.fits_terminator :
    Production.terminator.Inherits State.Normal FitsFrom := by
  intro state value next reads parts ordered
  cases parts with
  | terminatorTaken taken => exact fit_token (taken.fits ordered)
  | terminatorGranted | terminatorMissing => exact Fit.nil (by simp)
  | terminatorIdle => exact Fit.nil (Nat.le_refl _)

theorem Production.fits_identifier :
    Production.identifier.Inherits State.Normal FitsFrom := by
  intro state value next reads parts ordered
  cases parts with
  | identifierTaken taken => exact taken.fits ordered
  | identifierMissing => exact ordered.fits_fail _
  | identifierIdle => exact ordered.fits_anchor

theorem Production.fits_directName :
    Production.directName.Inherits State.Normal FitsFrom := by
  intro state value next reads parts ordered
  cases parts with
  | nameTaken taken => exact taken.fits ordered
  | nameMissing => exact ordered.fits_fail _

theorem Production.fits_typeReference :
    Production.typeReference.Inherits State.Normal FitsFrom := by
  intro state value next reads parts ordered
  cases parts with
  | typeTaken taken => exact taken.fits ordered
  | typeMissing => exact ordered.fits_fail _

theorem Production.fits_operation (power : Nat) :
    (Production.operation power).Inherits State.Normal FitsFrom := by
  intro state value next reads parts ordered
  cases parts with
  | operation readsOperand _ _ operand _ operators =>
    exact operators (readsOperand.ordered ordered) _ _ (operand ordered)

theorem Production.fits_operators (power : Nat) :
    (Production.operators power).Inherits State.Normal FitsFrom := by
  intro state value next reads parts ordered
  cases parts with
  | operatorsEnd => exact fun _ _ fits => fits
  | operatorsNext taken readsOperand _ _ operand _ operators =>
    intro start first fits
    have orderedSign := taken.ordered ordered
    apply operators (readsOperand.ordered orderedSign)
    exact Assembly.fits_ofParts ((fit_child fits).append
      ((fit_token (taken.fits ordered)).append (fit_child (operand orderedSign)))) nofun

theorem Production.fits_operand :
    Production.operand.Inherits State.Normal FitsFrom := by
  intro state value next reads parts ordered
  cases parts with
  | operandSigned taken _ _ operand =>
    exact Assembly.fits_ofParts ((fit_token (taken.fits ordered)).append
      (fit_child (operand (taken.ordered ordered)))) nofun
  | operandPlain _ readsPrimary _ _ primary _ accesses =>
    exact accesses (readsPrimary.ordered ordered) _ _ (primary ordered)

theorem Production.fits_primary :
    Production.primary.Inherits State.Normal FitsFrom := by
  intro state value next reads parts ordered
  cases parts with
  | primaryParenthesized taken readsInner _ _ inner _ closing =>
    have orderedOpening := taken.ordered ordered
    exact Assembly.fits_ofParts (((fit_token (taken.fits ordered)).append
      (fit_child (inner orderedOpening))).append
        (closing (readsInner.ordered orderedOpening))) nofun
  | primaryLiteral taken => exact Literal.fits_expression (taken.fits ordered) _
  | primaryMissing => exact ⟨ordered.fits_fail _, rfl⟩

theorem Production.fits_accesses :
    Production.accesses.Inherits State.Normal FitsFrom := by
  intro state value next reads parts ordered
  cases parts with
  | accessesEnd => exact fun _ _ fits => fits
  | accessesIndex taken readsInner closes _ _ inner _ closing _ accesses =>
    intro start head fits
    have orderedOpening := taken.ordered ordered
    have orderedInner := readsInner.ordered orderedOpening
    apply accesses (closes.ordered orderedInner)
    exact Assembly.fits_ofParts ((((fit_child fits).append
      (fit_token (taken.fits ordered))).append (fit_child (inner orderedOpening))).append
        (closing orderedInner)) nofun
  | accessesMember taken readsName _ _ name _ accesses =>
    intro start head fits
    have orderedDot := taken.ordered ordered
    apply accesses (readsName.ordered orderedDot)
    exact Assembly.fits_ofParts ((fit_child fits).append
      ((fit_token (taken.fits ordered)).append (fit_leaf (name orderedDot)))) nofun
  | accessesEmptyCall taken closes _ _ accesses =>
    intro start head fits
    have orderedOpening := taken.ordered ordered
    apply accesses (closes.ordered orderedOpening)
    exact Expression.fits_call fits (taken.fits ordered) (fit_token (closes.fits orderedOpening))
  | accessesCall taken _ readsArguments _ _ arguments _ accesses =>
    intro start head fits
    have orderedOpening := taken.ordered ordered
    apply accesses (readsArguments.ordered orderedOpening)
    exact Expression.fits_call fits (taken.fits ordered) (arguments orderedOpening)

theorem Production.fits_arguments :
    Production.arguments.Inherits State.Normal FitsFrom := by
  intro state value next reads parts ordered
  cases parts with
  | argumentsLast readsArgument _ _ _ argument _ closing =>
    exact Expression.fit_cons (argument ordered) (Fit.nil (Nat.le_refl _))
      (closing (readsArgument.ordered ordered))
  | argumentsTrailing readsArgument taken closes _ argument =>
    have orderedArgument := readsArgument.ordered ordered
    have orderedComma := taken.ordered orderedArgument
    have closing := closes.fits (orderedComma.fail _)
    rw [State.offset_fail] at closing
    exact Expression.fit_cons (argument ordered) (fit_token (taken.fits orderedArgument))
      (fit_token closing)
  | argumentsNext readsArgument taken _ _ _ argument _ arguments =>
    have orderedArgument := readsArgument.ordered ordered
    exact Expression.fit_cons (argument ordered) (fit_token (taken.fits orderedArgument))
      (arguments (taken.ordered orderedArgument))

theorem Production.fits_elements (isFirst : Bool) :
    (Production.elements isFirst).Inherits State.Normal FitsFrom := by
  intro state value next reads parts ordered
  cases parts with
  | elementsEnd => exact Fit.nil (Nat.le_refl _)
  | elementsMissing _ readsElement _ _ element =>
    have fits := (readsElement.ordered ordered).fits_anchor
    exact fit_gap (fits.widen (readsElement.moves.offset_le ordered) (Nat.le_refl _))
  | elementsLast _ _ _ _ _ element =>
    exact Expression.fit_cons (element ordered) (Fit.nil (Nat.le_refl _)) (Fit.nil (Nat.le_refl _))
  | elementsNext _ readsElement _ taken _ _ element _ elements =>
    have orderedElement := readsElement.ordered ordered
    exact Expression.fit_cons (element ordered) (fit_token (taken.fits orderedElement))
      (elements (taken.ordered orderedElement))

theorem Production.fits_initialValue :
    Production.initialValue.Inherits State.Normal FitsFrom := by
  intro state value next reads parts ordered
  cases parts with
  | initialElements taken readsElements _ _ elements _ closing =>
    have orderedOpening := taken.ordered ordered
    exact Assembly.fits_ofParts ((fit_token (taken.fits ordered)).append
      ((elements orderedOpening).append (closing (readsElements.ordered orderedOpening)))) nofun
  | initialExpression _ _ _ element => exact element ordered

theorem Production.fits_arraySize :
    Production.arraySize.Inherits State.Normal FitsFrom := by
  intro state value next reads parts ordered
  cases parts with
  | arraySizeAbsent => exact Fit.nil (Nat.le_refl _)
  | arraySizeWritten taken readsSize _ _ size _ closing =>
    have orderedOpening := taken.ordered ordered
    exact ((fit_token (taken.fits ordered)).append (fit_child (size orderedOpening))).append
      (closing (readsSize.ordered orderedOpening))

theorem Production.fits_initializer :
    Production.initializer.Inherits State.Normal FitsFrom := by
  intro state value next reads parts ordered
  cases parts with
  | initializerAbsent => exact Fit.nil (Nat.le_refl _)
  | initializerWritten taken _ _ initial =>
    exact (fit_token (taken.fits ordered)).append (fit_child (initial (taken.ordered ordered)))

theorem Production.fits_variableDeclaration :
    Production.variableDeclaration.Inherits State.Normal FitsFrom := by
  intro state value next reads parts ordered
  cases parts with
  | variableDeclaration taken readsType readsName readsSize readsInitializer _ _ type _ name _ size
    _ initializer _ terminator =>
    have orderedKeyword := taken.ordered ordered
    have orderedType := readsType.ordered orderedKeyword
    have orderedName := readsName.ordered orderedType
    have orderedSize := readsSize.ordered orderedName
    have orderedInitializer := readsInitializer.ordered orderedSize
    exact Assembly.fits_ofParts ((((((fit_token (taken.fits ordered)).append
      (fit_leaf (type orderedKeyword))).append (fit_leaf (name orderedType))).append
        (size orderedName)).append (initializer orderedSize)).append
          (terminator orderedInitializer)) nofun

theorem Production.fits_assignmentTail :
    Production.assignmentTail.Inherits State.Normal FitsFrom := by
  intro state value next reads parts ordered
  cases parts with
  | assignmentSigned taken readsRight _ _ right _ terminator =>
    intro start target fits
    have orderedSign := taken.ordered ordered
    exact Assembly.fits_ofParts ((fit_child fits).append ((fit_token (taken.fits ordered)).append
      ((fit_child (right orderedSign)).append (terminator (readsRight.ordered orderedSign)))))
        nofun
  | assignmentUnsigned _ _ _ terminator =>
    intro start target fits
    have ends := terminator (ordered.fail _)
    rw [State.offset_fail] at ends
    exact Assembly.fits_ofParts ((fit_child fits).append
      ((fit_child ⟨ordered.fits_anchor, rfl⟩).append ends)) nofun

theorem Production.fits_condition :
    Production.condition.Inherits State.Normal FitsFrom := by
  intro state value next reads parts ordered
  cases parts with
  | conditionBare _ _ _ _ inner =>
    have fits := inner (ordered.reportMissing _)
    rw [State.offset_reportMissing] at fits
    exact fits
  | conditionPlain _ _ _ inner => exact inner ordered

theorem Production.fits_block :
    Production.block.Inherits State.Normal FitsFrom := by
  intro state value next reads parts ordered
  cases parts with
  | blockMissing => exact Assembly.fits_leaf (ordered.fits_fail _)
  | blockWritten taken readsItems _ _ items _ closing =>
    have orderedOpening := taken.ordered ordered
    exact Assembly.fits_ofParts ((fit_token (taken.fits ordered)).append
      ((items orderedOpening).append (closing (readsItems.ordered orderedOpening)))) nofun

theorem Production.fits_statements :
    Production.statements.Inherits State.Normal FitsFrom := by
  intro state value next reads parts ordered
  cases parts with
  | statementsEnd => exact Fit.nil (Nat.le_refl _)
  | statementsNext _ readsItem resumes _ _ item _ more =>
    have orderedItem := readsItem.ordered ordered
    have errors := resumes.fits orderedItem
    rw [Production.Fits, Statement.listParts_append, Statement.listParts_append]
    refine ((Statement.fit_toList (readsItem.moves.offset_le ordered) (item ordered)).append
      (Statement.fit_toList (resumes.moves.offset_le orderedItem) ?_)).append
        (more (resumes.ordered orderedItem))
    intro value member
    rcases Option.map_eq_some_iff.mp member with ⟨node, found, rfl⟩
    exact errors node found

theorem Production.fits_statement :
    Production.statement.Inherits State.Normal FitsFrom := by
  intro state value next reads parts ordered
  cases parts with
  | statementIf taken readsCondition _ _ _ condition _ consequence =>
    rintro _ ⟨⟩
    have orderedKeyword := taken.ordered ordered
    exact Assembly.fits_ofParts ((((fit_token (taken.fits ordered)).append
      (fit_child (condition orderedKeyword))).append
        (consequence (readsCondition.ordered orderedKeyword) .consequence)).append
          (Fit.nil (Nat.le_refl _))) nofun
  | statementIfElse taken readsCondition readsConsequence otherwise _ _ condition _ consequence _
    alternative =>
    rintro _ ⟨⟩
    have orderedKeyword := taken.ordered ordered
    have orderedCondition := readsCondition.ordered orderedKeyword
    have orderedConsequence := readsConsequence.ordered orderedCondition
    exact Assembly.fits_ofParts ((((fit_token (taken.fits ordered)).append
      (fit_child (condition orderedKeyword))).append
        (consequence orderedCondition .consequence)).append
          ((fit_token (otherwise.fits orderedConsequence)).append
            (alternative (otherwise.ordered orderedConsequence) .alternative))) nofun
  | statementReturn taken _ _ _ terminator =>
    rintro _ ⟨⟩
    exact Assembly.fits_ofParts ((fit_token (taken.fits ordered)).append
      (terminator (taken.ordered ordered))) nofun
  | statementReturnValue taken _ readsValue _ _ result _ terminator =>
    rintro _ ⟨⟩
    have orderedKeyword := taken.ordered ordered
    exact Assembly.fits_ofParts ((fit_token (taken.fits ordered)).append
      ((fit_child (result orderedKeyword)).append
        (terminator (readsValue.ordered orderedKeyword)))) nofun
  | statementVariable _ _ declaration =>
    rintro _ ⟨⟩
    exact declaration ordered
  | statementBlock _ _ _ block =>
    rintro _ ⟨⟩
    exact block ordered
  | statementExpression _ readsExpression _ _ _ expression _ terminator =>
    rintro _ ⟨⟩
    exact Assembly.fits_ofParts ((fit_child (expression ordered)).append
      (terminator (readsExpression.ordered ordered))) nofun
  | statementAssignment _ readsTarget _ _ _ target _ tail =>
    rintro _ ⟨⟩
    have onto := tail ((readsTarget.ordered ordered).checkTarget _)
    rw [State.offset_checkTarget] at onto
    exact onto _ _ (target ordered)
  | statementAbsent | statementRejected => rintro _ ⟨⟩

theorem Production.fits_branch :
    Production.branch.Inherits State.Normal FitsFrom := by
  intro state value next reads parts ordered
  cases parts with
  | branchRecovering => exact fun _ => fit_standIn rfl (Nat.le_refl _)
  | branchBlock _ _ readsBlock _ _ block _ semicolon =>
    exact fun _ => (fit_child (block ordered)).append (semicolon (readsBlock.ordered ordered))
  | branchStatement _ _ _ _ statement => exact fun _ => fit_child (statement ordered _ rfl)
  | branchMissing _ _ readsStatement =>
    exact fun _ => fit_standIn rfl (readsStatement.moves.offset_le ordered)

theorem Production.fits_parentClause :
    Production.parentClause.Inherits State.Normal FitsFrom := by
  intro state value next reads parts ordered
  cases parts with
  | parentAbsent => exact Fit.nil (Nat.le_refl _)
  | parentWritten taken readsName _ _ name _ closing =>
    have orderedOpening := taken.ordered ordered
    exact ((fit_token (taken.fits ordered)).append (fit_leaf (name orderedOpening))).append
      (closing (readsName.ordered orderedOpening))

theorem Production.fits_instanceBody (hasParent : Bool) :
    (Production.instanceBody hasParent).Inherits State.Normal FitsFrom := by
  intro state value next reads parts ordered
  cases parts with
  | instanceIdle => exact Fit.nil (Nat.le_refl _)
  | instanceBlock _ _ readsBody _ _ body _ semicolon =>
    exact (fit_child (body ordered)).append (semicolon (readsBody.ordered ordered))
  | @instanceForward hasParent state _ _ taken =>
    cases hasParent with
    | true => exact fit_token (taken.fits ordered)
    | false =>
      change Takes (state.reportMissing .lParen) _ _ _ _ at taken
      have fits := taken.fits (ordered.reportMissing .lParen)
      rw [State.offset_reportMissing] at fits
      exact fit_token fits
  | instanceBare => exact Fit.nil (by simp)

theorem Production.fits_declarationBody :
    Production.declarationBody.Inherits State.Normal FitsFrom := by
  intro state value next reads parts ordered
  cases parts with
  | bodyIdle => exact Block.fit_part (Assembly.fits_leaf ordered.fits_anchor)
  | bodyMissing _ _ _ _ body => exact Block.fit_part (body ordered)
  | bodyWritten _ readsBody _ _ _ body _ semicolon =>
    exact (Block.fit_part (body ordered)).append (semicolon (readsBody.ordered ordered))

theorem Production.fits_qualifier :
    Production.qualifier.Inherits State.Normal FitsFrom := by
  intro state value next reads parts ordered
  cases parts with
  | qualifierAbsent => exact Fit.nil (Nat.le_refl _)
  | qualifierWritten taken => exact fit_token (taken.fits ordered)

theorem Production.fits_parameter :
    Production.parameter.Inherits State.Normal FitsFrom := by
  intro state value next reads parts ordered
  cases parts with
  | parameter readsQualifier readsType _ _ qualifier _ type _ name =>
    have orderedQualifier := readsQualifier.ordered ordered
    exact Assembly.fits_ofParts ((qualifier ordered).append
      ((fit_leaf (type orderedQualifier)).append
        (fit_leaf (name (readsType.ordered orderedQualifier))))) (by simp [Part.range?])

theorem Production.fits_parameters :
    Production.parameters.Inherits State.Normal FitsFrom := by
  intro state value next reads parts ordered
  cases parts with
  | parametersLast readsItem _ _ _ item _ closing =>
    exact ParameterList.fit_cons (item ordered) (Fit.nil (Nat.le_refl _))
      (closing (readsItem.ordered ordered))
  | parametersTrailing readsItem taken closes _ item =>
    have orderedItem := readsItem.ordered ordered
    have closing := closes.fits ((taken.ordered orderedItem).fail _)
    rw [State.offset_fail] at closing
    exact ParameterList.fit_cons (item ordered) (fit_token (taken.fits orderedItem))
      (fit_token closing)
  | parametersNext readsItem taken _ _ _ item _ parameters =>
    have orderedItem := readsItem.ordered ordered
    exact ParameterList.fit_cons (item ordered) (fit_token (taken.fits orderedItem))
      (parameters (taken.ordered orderedItem))

theorem Production.fits_parameterList :
    Production.parameterList.Inherits State.Normal FitsFrom := by
  intro state value next reads parts ordered
  cases parts with
  | parameterListIdle => exact Assembly.fits_leaf ordered.fits_anchor
  | parameterListMissing => exact Assembly.fits_leaf (ordered.fits_fail _)
  | parameterListEmpty taken closes =>
    exact Assembly.fits_ofParts ((fit_token (taken.fits ordered)).append
      (fit_token (closes.fits (taken.ordered ordered)))) nofun
  | parameterListFilled taken _ _ _ parameters =>
    exact Assembly.fits_ofParts ((fit_token (taken.fits ordered)).append
      (parameters (taken.ordered ordered))) nofun

theorem Production.fits_classItem :
    Production.classItem.Inherits State.Normal FitsFrom := by
  intro state value next reads parts ordered
  cases parts with
  | classVariable _ _ declaration =>
    rintro _ ⟨⟩
    exact fit_child (declaration ordered)
  | classAbandoned _ _ _ _ target =>
    rintro _ ⟨⟩
    exact fit_abandoned (target ordered)
  | classAssignment _ readsTarget _ _ _ target _ tail =>
    rintro _ ⟨⟩
    have onto := tail ((readsTarget.ordered ordered).checkTarget _)
    rw [State.offset_checkTarget] at onto
    exact fit_child (onto _ _ (target ordered))
  | classRejected => rintro _ ⟨⟩

theorem Production.fits_classItems :
    Production.classItems.Inherits State.Normal FitsFrom := by
  intro state value next reads parts ordered
  cases parts with
  | classItemsEnd => exact Fit.nil (Nat.le_refl _)
  | classItemsNext _ readsItem resumes _ _ item _ more =>
    have orderedItem := readsItem.ordered ordered
    have errors := resumes.fits orderedItem
    rw [Production.Fits, List.map_append, List.map_append]
    refine ((ClassItem.fit_toList (readsItem.moves.offset_le ordered) (item ordered)).append
      (ClassItem.fit_toList (resumes.moves.offset_le orderedItem) ?_)).append
        (more (resumes.ordered orderedItem))
    intro value member
    rcases Option.map_eq_some_iff.mp member with ⟨node, found, rfl⟩
    exact fit_child (errors node found)

theorem Production.fits_classBody :
    Production.classBody.Inherits State.Normal FitsFrom := by
  intro state value next reads parts ordered
  cases parts with
  | classBodyMissing => exact Assembly.fits_leaf (ordered.fits_fail _)
  | classBodyWritten taken readsItems _ _ items _ closing =>
    have orderedOpening := taken.ordered ordered
    exact Assembly.fits_ofParts ((fit_token (taken.fits ordered)).append
      ((items orderedOpening).append (closing (readsItems.ordered orderedOpening)))) nofun

theorem Production.fits_declaration :
    Production.declaration.Inherits State.Normal FitsFrom := by
  intro state value next reads parts ordered
  cases parts with
  | declarationInstance taken readsName readsParent _ _ name _ parent _ body =>
    rintro _ ⟨⟩
    have orderedKeyword := taken.ordered ordered
    have orderedName := readsName.ordered orderedKeyword
    refine Assembly.fits_ofParts ?_ nofun
    rw [List.append_assoc]
    exact (((fit_token (taken.fits ordered)).append (fit_leaf (name orderedKeyword))).append
      (parent orderedName)).append (body (readsParent.ordered orderedName))
  | declarationPrototype taken readsName opens readsParent closes _ _ name _ opening _ parent _
    closing _ body =>
    rintro _ ⟨⟩
    have orderedKeyword := taken.ordered ordered
    have orderedName := readsName.ordered orderedKeyword
    have orderedOpening := opens.ordered orderedName
    have orderedParent := readsParent.ordered orderedOpening
    exact Assembly.fits_ofParts ((((fit_token (taken.fits ordered)).append
      (fit_leaf (name orderedKeyword))).append (opening orderedName)).append
        ((fit_leaf (parent orderedOpening)).append
          ((closing orderedParent).append (body (closes.ordered orderedParent))))) nofun
  | declarationFunction taken readsType readsName readsParameters _ _ type _ name _ parameters _
    body =>
    rintro _ ⟨⟩
    have orderedKeyword := taken.ordered ordered
    have orderedType := readsType.ordered orderedKeyword
    have orderedName := readsName.ordered orderedType
    exact Assembly.fits_ofParts ((fit_token (taken.fits ordered)).append
      ((fit_leaf (type orderedKeyword)).append ((fit_leaf (name orderedType)).append
        ((fit_child (parameters orderedName)).append
          (body (readsParameters.ordered orderedName)))))) nofun
  | declarationNamelessClass taken readsName _ _ name =>
    rintro _ ⟨⟩
    have orderedKeyword := taken.ordered ordered
    exact Assembly.fits_ofParts ((fit_token (taken.fits ordered)).append
      ((fit_leaf (name orderedKeyword)).append
        (fit_child (Assembly.fits_leaf (readsName.ordered orderedKeyword).fits_anchor)))) nofun
  | declarationUnfinishedClass taken readsName _ _ _ _ name _ body =>
    rintro _ ⟨⟩
    have orderedKeyword := taken.ordered ordered
    exact Assembly.fits_ofParts ((fit_token (taken.fits ordered)).append
      ((fit_leaf (name orderedKeyword)).append
        (fit_child (body (readsName.ordered orderedKeyword))))) nofun
  | declarationClass taken readsName _ readsBody _ _ _ name _ body _ semicolon =>
    rintro _ ⟨⟩
    have orderedKeyword := taken.ordered ordered
    have orderedName := readsName.ordered orderedKeyword
    exact Assembly.fits_ofParts ((fit_token (taken.fits ordered)).append
      ((fit_leaf (name orderedKeyword)).append ((fit_child (body orderedName)).append
        (semicolon (readsBody.ordered orderedName))))) nofun
  | declarationVariable _ _ declaration =>
    rintro _ ⟨⟩
    exact declaration ordered
  | declarationRejected => rintro _ ⟨⟩

theorem Production.fits_declarations :
    Production.declarations.Inherits State.Normal FitsFrom := by
  intro state value next reads parts ordered
  cases parts with
  | declarationsEnd => exact fun value member => absurd member List.not_mem_nil
  | @declarationsNext _ item _ skipped _ _ _ _ readsItem resumes _ _ first _ more =>
    have orderedItem := readsItem.ordered ordered
    intro value member
    rw [List.mem_append, List.mem_append, Option.mem_toList, Option.mem_toList] at member
    rcases member with (here | error) | later
    · exact (first ordered value here).overlap
    · rcases Option.map_eq_some_iff.mp error with ⟨node, found, rfl⟩
      exact (resumes.fits orderedItem node found).overlap
    · exact more (resumes.ordered orderedItem) value later

/-- What any production reads fits if its parts do. -/
theorem Production.inherits_fitsFrom (production : Production) :
    production.Inherits State.Normal FitsFrom := by
  cases production with
  | optional token => exact fits_optional token
  | expected token => exact fits_expected token
  | closingBrace => exact fits_closingBrace
  | terminator => exact fits_terminator
  | identifier => exact fits_identifier
  | directName => exact fits_directName
  | typeReference => exact fits_typeReference
  | operation power => exact fits_operation power
  | operators power => exact fits_operators power
  | operand => exact fits_operand
  | primary => exact fits_primary
  | accesses => exact fits_accesses
  | arguments => exact fits_arguments
  | elements isFirst => exact fits_elements isFirst
  | initialValue => exact fits_initialValue
  | arraySize => exact fits_arraySize
  | initializer => exact fits_initializer
  | variableDeclaration => exact fits_variableDeclaration
  | assignmentTail => exact fits_assignmentTail
  | condition => exact fits_condition
  | block => exact fits_block
  | statements => exact fits_statements
  | statement => exact fits_statement
  | branch => exact fits_branch
  | parentClause => exact fits_parentClause
  | instanceBody hasParent => exact fits_instanceBody hasParent
  | declarationBody => exact fits_declarationBody
  | qualifier => exact fits_qualifier
  | parameter => exact fits_parameter
  | parameters => exact fits_parameters
  | parameterList => exact fits_parameterList
  | classItem => exact fits_classItem
  | classItems => exact fits_classItems
  | classBody => exact fits_classBody
  | declaration => exact fits_declaration
  | declarations => exact fits_declarations

/-- Whatever a production yields fits between where the parse was and where it has come to. -/
theorem Derivation.fits {production : Production} {state next : State} {value : production.Value}
    (reads : Reads production state value next) (ordered : state.Ordered) :
    production.Fits state.offset next.offset value :=
  reads.of_inherits Production.inherits_fitsFrom ordered

end ScriptTree.Grammar
