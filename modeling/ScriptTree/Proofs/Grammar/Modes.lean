import ScriptTree.Proofs.Grammar.Motion

/-!
# The mode that productions are begun in

Some productions ask for the mode before they take anything, and stay where they
are while the parse recovers.  The others take whatever they look for, and rely
on being begun in the normal mode.  They always are: they follow a lexeme that was
just taken, a list that is back on track, or a block that was closed.

So a derivation that is begun in the mode its production relies on takes lexemes
in the normal mode only, although most of its rules do not ask.  What the
functions do is the same relation as `Reads`.
-/

namespace ScriptTree.Grammar

/-- Whether a production asks for the mode before it takes anything. -/
def Production.asksForMode : Production → Bool
  | .expected _ | .terminator | .identifier | .operators _ | .accesses | .arraySize | .initializer
  | .branch | .parentClause | .instanceBody _ | .declarationBody | .parameterList => true
  | _ => false

/-- A production is begun in the normal mode, unless it asks for the mode by itself. -/
def Production.SuitsMode (production : Production) (state : State) : Prop :=
  production.asksForMode = false → state.recovering = false

section

variable {permits other : State → Prop} {state next : State}

/-! ## The mode after a block -/

/-- A list of statements or of class members goes on up to where it has to end. -/
theorem Derivation.endsList_next {production : Production} {value : production.Value}
    (reads : Derivation permits production state value next)
    (inner : production = .statements ∨ production = .classItems) :
    endsList next = true := by
  induction reads with
  | statementsEnd ends | classItemsEnd ends => exact ends
  | statementsNext _ _ _ _ _ later | classItemsNext _ _ _ _ _ later => exact later inner
  | _ => rcases inner with same | same <;> cases same

/-- Where a list ends, a missing brace is taken for granted. -/
theorem admitsInsertion_of_endsList (ends : endsList state = true) :
    state.admitsInsertion = true := by
  unfold endsList State.peek at ends
  unfold State.admitsInsertion
  cases first : state.rest.head? with
  | none => rfl
  | some lexeme =>
    cases found : lexeme.token <;>
      simp_all [Token.isTopLevelOnly, Token.isDeclarationKeyword]

/-- Where the list before it ended, a closing brace is read without recovering. -/
theorem Derivation.normal_of_closingBrace {closing : Option Range}
    (closes : Derivation permits .closingBrace state closing next)
    (normal : state.recovering = false) (ends : endsList state = true) :
    next.recovering = false := by
  cases closes with
  | closingBraceTaken taken => exact taken.recovering_next.trans normal
  | closingBraceMissing =>
    rw [State.recovering_fail, normal, admitsInsertion_of_endsList ends]
    rfl

/-- A block that is not missing ends in the normal mode. -/
theorem Derivation.normal_of_block {block : Block}
    (reads : Derivation permits .block state block next) (normal : state.recovering = false)
    (written : block.isMissing = false) : next.recovering = false := by
  cases reads with
  | blockMissing => cases written
  | blockWritten taken readsItems closes =>
    have resumed := readsItems.normal_of_isList rfl (taken.recovering_next.trans normal)
    exact closes.normal_of_closingBrace resumed (readsItems.endsList_next (.inl rfl))

/-- A class body that is not missing ends in the normal mode. -/
theorem Derivation.normal_of_classBody {body : ClassBody}
    (reads : Derivation permits .classBody state body next) (normal : state.recovering = false)
    (written : body.isMissing = false) : next.recovering = false := by
  cases reads with
  | classBodyMissing => cases written
  | classBodyWritten taken readsItems closes =>
    have resumed := readsItems.normal_of_isList rfl (taken.recovering_next.trans normal)
    exact closes.normal_of_closingBrace resumed (readsItems.endsList_next (.inr rfl))

/-- A block is written where a brace stands. -/
theorem Derivation.normal_of_isAt {block : Block}
    (permitted : ∀ {state : State}, state.recovering = false → permits state)
    (reads : Derivation permits .block state block next) (normal : state.recovering = false)
    (opens : state.isAt .lBrace = true) : next.recovering = false := by
  refine reads.normal_of_block normal ?_
  cases reads with
  | blockMissing declined =>
    rcases exists_head_of_isAt opens with ⟨lexeme, first, found⟩
    have refused := declined (permitted normal) lexeme first
    simp [State.only, found] at refused
  | blockWritten => rfl

/-- A qualifier changes nothing about recovering. -/
theorem Derivation.recovering_qualifier {qualifier : Option (VariableKind × Range)}
    (reads : Derivation permits .qualifier state qualifier next) :
    next.recovering = state.recovering := by
  cases reads with
  | qualifierAbsent => rfl
  | qualifierWritten taken => exact taken.recovering_next

/-! ## Which states are permitted does not matter -/

/-- What is read as its production relies on is read where other states are permitted. -/
def Production.DerivedIn (other : State → Prop) (production : Production) (state : State)
    (value : production.Value) (next : State) : Prop :=
  production.SuitsMode state → Derivation other production state value next

/-! ### Productions that leave it to others to take a lexeme, or ask for the mode -/

theorem Production.derivedIn_expected (token : Token) :
    (Production.expected token).Inherits permits (DerivedIn other) := by
  intro state value next reads parts suited
  cases parts with
  | expectedTaken taken => exact .expectedTaken taken
  | expectedMissing missed => exact .expectedMissing missed
  | expectedIdle recovering => exact .expectedIdle recovering

theorem Production.derivedIn_terminator :
    Production.terminator.Inherits permits (DerivedIn other) := by
  intro state value next reads parts suited
  cases parts with
  | terminatorTaken taken => exact .terminatorTaken taken
  | terminatorGranted missed opens => exact .terminatorGranted missed opens
  | terminatorMissing missed plain => exact .terminatorMissing missed plain
  | terminatorIdle recovering => exact .terminatorIdle recovering

theorem Production.derivedIn_identifier :
    Production.identifier.Inherits permits (DerivedIn other) := by
  intro state value next reads parts suited
  cases parts with
  | identifierTaken taken => exact .identifierTaken taken
  | identifierMissing missed => exact .identifierMissing missed
  | identifierIdle recovering => exact .identifierIdle recovering

theorem Production.derivedIn_operation (power : Nat) :
    (Production.operation power).Inherits permits (DerivedIn other) := by
  intro state value next reads parts suited
  cases parts with
  | operation _ _ _ operand _ operators =>
    exact .operation (operand fun _ => suited rfl) (operators nofun)

theorem Production.derivedIn_operators (power : Nat) :
    (Production.operators power).Inherits permits (DerivedIn other) := by
  intro state value next reads parts suited
  cases parts with
  | operatorsEnd declined => exact .operatorsEnd declined
  | operatorsNext taken _ _ _ operand _ more =>
    exact .operatorsNext taken (operand fun _ => taken.normal_next) (more nofun)

theorem Production.derivedIn_accesses :
    Production.accesses.Inherits permits (DerivedIn other) := by
  intro state value next reads parts suited
  cases parts with
  | accessesEnd declined => exact .accessesEnd declined
  | accessesIndex taken _ _ _ _ inner _ closes _ more =>
    exact .accessesIndex taken (inner fun _ => taken.normal_next) (closes nofun) (more nofun)
  | accessesMember taken _ _ _ name _ more =>
    exact .accessesMember taken (name fun _ => taken.normal_next) (more nofun)
  | accessesEmptyCall taken closes _ _ more => exact .accessesEmptyCall taken closes (more nofun)
  | accessesCall taken filled _ _ _ arguments _ more =>
    exact .accessesCall taken filled (arguments fun _ => taken.normal_next) (more nofun)

theorem Production.derivedIn_arguments :
    Production.arguments.Inherits permits (DerivedIn other) := by
  intro state value next reads parts suited
  cases parts with
  | argumentsLast _ declined _ _ argument _ closes =>
    exact .argumentsLast (argument fun _ => suited rfl) declined (closes nofun)
  | argumentsTrailing _ taken closes _ argument =>
    exact .argumentsTrailing (argument fun _ => suited rfl) taken closes
  | argumentsNext _ taken goesOn _ _ argument _ more =>
    exact .argumentsNext (argument fun _ => suited rfl) taken goesOn
      (more fun _ => taken.normal_next)

theorem Production.derivedIn_elements (isFirst : Bool) :
    (Production.elements isFirst).Inherits permits (DerivedIn other) := by
  intro state value next reads parts suited
  cases parts with
  | elementsEnd ends => exact .elementsEnd ends
  | elementsMissing goesOn _ missing _ element =>
    exact .elementsMissing goesOn (element fun _ => suited rfl) missing
  | elementsLast goesOn _ present declined _ element =>
    exact .elementsLast goesOn (element fun _ => suited rfl) present declined
  | elementsNext goesOn _ present taken _ _ element _ more =>
    exact .elementsNext goesOn (element fun _ => suited rfl) present taken
      (more fun _ => taken.normal_next)

theorem Production.derivedIn_arraySize :
    Production.arraySize.Inherits permits (DerivedIn other) := by
  intro state value next reads parts suited
  cases parts with
  | arraySizeAbsent declined => exact .arraySizeAbsent declined
  | arraySizeWritten taken _ _ _ size _ closes =>
    exact .arraySizeWritten taken (size fun _ => taken.normal_next) (closes nofun)

theorem Production.derivedIn_initializer :
    Production.initializer.Inherits permits (DerivedIn other) := by
  intro state value next reads parts suited
  cases parts with
  | initializerAbsent declined => exact .initializerAbsent declined
  | initializerWritten taken _ _ value =>
    exact .initializerWritten taken (value fun _ => taken.normal_next)

theorem Production.derivedIn_condition :
    Production.condition.Inherits permits (DerivedIn other) := by
  intro state value next reads parts suited
  cases parts with
  | conditionBare noOpening opens _ _ condition =>
    exact .conditionBare noOpening opens (condition fun _ => suited rfl)
  | conditionPlain plain _ _ condition =>
    exact .conditionPlain plain (condition fun _ => suited rfl)

theorem Production.derivedIn_statements :
    Production.statements.Inherits permits (DerivedIn other) := by
  intro state value next reads parts suited
  cases parts with
  | statementsEnd ends => exact .statementsEnd ends
  | statementsNext goesOn _ resumes _ _ item _ more =>
    have normal := suited rfl
    exact .statementsNext goesOn (item fun _ => normal) resumes (more fun _ => resumes.normal)

theorem Production.derivedIn_parentClause :
    Production.parentClause.Inherits permits (DerivedIn other) := by
  intro state value next reads parts suited
  cases parts with
  | parentAbsent declined => exact .parentAbsent declined
  | parentWritten taken _ _ _ name _ closes =>
    exact .parentWritten taken (name fun _ => taken.normal_next) (closes nofun)

theorem Production.derivedIn_declarationBody :
    Production.declarationBody.Inherits permits (DerivedIn other) := by
  intro state value next reads parts suited
  cases parts with
  | bodyIdle recovering => exact .bodyIdle recovering
  | bodyMissing normal _ missing _ body => exact .bodyMissing normal (body fun _ => normal) missing
  | bodyWritten normal readsBody written _ _ body _ semicolon =>
    exact .bodyWritten normal (body fun _ => normal) written
      (semicolon fun _ => readsBody.normal_of_block normal written)

theorem Production.derivedIn_parameter :
    Production.parameter.Inherits permits (DerivedIn other) := by
  intro state value next reads parts suited
  cases parts with
  | parameter readsQualifier _ _ _ qualifier _ type _ name =>
    have normal := suited rfl
    exact .parameter (qualifier fun _ => normal)
      (type fun _ => readsQualifier.recovering_qualifier.trans normal) (name nofun)

theorem Production.derivedIn_parameters :
    Production.parameters.Inherits permits (DerivedIn other) := by
  intro state value next reads parts suited
  cases parts with
  | parametersLast _ declined _ _ item _ closes =>
    exact .parametersLast (item fun _ => suited rfl) declined (closes nofun)
  | parametersTrailing _ taken closes _ item =>
    exact .parametersTrailing (item fun _ => suited rfl) taken closes
  | parametersNext _ taken goesOn _ _ item _ more =>
    exact .parametersNext (item fun _ => suited rfl) taken goesOn (more fun _ => taken.normal_next)

theorem Production.derivedIn_parameterList :
    Production.parameterList.Inherits permits (DerivedIn other) := by
  intro state value next reads parts suited
  cases parts with
  | parameterListIdle recovering => exact .parameterListIdle recovering
  | parameterListMissing missed => exact .parameterListMissing missed
  | parameterListEmpty taken closes => exact .parameterListEmpty taken closes
  | parameterListFilled taken filled _ _ parameters =>
    exact .parameterListFilled taken filled (parameters fun _ => taken.normal_next)

theorem Production.derivedIn_classItems :
    Production.classItems.Inherits permits (DerivedIn other) := by
  intro state value next reads parts suited
  cases parts with
  | classItemsEnd ends => exact .classItemsEnd ends
  | classItemsNext goesOn _ resumes _ _ item _ more =>
    have normal := suited rfl
    exact .classItemsNext goesOn (item fun _ => normal) resumes (more fun _ => resumes.normal)

theorem Production.derivedIn_declarations :
    Production.declarations.Inherits permits (DerivedIn other) := by
  intro state value next reads parts suited
  cases parts with
  | declarationsEnd ends => exact .declarationsEnd ends
  | declarationsNext goesOn _ resumes _ _ item _ more =>
    have normal := suited rfl
    exact .declarationsNext goesOn (item fun _ => normal) resumes (more fun _ => resumes.normal)

/-! ### Productions that take a lexeme whatever the mode is -/

section

variable (permitted : ∀ {state : State}, state.recovering = false → permits state)
  (others : ∀ {state : State}, state.recovering = false → other state)

include permitted others

theorem Production.derivedIn_optional (token : Token) :
    (Production.optional token).Inherits permits (DerivedIn other) := by
  intro state value next reads parts suited
  cases parts with
  | optionalTaken taken => exact .optionalTaken (taken.of_permits (others (suited rfl)))
  | optionalAbsent declined => exact .optionalAbsent (fun _ => declined (permitted (suited rfl)))

theorem Production.derivedIn_closingBrace :
    Production.closingBrace.Inherits permits (DerivedIn other) := by
  intro state value next reads parts suited
  cases parts with
  | closingBraceTaken taken =>
    exact .closingBraceTaken (taken.of_permits (others (suited rfl)))
  | closingBraceMissing declined =>
    exact .closingBraceMissing (fun _ => declined (permitted (suited rfl)))

theorem Production.derivedIn_directName :
    Production.directName.Inherits permits (DerivedIn other) := by
  intro state value next reads parts suited
  cases parts with
  | nameTaken taken => exact .nameTaken (taken.of_permits (others (suited rfl)))
  | nameMissing declined => exact .nameMissing (fun _ => declined (permitted (suited rfl)))

theorem Production.derivedIn_typeReference :
    Production.typeReference.Inherits permits (DerivedIn other) := by
  intro state value next reads parts suited
  cases parts with
  | typeTaken taken => exact .typeTaken (taken.of_permits (others (suited rfl)))
  | typeMissing declined => exact .typeMissing (fun _ => declined (permitted (suited rfl)))

theorem Production.derivedIn_operand :
    Production.operand.Inherits permits (DerivedIn other) := by
  intro state value next reads parts suited
  cases parts with
  | operandSigned taken _ _ operand =>
    have normal := suited rfl
    exact .operandSigned (taken.of_permits (others normal))
      (operand fun _ => taken.recovering_next.trans normal)
  | operandPlain declined _ _ _ primary _ accesses =>
    have normal := suited rfl
    exact .operandPlain (fun _ => declined (permitted normal)) (primary fun _ => normal)
      (accesses nofun)

theorem Production.derivedIn_primary :
    Production.primary.Inherits permits (DerivedIn other) := by
  intro state value next reads parts suited
  cases parts with
  | primaryParenthesized taken _ _ _ inner _ closes =>
    have normal := suited rfl
    exact .primaryParenthesized (taken.of_permits (others normal))
      (inner fun _ => taken.recovering_next.trans normal) (closes nofun)
  | primaryLiteral taken => exact .primaryLiteral (taken.of_permits (others (suited rfl)))
  | primaryMissing noOpening declined =>
    have normal := suited rfl
    exact .primaryMissing (fun _ => noOpening (permitted normal))
      (fun _ => declined (permitted normal))

theorem Production.derivedIn_initialValue :
    Production.initialValue.Inherits permits (DerivedIn other) := by
  intro state value next reads parts suited
  cases parts with
  | initialElements taken _ _ _ elements _ closes =>
    have normal := suited rfl
    exact .initialElements (taken.of_permits (others normal))
      (elements fun _ => taken.recovering_next.trans normal) (closes nofun)
  | initialExpression declined _ _ value =>
    have normal := suited rfl
    exact .initialExpression (fun _ => declined (permitted normal)) (value fun _ => normal)

omit permitted in
theorem Production.derivedIn_variableDeclaration :
    Production.variableDeclaration.Inherits permits (DerivedIn other) := by
  intro state value next reads parts suited
  cases parts with
  | variableDeclaration taken _ _ _ _ _ _ type _ name _ size _ initializer _ ends =>
    have normal := suited rfl
    exact .variableDeclaration (taken.of_permits (others normal))
      (type fun _ => taken.recovering_next.trans normal) (name nofun) (size nofun)
      (initializer nofun) (ends nofun)

theorem Production.derivedIn_assignmentTail :
    Production.assignmentTail.Inherits permits (DerivedIn other) := by
  intro state value next reads parts suited
  cases parts with
  | assignmentSigned taken _ _ _ right _ ends =>
    have normal := suited rfl
    exact .assignmentSigned (taken.of_permits (others normal))
      (right fun _ => taken.recovering_next.trans normal) (ends nofun)
  | assignmentUnsigned declined _ _ ends =>
    exact .assignmentUnsigned (fun _ => declined (permitted (suited rfl))) (ends nofun)

theorem Production.derivedIn_block :
    Production.block.Inherits permits (DerivedIn other) := by
  intro state value next reads parts suited
  cases parts with
  | blockMissing declined => exact .blockMissing (fun _ => declined (permitted (suited rfl)))
  | blockWritten taken readsItems _ _ items _ closes =>
    have normal := suited rfl
    exact .blockWritten (taken.of_permits (others normal))
      (items fun _ => taken.recovering_next.trans normal)
      (closes fun _ => readsItems.normal_of_isList rfl (taken.recovering_next.trans normal))

theorem Production.derivedIn_statement :
    Production.statement.Inherits permits (DerivedIn other) := by
  intro state value next reads parts suited
  cases parts with
  | statementIf taken _ _ noElse _ condition _ consequence =>
    have normal := suited rfl
    exact .statementIf (taken.of_permits (others normal))
      (condition fun _ => taken.recovering_next.trans normal) (consequence nofun) noElse
  | statementIfElse taken _ _ otherwise _ _ condition _ consequence _ alternative =>
    have normal := suited rfl
    exact .statementIfElse (taken.of_permits (others normal))
      (condition fun _ => taken.recovering_next.trans normal) (consequence nofun) otherwise
      (alternative nofun)
  | statementReturn taken bare _ _ ends =>
    exact .statementReturn (taken.of_permits (others (suited rfl))) bare (ends nofun)
  | statementReturnValue taken opens _ _ _ value _ ends =>
    have normal := suited rfl
    exact .statementReturnValue (taken.of_permits (others normal)) opens
      (value fun _ => taken.recovering_next.trans normal) (ends nofun)
  | statementVariable _ _ declaration => exact .statementVariable (declaration fun _ => suited rfl)
  | statementBlock opens _ _ block => exact .statementBlock opens (block fun _ => suited rfl)
  | statementExpression opens _ unsigned _ _ expression _ ends =>
    exact .statementExpression opens (expression fun _ => suited rfl) unsigned (ends nofun)
  | statementAssignment opens _ signed _ _ target _ tail =>
    have normal := Bool.not_eq_true' _ ▸ (Bool.and_eq_true_iff.mp signed).1
    exact .statementAssignment opens (target fun _ => suited rfl) signed
      (tail fun _ => (State.recovering_checkTarget ..).trans normal)
  | statementAbsent empty => exact .statementAbsent empty
  | statementRejected nonempty noIf noReturn noKind noBlock noExpression =>
    have normal := suited rfl
    exact .statementRejected nonempty (fun _ => noIf (permitted normal))
      (fun _ => noReturn (permitted normal)) (fun _ => noKind (permitted normal)) noBlock
      noExpression

omit others in
theorem Production.derivedIn_branch :
    Production.branch.Inherits permits (DerivedIn other) := by
  intro state value next reads parts suited
  cases parts with
  | branchRecovering recovering => exact .branchRecovering recovering
  | branchBlock normal opens readsBlock _ _ block _ semicolon =>
    exact .branchBlock normal opens (block fun _ => normal)
      (semicolon fun _ => readsBlock.normal_of_isAt permitted normal opens)
  | branchStatement normal plain _ _ statement =>
    exact .branchStatement normal plain (statement fun _ => normal)
  | branchMissing normal plain _ _ statement =>
    exact .branchMissing normal plain (statement fun _ => normal)

omit others in
theorem Production.derivedIn_instanceBody (hasParent : Bool) :
    (Production.instanceBody hasParent).Inherits permits (DerivedIn other) := by
  intro state value next reads parts suited
  cases parts with
  | instanceIdle recovering => exact .instanceIdle recovering
  | instanceBlock normal opens readsBody _ _ body _ semicolon =>
    exact .instanceBlock normal opens (body fun _ => normal)
      (semicolon fun _ => readsBody.normal_of_isAt permitted normal opens)
  | instanceForward taken => exact .instanceForward taken
  | instanceBare normal noBlock noSemicolon => exact .instanceBare normal noBlock noSemicolon

theorem Production.derivedIn_qualifier :
    Production.qualifier.Inherits permits (DerivedIn other) := by
  intro state value next reads parts suited
  cases parts with
  | qualifierAbsent declined => exact .qualifierAbsent (fun _ => declined (permitted (suited rfl)))
  | qualifierWritten taken =>
    exact .qualifierWritten (taken.of_permits (others (suited rfl)))

omit others in
theorem Production.derivedIn_classItem :
    Production.classItem.Inherits permits (DerivedIn other) := by
  intro state value next reads parts suited
  cases parts with
  | classVariable _ _ declaration => exact .classVariable (declaration fun _ => suited rfl)
  | classAbandoned opens _ recovering _ target =>
    exact .classAbandoned opens (target fun _ => suited rfl) recovering
  | classAssignment opens _ normal _ _ target _ tail =>
    exact .classAssignment opens (target fun _ => suited rfl) normal
      (tail fun _ => (State.recovering_checkTarget ..).trans normal)
  | classRejected noKind noTarget =>
    exact .classRejected (fun _ => noKind (permitted (suited rfl))) noTarget

theorem Production.derivedIn_classBody :
    Production.classBody.Inherits permits (DerivedIn other) := by
  intro state value next reads parts suited
  cases parts with
  | classBodyMissing declined =>
    exact .classBodyMissing (fun _ => declined (permitted (suited rfl)))
  | classBodyWritten taken readsItems _ _ items _ closes =>
    have normal := suited rfl
    exact .classBodyWritten (taken.of_permits (others normal))
      (items fun _ => taken.recovering_next.trans normal)
      (closes fun _ => readsItems.normal_of_isList rfl (taken.recovering_next.trans normal))

theorem Production.derivedIn_declaration :
    Production.declaration.Inherits permits (DerivedIn other) := by
  intro state value next reads parts suited
  cases parts with
  | declarationInstance taken _ _ _ _ name _ parent _ body =>
    have normal := suited rfl
    exact .declarationInstance (taken.of_permits (others normal))
      (name fun _ => taken.recovering_next.trans normal) (parent nofun) (body nofun)
  | declarationPrototype taken _ _ _ _ _ _ name _ opens _ parent _ closes _ body =>
    have normal := suited rfl
    exact .declarationPrototype (taken.of_permits (others normal))
      (name fun _ => taken.recovering_next.trans normal) (opens nofun) (parent nofun)
      (closes nofun) (body nofun)
  | declarationFunction taken _ _ _ _ _ type _ name _ parameters _ body =>
    have normal := suited rfl
    exact .declarationFunction (taken.of_permits (others normal))
      (type fun _ => taken.recovering_next.trans normal) (name nofun) (parameters nofun)
      (body nofun)
  | declarationNamelessClass taken _ recovering _ name =>
    have normal := suited rfl
    exact .declarationNamelessClass (taken.of_permits (others normal))
      (name fun _ => taken.recovering_next.trans normal) recovering
  | declarationUnfinishedClass taken _ normal _ missing _ name _ body =>
    exact .declarationUnfinishedClass (taken.of_permits (others (suited rfl)))
      (name fun _ => taken.recovering_next.trans (suited rfl)) normal (body fun _ => normal) missing
  | declarationClass taken _ normal readsBody written _ _ name _ body _ semicolon =>
    exact .declarationClass (taken.of_permits (others (suited rfl)))
      (name fun _ => taken.recovering_next.trans (suited rfl)) normal (body fun _ => normal) written
      (semicolon fun _ => readsBody.normal_of_classBody normal written)
  | declarationVariable _ _ declaration =>
    exact .declarationVariable (declaration fun _ => suited rfl)
  | declarationRejected declined =>
    exact .declarationRejected (fun _ => declined (permitted (suited rfl)))

/-- Every production passes on that it is derived where other states are permitted. -/
theorem Production.inherits_derivedIn (production : Production) :
    production.Inherits permits (DerivedIn other) := by
  cases production with
  | optional token => exact derivedIn_optional permitted others token
  | expected token => exact derivedIn_expected token
  | closingBrace => exact derivedIn_closingBrace permitted others
  | terminator => exact derivedIn_terminator
  | identifier => exact derivedIn_identifier
  | directName => exact derivedIn_directName permitted others
  | typeReference => exact derivedIn_typeReference permitted others
  | operation power => exact derivedIn_operation power
  | operators power => exact derivedIn_operators power
  | operand => exact derivedIn_operand permitted others
  | primary => exact derivedIn_primary permitted others
  | accesses => exact derivedIn_accesses
  | arguments => exact derivedIn_arguments
  | elements isFirst => exact derivedIn_elements isFirst
  | initialValue => exact derivedIn_initialValue permitted others
  | arraySize => exact derivedIn_arraySize
  | initializer => exact derivedIn_initializer
  | variableDeclaration => exact derivedIn_variableDeclaration others
  | assignmentTail => exact derivedIn_assignmentTail permitted others
  | condition => exact derivedIn_condition
  | block => exact derivedIn_block permitted others
  | statements => exact derivedIn_statements
  | statement => exact derivedIn_statement permitted others
  | branch => exact derivedIn_branch permitted
  | parentClause => exact derivedIn_parentClause
  | instanceBody hasParent => exact derivedIn_instanceBody permitted hasParent
  | declarationBody => exact derivedIn_declarationBody
  | qualifier => exact derivedIn_qualifier permitted others
  | parameter => exact derivedIn_parameter
  | parameters => exact derivedIn_parameters
  | parameterList => exact derivedIn_parameterList
  | classItem => exact derivedIn_classItem permitted
  | classItems => exact derivedIn_classItems
  | classBody => exact derivedIn_classBody permitted others
  | declaration => exact derivedIn_declaration permitted others
  | declarations => exact derivedIn_declarations

/-- As long as the normal mode is permitted, it makes no difference which states are. -/
theorem Derivation.of_permits {production : Production} {value : production.Value}
    (reads : Derivation permits production state value next) (suited : production.SuitsMode state) :
    Derivation other production state value next :=
  reads.of_inherits (Production.inherits_derivedIn permitted others) suited

end

end

/-- A derivation that is begun as its production relies on takes lexemes in the normal mode only,
whether its rules ask for the mode or not. -/
theorem reads_iff {permits : State → Prop}
    (permitted : ∀ {state : State}, state.recovering = false → permits state)
    {production : Production} {state next : State} {value : production.Value}
    (suited : production.SuitsMode state) :
    Reads production state value next ↔ Derivation permits production state value next :=
  ⟨fun reads => reads.of_permits id permitted suited,
    fun reads => reads.of_permits permitted id suited⟩

end ScriptTree.Grammar
