import ScriptTree.Proofs.Grammar.Motion

/-!
# Tokens that a production avoids

Most productions never take a keyword of a declaration that cannot be nested,
whatever went wrong before: no list reads past one, and no skip passes over one,
at any depth of braces.  Phrases without an initializer take no brace either.
-/

namespace ScriptTree

/-- Tokens that give a program its outline: braces, and the keywords of declarations that cannot be
nested. -/
def Token.isStructural : Token → Bool
  | .lBrace | .rBrace => true
  | token => token.isTopLevelOnly

theorem Token.isStructural_of_isTopLevelOnly {token : Token}
    (topLevel : token.isTopLevelOnly = true) : token.isStructural = true := by
  cases token <;> simp_all [isStructural, isTopLevelOnly]

theorem Token.ne_of_isStructural (own : Token) {token : Token} (plain : own.isStructural = false)
    (structural : token.isStructural = true) : own ≠ token := by
  rintro rfl
  rw [structural] at plain
  cases plain

theorem Token.ne_lBrace_of_isTopLevelOnly {token : Token}
    (topLevel : token.isTopLevelOnly = true) : .lBrace ≠ token := by
  rintro rfl
  cases topLevel

theorem Token.ne_rBrace_of_isTopLevelOnly {token : Token}
    (topLevel : token.isTopLevelOnly = true) : .rBrace ≠ token := by
  rintro rfl
  cases topLevel

namespace Grammar

/-- Whether a production takes no such token, whatever lexemes it is begun with. -/
def Production.avoids : Production → Token → Bool
  | .optional own, token | .expected own, token => own != token
  | .closingBrace, token => .rBrace != token
  | .declaration, _ | .declarations, _ => false
  | .initialValue, token | .initializer, token | .variableDeclaration, token
  | .block, token | .statements, token | .statement, token | .branch, token
  | .instanceBody _, token | .declarationBody, token
  | .classItem, token | .classItems, token | .classBody, token => token.isTopLevelOnly
  | _, token => token.isStructural

/-- How many lexemes with a token are left. -/
def State.count (token : Token) (state : State) : Nat :=
  state.rest.countP fun lexeme => lexeme.token = token

variable {state next : State} {token : Token}

theorem State.count_eq {first second : State} (same : first.rest = second.rest) :
    first.count token = second.count token := by
  rw [State.count, State.count, same]

/-- A failure takes no token. -/
@[simp]
theorem State.count_fail (state : State) (expected : Expectation) :
    (state.fail expected).count token = state.count token :=
  State.count_eq (State.rest_fail ..)

@[simp]
theorem State.count_reportMissing (state : State) (missing : Token) :
    (state.reportMissing missing).count token = state.count token :=
  State.count_eq (State.rest_reportMissing ..)

@[simp]
theorem State.count_reject (state : State) (production : String) :
    (state.reject production).count token = state.count token :=
  State.count_eq (State.rest_reject ..)

@[simp]
theorem State.count_checkTarget (state : State) (target : Expression) :
    (state.checkTarget target).count token = state.count token :=
  State.count_eq (State.rest_checkTarget ..)

/-! ## Taking a lexeme -/

section

variable {α : Type} {recognize : Token → Option α} {value : α} {lexeme : Lexeme}

/-- What refuses a token leaves all lexemes with it. -/
theorem Taking.count (taken : Takes state recognize value lexeme next)
    (refused : recognize token = none) : next.count token = state.count token := by
  have different : lexeme.token ≠ token := by
    intro same
    have recognized := taken.recognized
    rw [same, refused] at recognized
    cases recognized
  rw [State.count, State.count, taken.front, List.countP_cons_of_neg (by simpa using different)]

end

/-- What takes some other token keeps the count. -/
theorem Taking.count_only {own : Token} {lexeme : Lexeme}
    (taken : Takes state (State.only own) () lexeme next) (different : own ≠ token) :
    next.count token = state.count token :=
  taken.count (only_eq_none different.symm)

/-- A test that recognizes no brace and no keyword that cannot be nested. -/
def RefusesStructure {α : Type} (recognize : Token → Option α) : Prop :=
  ∀ token : Token, token.isStructural = true → recognize token = none

theorem refusesStructure_recognizeType : RefusesStructure State.recognizeType := by
  intro token structural
  cases token <;> first | rfl | cases structural

theorem refusesStructure_literal : RefusesStructure Literal.ofToken? := by
  intro token structural
  cases token <;> first | rfl | cases structural

theorem refusesStructure_access : RefusesStructure Access.ofToken? := by
  intro token structural
  cases token <;> first | rfl | cases structural

theorem refusesStructure_operatorFrom? (power : Nat) : RefusesStructure (operatorFrom? power) := by
  intro token structural
  cases token <;> first | rfl | cases structural

theorem refusesStructure_unaryOperator : RefusesStructure UnaryOperator.ofToken? := by
  intro token structural
  cases token <;> first | rfl | cases structural

theorem refusesStructure_assignmentOperator : RefusesStructure AssignmentOperator.ofToken? := by
  intro token structural
  cases token <;> first | rfl | cases structural

theorem refusesStructure_variableKind : RefusesStructure VariableKind.ofToken? := by
  intro token structural
  cases token <;> first | rfl | cases structural

/-! ## Skips -/

/-- A skip stops in front of the keywords that cannot be nested, inside of braces too. -/
theorem SyncLevel.isTopLevelOnly_of_mem_skip {level : SyncLevel} {depth : Nat}
    {lexemes : List Lexeme} {lexeme : Lexeme} (skipped : lexeme ∈ (level.skip depth lexemes).1) :
    lexeme.token.isTopLevelOnly = false := by
  induction lexemes generalizing depth with
  | nil => cases skipped
  | cons first rest ih =>
    have ending : ∀ lexeme ∈ (splitSemicolon rest).1, lexeme.token.isTopLevelOnly = false := by
      intro lexeme member
      unfold splitSemicolon at member
      split at member <;> (try split at member) <;> simp_all [Token.isTopLevelOnly]
    unfold skip at skipped
    split at skipped
    · cases skipped
    · rename_i passed
      have plain : first.token.isTopLevelOnly = false := by
        simp only [stopsAt, Bool.or_eq_true, not_or, Bool.not_eq_true] at passed
        exact passed.1
      split at skipped <;> (try split at skipped) <;>
        simp only [List.mem_cons, List.not_mem_nil, or_false] at skipped <;>
        grind

/-- A skip in a block passes over no token that only the top level knows. -/
theorem Resumes.count {start : State} {skipped : Option ErrorNode}
    (resumes : Resumes .statement start state skipped next) (goesOn : endsList start = false)
    (suffix : state.rest <:+ start.rest) (topLevel : token.isTopLevelOnly = true) :
    next.count token = state.count token := by
  cases resumes with
  | onward => rfl
  | synchronized =>
    have whole := SyncLevel.skip_append .statement 0 state.rest
    have none : (SyncLevel.statement.skip 0 state.rest).1.countP (·.token = token) = 0 := by
      rw [List.countP_eq_zero]
      intro lexeme member same
      have plain := SyncLevel.isTopLevelOnly_of_mem_skip member
      rw [of_decide_eq_true same, topLevel] at plain
      cases plain
    have total := congrArg (List.countP (·.token = token)) whole
    rw [List.countP_append, none, Nat.zero_add] at total
    exact total
  | @skippedOne lexeme rest idle _ front =>
    -- The one lexeme passed over is the one that the list went on at.
    have first : start.rest = lexeme :: rest := by
      rw [← front]
      exact (suffix.eq_of_length_le (Nat.not_lt.mp idle)).symm
    simp only [State.count, State.skipOne, State.passOver]
    rw [front, List.countP_cons_of_neg]
    rw [decide_eq_true_eq]
    rintro rfl
    rw [endsList, State.peek, first] at goesOn
    simp [topLevel] at goesOn

/-! ## Productions -/

/-- Only a production that is named after a structural token looks for it. -/
theorem Token.bne_of_isStructural (own : Token) (plain : own.isStructural = false)
    (structural : token.isStructural = true) : (own != token) = true :=
  bne_iff_ne.mpr (Token.ne_of_isStructural own plain structural)

/-- As many lexemes with an avoided token are left as there were. -/
theorem Derivation.count {production : Production} {value : production.Value}
    (reads : Reads production state value next) (structural : token.isStructural = true)
    (avoided : production.avoids token = true) : next.count token = state.count token := by
  have parenthesis := Token.bne_of_isStructural .rParen rfl structural
  have bracket := Token.bne_of_isStructural .rBracket rfl structural
  have semicolon := Token.bne_of_isStructural .semicolon rfl structural
  have only := fun (own : Token) (plain : own.isStructural = false) =>
    only_eq_none (Token.ne_of_isStructural own plain structural).symm
  have access := refusesStructure_access token structural
  induction reads with
  -- Nothing is taken.
  | optionalAbsent | expectedIdle | terminatorIdle | identifierIdle | operatorsEnd | accessesEnd
  | elementsEnd | arraySizeAbsent | initializerAbsent | statementsEnd | branchRecovering
  | parentAbsent | instanceIdle | bodyIdle | qualifierAbsent | parameterListIdle | classItemsEnd =>
    rfl
  | expectedMissing | closingBraceMissing | terminatorMissing | identifierMissing | nameMissing
  | typeMissing | primaryMissing | blockMissing | statementAbsent | instanceBare
  | parameterListMissing | classBodyMissing => exact State.count_fail ..
  | terminatorGranted => exact State.count_reportMissing ..
  | statementRejected | classRejected => exact State.count_reject ..
  -- Single tokens
  | optionalTaken taken | expectedTaken taken | closingBraceTaken taken =>
    exact taken.count_only (bne_iff_ne.mp avoided)
  | terminatorTaken taken => exact taken.count (only .semicolon rfl)
  | identifierTaken taken | nameTaken taken => exact taken.count (only .identifier rfl)
  | typeTaken taken => exact taken.count (refusesStructure_recognizeType token structural)
  | primaryLiteral taken => exact taken.count (refusesStructure_literal token structural)
  | qualifierWritten taken => exact taken.count (refusesStructure_variableKind token structural)
  -- Expressions
  | operation _ _ operand operators => rw [operators structural, operand structural]
  | operatorsNext taken _ _ operand more =>
    rw [more structural, operand structural,
      taken.count (refusesStructure_operatorFrom? _ token structural)]
  | operandSigned taken _ operand =>
    rw [operand structural, taken.count (refusesStructure_unaryOperator token structural)]
  | operandPlain _ _ _ primary accesses => rw [accesses structural, primary structural]
  | primaryParenthesized taken _ _ inner closing =>
    rw [closing parenthesis, inner structural, taken.count (only .lParen rfl)]
  | accessesIndex taken _ _ _ inner closing more =>
    rw [more structural, closing bracket, inner structural, taken.count access]
  | accessesMember taken _ _ name more =>
    rw [more structural, name structural, taken.count access]
  | accessesEmptyCall taken closes _ more =>
    rw [more structural, closes.count (only .rParen rfl), taken.count access]
  | accessesCall taken _ _ _ arguments more =>
    rw [more structural, arguments structural, taken.count access]
  | argumentsLast _ _ _ argument closing => rw [closing parenthesis, argument structural]
  | argumentsTrailing _ taken closes argument =>
    rw [closes.count (only .rParen rfl), State.count_fail, taken.count (only .comma rfl),
      argument structural]
  | argumentsNext _ taken _ _ argument more =>
    rw [more structural, taken.count (only .comma rfl), argument structural]
  | elementsMissing _ _ _ element | elementsLast _ _ _ _ element => exact element structural
  | elementsNext _ _ _ taken _ element more =>
    rw [more structural, taken.count (only .comma rfl), element structural]
  -- Braces around what avoids the keywords that cannot be nested
  | initialElements taken _ _ items closing =>
    rw [closing (bne_iff_ne.mpr (Token.ne_rBrace_of_isTopLevelOnly avoided)), items structural,
      taken.count_only (Token.ne_lBrace_of_isTopLevelOnly avoided)]
  | blockWritten taken _ _ items closing | classBodyWritten taken _ _ items closing =>
    rw [closing (bne_iff_ne.mpr (Token.ne_rBrace_of_isTopLevelOnly avoided)), items avoided,
      taken.count_only (Token.ne_lBrace_of_isTopLevelOnly avoided)]
  | initialExpression _ _ expression => exact expression structural
  -- Variables and assignments
  | arraySizeWritten taken _ _ size closing =>
    rw [closing bracket, size structural, taken.count (only .lBracket rfl)]
  | initializerWritten taken _ initial => rw [initial avoided, taken.count (only .assign rfl)]
  | variableDeclaration taken _ _ _ _ _ type name size initializer ending =>
    rw [ending structural, initializer avoided, size structural, name structural, type structural,
      taken.count (refusesStructure_variableKind token structural)]
  | assignmentSigned taken _ _ right ending =>
    rw [ending structural, right structural,
      taken.count (refusesStructure_assignmentOperator token structural)]
  | assignmentUnsigned _ _ ending => rw [ending structural, State.count_fail]
  -- Statements
  | conditionBare _ _ _ condition => rw [condition structural, State.count_reportMissing]
  | conditionPlain _ _ condition => exact condition structural
  | statementsNext goesOn readsItem resumes _ item more =>
    rw [more avoided, resumes.count goesOn readsItem.rest_suffix avoided, item avoided]
  | statementIf taken _ _ _ condition consequence =>
    rw [consequence avoided, condition structural, taken.count (only .kwIf rfl)]
  | statementIfElse taken _ _ otherwise _ condition consequence alternative =>
    rw [alternative avoided, otherwise.count (only .kwElse rfl), consequence avoided,
      condition structural, taken.count (only .kwIf rfl)]
  | statementReturn taken _ _ ending =>
    rw [ending structural, taken.count (only .kwReturn rfl)]
  | statementReturnValue taken _ _ _ result ending =>
    rw [ending structural, result structural, taken.count (only .kwReturn rfl)]
  | statementVariable _ declaration => exact declaration avoided
  | statementBlock _ _ block => exact block avoided
  | statementExpression _ _ _ _ expression ending =>
    rw [ending structural, expression structural]
  | statementAssignment _ _ _ _ target tail =>
    rw [tail structural, State.count_checkTarget, target structural]
  | branchBlock _ _ _ _ block last => rw [last semicolon, block avoided]
  | branchStatement _ _ _ statement | branchMissing _ _ _ statement => exact statement avoided
  -- Parts of declarations
  | parentWritten taken _ _ name closing =>
    rw [closing parenthesis, name structural, taken.count (only .lParen rfl)]
  | instanceBlock _ _ _ _ body last => rw [last semicolon, body avoided]
  | instanceForward taken =>
    rw [taken.count (only .semicolon rfl)]
    split
    · rfl
    · exact State.count_reportMissing ..
  | bodyMissing _ _ _ body => exact body avoided
  | bodyWritten _ _ _ _ body last => rw [last semicolon, body avoided]
  | parameter _ _ _ qualifier type name =>
    rw [name structural, type structural, qualifier structural]
  | parametersLast _ _ _ item closing => rw [closing parenthesis, item structural]
  | parametersTrailing _ taken closes item =>
    rw [closes.count (only .rParen rfl), State.count_fail, taken.count (only .comma rfl),
      item structural]
  | parametersNext _ taken _ _ item more =>
    rw [more structural, taken.count (only .comma rfl), item structural]
  | parameterListEmpty taken closes =>
    rw [closes.count (only .rParen rfl), taken.count (only .lParen rfl)]
  | parameterListFilled taken _ _ parameters =>
    rw [parameters structural, taken.count (only .lParen rfl)]
  | classVariable _ declaration => exact declaration avoided
  | classAbandoned _ _ _ target => exact target structural
  | classAssignment _ _ _ _ target tail =>
    rw [tail structural, State.count_checkTarget, target structural]
  | classItemsNext goesOn readsItem resumes _ item more =>
    rw [more avoided, resumes.count goesOn readsItem.rest_suffix avoided, item avoided]
  -- Declarations avoid nothing.
  | declarationInstance | declarationPrototype | declarationFunction | declarationNamelessClass
  | declarationUnfinishedClass | declarationClass | declarationVariable | declarationRejected
  | declarationsEnd | declarationsNext => cases avoided

/-- What a production takes holds no structural token that it avoids. -/
theorem Derivation.exists_taken {production : Production} {value : production.Value}
    (reads : Reads production state value next) :
    ∃ taken, state.rest = taken ++ next.rest ∧
      ∀ lexeme ∈ taken, lexeme.token.isStructural = true →
        production.avoids lexeme.token = false := by
  rcases reads.rest_suffix with ⟨taken, whole⟩
  refine ⟨taken, whole.symm, ?_⟩
  intro lexeme member structural
  cases avoided : production.avoids lexeme.token with
  | false => rfl
  | true =>
    have same := reads.count structural avoided
    rw [State.count, State.count, ← whole, List.countP_append, Nat.right_eq_add,
      List.countP_eq_zero] at same
    exact absurd (decide_eq_true rfl) (same lexeme member)

end Grammar

end ScriptTree
