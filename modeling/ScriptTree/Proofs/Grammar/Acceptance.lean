import ScriptTree.Proofs.Grammar.Clean
import ScriptTree.Proofs.Grammar.First

/-!
# What is read without a report

A production that ends with nothing wrong yields something complete, and the
tokens it took are what that is written as.  On every path where a part is
missing something was noted, so such a path does not end clean; what is left are
the paths on which all parts are there.
-/

namespace ScriptTree.Grammar

open Slot

/-- What is not taken yet, without places. -/
def State.marks (state : State) : List Mark :=
  state.rest.map Lexeme.mark

/-! ## Completeness of what productions yield -/

/-- Whether the right operand is complete. -/
@[simp]
def BinaryTail.isComplete (tail : BinaryTail) : Bool :=
  tail.right.isComplete

/-- Whether an access has everything that it needs, its closing bracket and all its arguments
included. -/
def AccessTail.isComplete : AccessTail → Bool
  | .index _ inner closing => inner.isComplete && closing.isSome
  | .member _ name => name.isComplete
  | .call _ items closing =>
    Expression.areComplete items && !hasTrailingComma items && closing.isSome

/-- Whether an operator, a value and a semicolon follow the target of an assignment. -/
@[simp]
def AssignmentTail.isComplete (tail : AssignmentTail) : Bool :=
  tail.sign.isSome && tail.right.isComplete && tail.terminator.isSome

/-- A chain of operations is complete if its first operand and all its tails are. -/
@[simp]
theorem isComplete_foldl_binary (tails : List BinaryTail) (first : Expression) :
    (tails.foldl BinaryTail.onto first).isComplete =
      (first.isComplete && tails.all BinaryTail.isComplete) := by
  induction tails generalizing first with
  | nil => simp
  | cons tail rest ih =>
    simp [ih, BinaryTail.onto, BinaryTail.isComplete, Expression.isComplete, Bool.and_assoc]

/-- A row of accesses is complete if its head and all its tails are. -/
@[simp]
theorem isComplete_foldl_access (tails : List AccessTail) (head : Expression) :
    (tails.foldl AccessTail.onto head).isComplete =
      (head.isComplete && tails.all AccessTail.isComplete) := by
  induction tails generalizing head with
  | nil => simp
  | cons tail rest ih =>
    cases tail <;>
      simp [ih, AccessTail.onto, AccessTail.isComplete, Expression.isComplete, Bool.and_assoc]

/-- Whether everything that a production requires is in what it yields. -/
def Production.isComplete : (production : Production) → production.Value → Bool
  | .optional _, _ => true
  | .expected _, place | .closingBrace, place | .terminator, place => place.isSome
  | .identifier, name | .directName, name => name.isComplete
  | .typeReference, type => type.isComplete
  | .operation _, value | .operand, value | .primary, value => value.isComplete
  | .operators _, tails => tails.all BinaryTail.isComplete
  | .accesses, tails => tails.all AccessTail.isComplete
  | .arguments, (items, closing) =>
    Expression.areComplete items && !items.isEmpty && !hasTrailingComma items && closing.isSome
  | .elements isFirst, (items, gap) =>
    Expression.areComplete items && (!isFirst || !items.isEmpty) && gap.isNone
  | .initialValue, value => value.isCompleteValue
  | .arraySize, value => value.all ArraySize.isComplete
  | .initializer, value => value.all fun initializer => initializer.value.isCompleteValue
  | .variableDeclaration, value => value.isComplete
  | .assignmentTail, tail => tail.isComplete
  | .condition, value => value.isComplete && value.startsWithParenthesis
  | .block, value => value.isComplete
  | .statements, value => Statement.areComplete value
  | .statement, value => value.any Statement.isComplete
  | .branch, value => value.isComplete
  | .parentClause, value => value.all ParentClause.isComplete
  | .instanceBody _, (some body, _) => body.isComplete
  | .instanceBody hasParent, (none, semicolon) => hasParent && semicolon.isSome
  | .declarationBody, (body, _) => body.isComplete
  | .qualifier, _ => true
  | .parameter, value => value.isComplete
  | .parameters, (items, closing) =>
    ParameterList.areComplete items && !items.isEmpty && !hasTrailingComma items &&
      closing.isSome
  | .parameterList, value => value.isComplete
  | .classItem, value => value.any ClassItem.isComplete
  | .classItems, value => value.all ClassItem.isComplete
  | .classBody, value => value.isComplete
  | .declaration, value => value.any Declaration.isComplete
  | .declarations, value => value.all Declaration.isComplete

/-! ## Marks of what is taken -/

section

variable {state next : State} {lexeme : Lexeme}

/-- What was taken is marked in front of what is left. -/
theorem Taking.marks {α : Type} {recognize : Token → Option α} {value : α}
    (taken : Takes state recognize value lexeme next) :
    state.marks = lexeme.mark :: next.marks := by
  rw [State.marks, taken.front]
  rfl

/-- A token with a fixed text is marked by itself. -/
theorem Taking.marks_plain {α : Type} {recognize : Token → Option α} {value : α} {token : Token}
    (taken : Takes state recognize value lexeme next) (found : lexeme.token = token)
    (plain : token.bearsText = false) : state.marks = ⟨token, none⟩ :: next.marks := by
  rw [taken.marks, Lexeme.mark, found, plain]
  rfl

theorem Taking.marks_only {token : Token} (taken : Takes state (State.only token) () lexeme next)
    (plain : token.bearsText = false) : state.marks = ⟨token, none⟩ :: next.marks :=
  taken.marks_plain (only_eq_some_iff.mp taken.recognized) plain

theorem Taking.marks_operator {power : Nat} {operator : BinaryOperator}
    (taken : Takes state (operatorFrom? power) operator lexeme next) :
    state.marks = ⟨operator.token, none⟩ :: next.marks :=
  taken.marks_plain (operatorFrom?_eq_some_iff.mp taken.recognized).1.symm
    (by cases operator <;> rfl)

theorem Taking.marks_sign {operator : UnaryOperator}
    (taken : Takes state UnaryOperator.ofToken? operator lexeme next) :
    state.marks = ⟨operator.token, none⟩ :: next.marks :=
  taken.marks_plain (UnaryOperator.ofToken?_eq_some_iff.mp taken.recognized).symm
    (by cases operator <;> rfl)

theorem Taking.marks_access {access : Access}
    (taken : Takes state Access.ofToken? access lexeme next) :
    state.marks = ⟨access.token, none⟩ :: next.marks :=
  taken.marks_plain (Access.ofToken?_eq_some_iff.mp taken.recognized).symm
    (by cases access <;> rfl)

theorem Taking.marks_assignment {operator : AssignmentOperator}
    (taken : Takes state AssignmentOperator.ofToken? operator lexeme next) :
    state.marks = ⟨operator.token, none⟩ :: next.marks :=
  taken.marks_plain (AssignmentOperator.ofToken?_eq_some_iff.mp taken.recognized).symm
    (by cases operator <;> rfl)

theorem Taking.marks_kind {kind : VariableKind}
    (taken : Takes state VariableKind.ofToken? kind lexeme next) :
    state.marks = ⟨kind.token, none⟩ :: next.marks :=
  taken.marks_plain (VariableKind.ofToken?_eq_some_iff.mp taken.recognized).symm
    (by cases kind <;> rfl)

theorem Taking.marks_start {start : DeclarationStart}
    (taken : Takes state DeclarationStart.ofToken? start lexeme next) :
    state.marks = ⟨start.token, none⟩ :: next.marks :=
  taken.marks_plain (DeclarationStart.ofToken?_eq_some_iff.mp taken.recognized).symm
    (by
      cases start with
      | variableKeyword kind => cases kind <;> rfl
      | _ => rfl)

theorem Taking.marks_name (taken : Takes state (State.only .identifier) () lexeme next) :
    state.marks = ⟨.identifier, some lexeme.text⟩ :: next.marks := by
  rw [taken.marks, Lexeme.mark, only_eq_some_iff.mp taken.recognized]
  rfl

/-- The token of a type is marked as the slots of the type say. -/
theorem Taking.marks_type (taken : Takes state State.recognizeType () lexeme next) :
    state.marks =
      Slot.marks (TypeReference.slots
        ⟨(TypeName.builtin? lexeme.token).getD (.named lexeme.text), lexeme.range⟩) ++
      next.marks := by
  rw [taken.marks, Lexeme.mark]
  rcases recognizeType_eq_some_iff.mp taken.recognized with builtin | named
  · cases found : lexeme.token <;> simp_all [Token.isTypeKeyword] <;> rfl
  · rw [named]
    rfl

/-- A literal that is no error is marked like the token it was recognized in. -/
theorem Taking.marks_literal {literal : Literal}
    (taken : Takes state Literal.ofToken? literal lexeme next)
    (readable : lexeme.token.isError = false) :
    state.marks = Slot.marks (literal.expression lexeme).slots ++ next.marks := by
  have recognized := taken.recognized
  rw [taken.marks, Lexeme.mark]
  cases found : lexeme.token <;> rw [found] at recognized readable <;> cases recognized <;>
    first
      | rfl
      | cases readable

end

/-- The check of a target takes nothing. -/
@[simp]
theorem State.marks_checkTarget (state : State) (target : Expression) :
    (state.checkTarget target).marks = state.marks := by
  unfold State.checkTarget
  split <;> rfl

/-- Moves from one state to another.  If the first one is sound and nothing is wrong at the last
one, then the part that was read is complete, and the tokens that were taken are those of its slots.
-/
structure State.Writes (state : State) (complete : Bool) (slots : List Slot) (next : State) :
    Prop where
  moves : Moves state next
  written : state.Sound → next.Clean →
    complete = true ∧ state.marks = Slot.marks slots ++ next.marks

/-! ## Single steps -/

theorem isComplete_typeReference_of_lexeme (lexeme : Lexeme) :
    TypeReference.isComplete
      ⟨(TypeName.builtin? lexeme.token).getD (.named lexeme.text), lexeme.range⟩ = true := by
  unfold TypeName.builtin?
  split <;> rfl

theorem Taking.isComplete_literal {state next : State} {lexeme : Lexeme} {literal : Literal}
    (taken : Takes state Literal.ofToken? literal lexeme next)
    (readable : lexeme.token.isError = false) (spelled : lexeme.text.isEmpty = false) :
    (literal.expression lexeme).isComplete = true := by
  cases literal with
  | error =>
    have recognized := taken.recognized
    cases found : lexeme.token <;> rw [found] at recognized readable <;> cases recognized <;>
      cases readable
  | identifier =>
    simp [Literal.expression, Identifier.isComplete, Identifier.isMissing, spelled]
  | _ => simp [Literal.expression]

/-- An expression that is missing is not complete. -/
theorem not_isComplete_of_isMissing {expression : Expression}
    (missing : expression.isMissing = true) : ¬expression.isComplete = true := by
  cases expression with
  | error => simp
  | _ => cases missing

theorem not_isComplete_block {block : Block} (missing : block.isMissing = true) :
    ¬block.isComplete = true := by
  cases block with
  | missing => simp
  | written => cases missing

theorem not_isComplete_classBody {body : ClassBody} (missing : body.isMissing = true) :
    ¬body.isComplete = true := by
  cases body with
  | missing => simp [ClassBody.isComplete]
  | written => cases missing

/-- A list goes right on after an element that took something and left nothing wrong. -/
theorem Resumes.of_clean {level : SyncLevel} {start state next : State}
    {skipped : Option ErrorNode} (resumes : Resumes level start state skipped next)
    (clean : state.Clean) (progress : state.rest.length < start.rest.length) :
    skipped = none ∧ next = state := by
  cases resumes with
  | onward => exact ⟨rfl, rfl⟩
  | synchronized cause =>
    rcases cause with ⟨-, recovering⟩ | ⟨idle, -⟩
    · rw [clean.normal] at recovering
      cases recovering
    · exact absurd progress idle
  | skippedOne idle => exact absurd progress idle

/-- Where something was written for some slots, something was taken. -/
theorem length_rest_lt_of_marks {state next : State} {slots : List Slot}
    (written : state.marks = Slot.marks slots ++ next.marks) (nonempty : slots ≠ []) :
    next.rest.length < state.rest.length := by
  have lengths := congrArg List.length written
  have positive := List.length_pos_iff.mpr nonempty
  simp only [State.marks, Slot.marks, List.length_append, List.length_map] at lengths
  omega

/-- The first token of what was taken is the token that stood first. -/
theorem peek_eq_of_marks {state next : State} {slots : List Slot} {token : Token}
    (written : state.marks = Slot.marks slots ++ next.marks)
    (found : firstToken? slots = some token) : state.peek = some token := by
  cases slots with
  | nil => cases found
  | cons slot rest =>
    have first := congrArg (fun marks => marks.head?.map Mark.token) written
    simp only [State.marks, Slot.marks, List.head?_map, Option.map_map, List.map_cons,
      List.cons_append, List.head?_cons] at first
    exact first.trans found

/-- A condition that is not written plainly starts with a parenthesis. -/
theorem startsWithParenthesis_of_marks {state next : State} {condition : Expression}
    (complete : condition.isComplete = true)
    (written : state.marks = Slot.marks condition.slots ++ next.marks)
    (plainly : (!state.isAt .lParen && state.peek.any startsExpression) = false) :
    condition.startsWithParenthesis = true := by
  obtain ⟨token, found, starts, -⟩ := Expression.exists_firstToken? complete
  rw [State.isAt, peek_eq_of_marks written found] at plainly
  have opening : token = .lParen := by simpa [starts] using plainly
  obtain ⟨slot, first, rfl⟩ := Option.map_eq_some_iff.mp found
  simp [Expression.startsWithParenthesis, first, opening]

/-- While the parse recovers it is not clean. -/
theorem not_clean_of_recovering {state : State} (recovering : state.recovering = true) :
    ¬state.Clean := by
  intro clean
  rw [clean.normal] at recovering
  cases recovering

/-- A complete target that is acceptable may be assigned to. -/
theorem isAssignable_of_isAcceptableTarget {target : Expression}
    (acceptable : isAcceptableTarget target = true) (complete : target.isComplete = true) :
    target.isAssignable = true := by
  rw [isAcceptableTarget, Bool.or_eq_true] at acceptable
  refine acceptable.resolve_right fun error => ?_
  cases target with
  | error => simp at complete
  | _ => cases error

/-! ## What is written by parts -/

namespace State.Writes

variable {first second third : State} {complete more : Bool} {slots moreSlots : List Slot}

/-- Where nothing is taken, no slots are written. -/
theorem nothing (state : State) : state.Writes true [] state :=
  ⟨.refl, fun _ _ => ⟨rfl, rfl⟩⟩

/-- Where something went wrong on the way, nothing is claimed. -/
theorem of_spoilt (early : Moves first second) (unclean : ¬second.Clean)
    (late : Moves second third) : first.Writes complete slots third :=
  ⟨early.trans late, fun sound clean => absurd (late.clean (early.sound sound) clean) unclean⟩

theorem fail (state : State) (expected : Expectation) :
    state.Writes complete slots (state.fail expected) :=
  of_spoilt (moves_fail ..) (not_clean_fail _ _) .refl

theorem reportMissing (state : State) (token : Token) :
    state.Writes complete slots (state.reportMissing token) :=
  of_spoilt (moves_reportMissing ..) (not_clean_reportMissing _ _) .refl

theorem reject (state : State) (production : String) :
    state.Writes complete slots (state.reject production) :=
  of_spoilt (acts_reject ..).moves (not_clean_reject _ _) .refl

/-- While the parse recovers, nothing is claimed of what was written. -/
theorem of_recovering (moves : Moves first second) (recovering : second.recovering = true) :
    first.Writes complete slots second :=
  of_spoilt moves (not_clean_of_recovering recovering) .refl

/-- A target that is checked cleanly is acceptable. -/
theorem checkTarget (state : State) (target : Expression) :
    state.Writes (isAcceptableTarget target) [] (state.checkTarget target) :=
  ⟨moves_checkTarget .., fun _ clean =>
    ⟨isAcceptableTarget_of_clean clean, (State.marks_checkTarget ..).symm⟩⟩

/-- One part after another. -/
theorem append (early : first.Writes complete slots second)
    (late : second.Writes more moreSlots third) :
    first.Writes (complete && more) (slots ++ moreSlots) third where
  moves := early.moves.trans late.moves
  written := fun sound clean => by
    have soundSecond := early.moves.sound sound
    rcases late.written soundSecond clean with ⟨completeLate, writtenLate⟩
    rcases early.written sound (late.moves.clean soundSecond clean) with
      ⟨completeEarly, writtenEarly⟩
    refine ⟨by rw [completeEarly, completeLate]; rfl, ?_⟩
    rw [writtenEarly, writtenLate, Slot.marks_append, List.append_assoc]

/-- What follows from the parts being complete is as good. -/
theorem mono (writes : first.Writes complete slots second)
    (whole : complete = true → more = true ∧ Slot.marks moreSlots = Slot.marks slots) :
    first.Writes more moreSlots second where
  moves := writes.moves
  written := fun sound clean => by
    rcases writes.written sound clean with ⟨parts, written⟩
    rcases whole parts with ⟨together, same⟩
    exact ⟨together, by rw [written, same]⟩

/-- What is written depends on the marks of the slots only. -/
theorem congr (writes : first.Writes complete slots second) (whole : more = complete)
    (same : Slot.marks moreSlots = Slot.marks slots) : first.Writes more moreSlots second :=
  writes.mono fun parts => ⟨whole.trans parts, same⟩

/-- An assignment after a target that may be assigned to. -/
theorem onto {target : Expression} {tail : AssignmentTail}
    (left : first.Writes target.isComplete target.slots second)
    (right : (second.checkTarget target).Writes tail.isComplete tail.slots third) :
    first.Writes (tail.onto target).isComplete (tail.onto target).slots third := by
  refine (left.append ((checkTarget second target).append right)).mono fun parts =>
    ⟨?_, by simp [AssignmentTail.onto]⟩
  simp only [Bool.and_eq_true] at parts
  have assignable := isAssignable_of_isAcceptableTarget parts.2.1 parts.1
  simp_all [AssignmentTail.onto]

/-- A list goes on after an element that took something. -/
theorem resume {level : SyncLevel} {resumed : State} {skipped : Option ErrorNode}
    (item : first.Writes complete slots second)
    (resumes : Resumes level first second skipped resumed)
    (later : resumed.Writes more moreSlots third) (nonempty : complete = true → slots ≠ []) :
    first.Writes (complete && skipped.isNone && more) (slots ++ moreSlots) third where
  moves := item.moves.trans (resumes.moves.trans later.moves)
  written := fun sound clean => by
    have soundSecond := item.moves.sound sound
    have cleanSecond := resumes.clean soundSecond
      (later.moves.clean (resumes.sound soundSecond) clean)
    rcases item.written sound cleanSecond with ⟨completeItem, writtenItem⟩
    rcases resumes.of_clean cleanSecond
      (length_rest_lt_of_marks writtenItem (nonempty completeItem)) with ⟨rfl, rfl⟩
    rcases later.written soundSecond clean with ⟨completeMore, writtenMore⟩
    refine ⟨by rw [completeItem, completeMore]; rfl, ?_⟩
    rw [writtenItem, writtenMore, Slot.marks_append, List.append_assoc]

end State.Writes

section

variable {state next : State} {lexeme : Lexeme}

theorem Taking.writes {α : Type} {recognize : Token → Option α} {value : α}
    (taken : Takes state recognize value lexeme next) {token : Token}
    (front : state.marks = ⟨token, none⟩ :: next.marks) :
    state.Writes true (required token (some lexeme.range)) next :=
  ⟨taken.moves, fun _ _ => ⟨rfl, front⟩⟩

theorem Taking.writes_only {token : Token} (taken : Takes state (State.only token) () lexeme next)
    (plain : token.bearsText = false) :
    state.Writes true (required token (some lexeme.range)) next :=
  taken.writes (taken.marks_only plain)

/-- An identifier is complete exactly if its lexeme has a text. -/
theorem Taking.writes_name (taken : Takes state (State.only .identifier) () lexeme next) :
    state.Writes (Identifier.isComplete ⟨lexeme.text, lexeme.range⟩)
      (Identifier.slots ⟨lexeme.text, lexeme.range⟩) next := by
  refine ⟨taken.moves, fun sound _ => ⟨?_, taken.marks_name⟩⟩
  simp [Identifier.isComplete, Identifier.isMissing, sound.spelled _ taken.mem_rest]

theorem Taking.writes_literal {literal : Literal}
    (taken : Takes state Literal.ofToken? literal lexeme next) :
    state.Writes (literal.expression lexeme).isComplete (literal.expression lexeme).slots next := by
  refine ⟨taken.moves, fun sound _ => ?_⟩
  have readable := sound.readable _ taken.mem_rest
  exact ⟨taken.isComplete_literal readable (sound.spelled _ taken.mem_rest),
    taken.marks_literal readable⟩

end

/-- A statement is never written with no slots at all. -/
theorem slots_statement_ne_nil {item : Option Statement}
    (complete : Production.isComplete .statement item = true) :
    Production.slots .statement item ≠ [] := by
  rcases (Option.any_eq_true _ _).mp complete with ⟨statement, rfl, here⟩
  rcases Statement.exists_firstToken? here with ⟨token, found, -⟩
  exact ne_nil_of_firstToken? found

theorem slots_classItem_ne_nil {item : Option ClassItem}
    (complete : Production.isComplete .classItem item = true) :
    Production.slots .classItem item ≠ [] := by
  rcases (Option.any_eq_true _ _).mp complete with ⟨content, rfl, here⟩
  rcases ClassItem.exists_firstToken? here with ⟨token, found, -⟩
  exact ne_nil_of_firstToken? found

theorem slots_declaration_ne_nil {item : Option Declaration}
    (complete : Production.isComplete .declaration item = true) :
    Production.slots .declaration item ≠ [] := by
  rcases (Option.any_eq_true _ _).mp complete with ⟨declaration, rfl, here⟩
  rcases Declaration.exists_firstToken? here with ⟨token, found, -⟩
  exact ne_nil_of_firstToken? found

/-! ## All productions -/

/-- A single token that a production takes has a fixed text, unless it is a name. -/
def Production.IsPlain : Production → Prop
  | .optional token | .expected token => token.bearsText = false
  | _ => True

section

attribute [local simp] Production.isComplete Production.slots Bool.and_assoc

/-- What is read without a report is complete, and it is written as the tokens it took.  On a path
where a part is missing that was reported, so such a path does not end clean. -/
theorem Derivation.writes {production : Production} {state next : State} {value : production.Value}
    (reads : Reads production state value next) (plain : production.IsPlain) :
    state.Writes (production.isComplete value) (production.slots value) next := by
  induction reads with
  -- What is not there was not required.
  | optionalAbsent | operatorsEnd | accessesEnd | elementsEnd | arraySizeAbsent
  | initializerAbsent | statementsEnd | parentAbsent | qualifierAbsent | classItemsEnd
  | declarationsEnd => exact .nothing _
  -- What is missing was reported, and what recovers was not begun clean.
  | expectedMissing | closingBraceMissing | terminatorMissing | identifierMissing | nameMissing
  | typeMissing | primaryMissing | blockMissing | statementAbsent | instanceBare
  | parameterListMissing | classBodyMissing => exact .fail ..
  | statementRejected | classRejected | declarationRejected => exact .reject ..
  | terminatorGranted => exact .reportMissing ..
  | expectedIdle recovering | terminatorIdle recovering | identifierIdle recovering
  | instanceIdle recovering | bodyIdle recovering | parameterListIdle recovering
  | branchRecovering recovering => exact .of_recovering .refl recovering
  | classAbandoned _ readsTarget recovering =>
    exact .of_recovering readsTarget.moves recovering
  -- Single tokens
  | optionalTaken taken | expectedTaken taken => exact taken.writes_only plain
  | terminatorTaken taken | closingBraceTaken taken => exact taken.writes_only rfl
  | identifierTaken taken | nameTaken taken => exact taken.writes_name
  | typeTaken taken =>
    exact ⟨taken.moves, fun _ _ => ⟨isComplete_typeReference_of_lexeme _, taken.marks_type⟩⟩
  | primaryLiteral taken => exact taken.writes_literal
  | qualifierWritten taken => exact taken.writes taken.marks_kind
  -- Expressions
  | operation _ _ operand operators =>
    exact ((operand trivial).append (operators trivial)).congr (by simp) (by simp)
  | operatorsNext taken _ _ operand more =>
    exact ((taken.writes taken.marks_operator).append
      ((operand trivial).append (more trivial))).congr (by simp) (by simp)
  | operandSigned taken _ operand =>
    exact ((taken.writes taken.marks_sign).append (operand trivial)).congr (by simp) (by simp)
  | operandPlain _ _ _ primary accesses =>
    exact ((primary trivial).append (accesses trivial)).congr (by simp) (by simp)
  | primaryParenthesized taken _ _ inner closing =>
    exact ((taken.writes_only rfl).append ((inner trivial).append (closing rfl))).congr
      (by simp) (by simp)
  | accessesIndex taken _ _ _ inner closing more =>
    exact ((taken.writes taken.marks_access).append ((inner trivial).append
      ((closing rfl).append (more trivial)))).congr
        (by simp [AccessTail.isComplete]) (by simp [Access.token])
  | accessesMember taken _ _ name more =>
    exact ((taken.writes taken.marks_access).append ((name trivial).append
      (more trivial))).congr (by simp [AccessTail.isComplete]) (by simp [Access.token])
  | accessesEmptyCall taken closes _ more =>
    exact ((taken.writes taken.marks_access).append ((closes.writes_only rfl).append
      (more trivial))).congr (by simp [AccessTail.isComplete]) (by simp [Access.token])
  | accessesCall taken _ _ _ arguments more =>
    exact ((taken.writes taken.marks_access).append ((arguments trivial).append
      (more trivial))).mono fun parts =>
        ⟨by simp_all [AccessTail.isComplete], by simp [Access.token]⟩
  | argumentsLast _ _ _ argument closing =>
    exact ((argument trivial).append (closing rfl)).congr (by simp) (by simp)
  | argumentsTrailing _ taken closes argument =>
    exact .of_spoilt ((argument trivial).moves.trans (taken.moves.trans (moves_fail ..)))
      (not_clean_fail _ _) closes.moves
  | argumentsNext _ taken _ _ argument more =>
    exact ((argument trivial).append ((taken.writes_only rfl).append (more trivial))).mono
      fun parts => ⟨by simp_all [hasTrailingComma_cons], by simp⟩
  | elementsMissing _ _ missing element =>
    exact (element trivial).mono fun complete =>
      absurd complete (not_isComplete_of_isMissing missing)
  | elementsLast _ _ _ _ element => exact (element trivial).congr (by simp) (by simp)
  | elementsNext _ _ _ taken _ element more =>
    exact ((element trivial).append ((taken.writes_only rfl).append (more trivial))).congr
      (by simp) (by simp)
  | initialElements taken _ _ items closing =>
    exact ((taken.writes_only rfl).append ((items trivial).append (closing rfl))).congr
      (by simp [Bool.and_left_comm]) (by simp)
  | initialExpression _ _ expression =>
    exact (expression trivial).mono fun complete =>
      ⟨Expression.isCompleteValue_of_isComplete complete, rfl⟩
  -- Variables and assignments
  | arraySizeWritten taken _ _ size closing =>
    exact ((taken.writes_only rfl).append ((size trivial).append (closing rfl))).congr
      (by simp) (by simp)
  | initializerWritten taken _ initial =>
    exact ((taken.writes_only rfl).append (initial trivial)).congr (by simp) (by simp)
  | variableDeclaration taken _ _ _ _ _ type name size initializer ending =>
    exact ((taken.writes taken.marks_kind).append ((type trivial).append ((name trivial).append
      ((size trivial).append ((initializer trivial).append (ending trivial)))))).congr
        (by simp) (by simp)
  | assignmentSigned taken _ _ right ending =>
    exact ((taken.writes taken.marks_assignment).append ((right trivial).append
      (ending trivial))).congr (by simp) (by simp)
  | assignmentUnsigned _ _ ending =>
    exact .of_spoilt (moves_fail ..) (not_clean_fail _ _) (ending trivial).moves
  -- Statements
  | conditionBare _ _ _ condition =>
    exact .of_spoilt (moves_reportMissing ..) (not_clean_reportMissing _ _)
      (condition trivial).moves
  | conditionPlain plainly _ condition =>
    refine ⟨(condition trivial).moves, fun sound clean => ?_⟩
    rcases (condition trivial).written sound clean with ⟨complete, written⟩
    exact ⟨Bool.and_eq_true_iff.mpr
      ⟨complete, startsWithParenthesis_of_marks complete written plainly⟩, written⟩
  | blockWritten taken _ _ items closing =>
    exact ((taken.writes_only rfl).append ((items trivial).append (closing trivial))).congr
      (by simp) (by simp)
  | @statementsNext _ item _ skipped _ _ _ _ _ resumes _ first more =>
    refine ((first trivial).resume resumes (more trivial) slots_statement_ne_nil).mono ?_
    cases item <;> cases skipped <;> simp
  | statementIf taken _ _ _ condition consequence =>
    exact ((taken.writes_only rfl).append ((condition trivial).append
      (consequence trivial))).congr (by simp) (by simp)
  | statementIfElse taken _ _ otherwise _ condition consequence alternative =>
    exact ((taken.writes_only rfl).append ((condition trivial).append ((consequence trivial).append
      ((otherwise.writes_only rfl).append (alternative trivial))))).congr (by simp) (by simp)
  | statementReturn taken _ _ ending =>
    exact ((taken.writes_only rfl).append (ending trivial)).congr (by simp) (by simp)
  | statementReturnValue taken _ _ _ result ending =>
    exact ((taken.writes_only rfl).append ((result trivial).append (ending trivial))).congr
      (by simp) (by simp)
  | statementVariable _ declaration => exact (declaration trivial).congr (by simp) (by simp)
  | statementBlock _ _ block => exact (block trivial).congr (by simp) (by simp)
  | statementExpression _ _ _ _ expression ending =>
    exact ((expression trivial).append (ending trivial)).congr (by simp) (by simp)
  | statementAssignment _ _ _ _ target tail =>
    exact ((target trivial).onto (tail trivial)).congr rfl (by simp)
  | branchBlock _ _ _ _ block semicolon =>
    exact ((block trivial).append (semicolon rfl)).congr (by simp [Statement.isBlock]) (by simp)
  | branchStatement _ _ _ statement => exact (statement trivial).congr (by simp) (by simp)
  | branchMissing _ _ _ statement =>
    exact (statement trivial).mono fun complete => absurd complete Bool.false_ne_true
  -- Declarations
  | parentWritten taken _ _ name closing =>
    exact ((taken.writes_only rfl).append ((name trivial).append (closing rfl))).congr
      (by simp) (by simp)
  | instanceBlock _ _ _ _ body semicolon =>
    exact ((body trivial).append (semicolon rfl)).congr (by simp)
      (by simp [InstanceDeclaration.bodySlots])
  | @instanceForward hasParent _ _ _ taken =>
    cases hasParent with
    | false =>
      exact .of_spoilt (moves_reportMissing ..) (not_clean_reportMissing _ _) taken.moves
    | true => exact taken.writes_only rfl
  | bodyMissing _ _ missing body =>
    exact (body trivial).mono fun complete => absurd complete (not_isComplete_block missing)
  | bodyWritten _ _ _ _ body semicolon =>
    exact ((body trivial).append (semicolon rfl)).congr (by simp) (by simp)
  | parameter _ _ _ qualifier type name =>
    exact ((qualifier trivial).append ((type trivial).append (name trivial))).congr
      (by simp) (by simp)
  | parametersLast _ _ _ item closing =>
    exact ((item trivial).append (closing rfl)).congr (by simp) (by simp)
  | parametersTrailing _ taken closes item =>
    exact .of_spoilt ((item trivial).moves.trans (taken.moves.trans (moves_fail ..)))
      (not_clean_fail _ _) closes.moves
  | parametersNext _ taken _ _ item more =>
    exact ((item trivial).append ((taken.writes_only rfl).append (more trivial))).mono
      fun parts => ⟨by simp_all [ParameterList.areComplete, hasTrailingComma_cons],
        by simp [ParameterList.itemSlots]⟩
  | parameterListEmpty taken closes =>
    exact ((taken.writes_only rfl).append (closes.writes_only rfl)).congr
      (by simp [ParameterList.isComplete]) (by simp [ParameterList.slots])
  | parameterListFilled taken _ _ parameters =>
    exact ((taken.writes_only rfl).append (parameters trivial)).mono fun parts =>
      ⟨by simp_all [ParameterList.isComplete], by simp [ParameterList.slots]⟩
  | classVariable _ declaration =>
    exact (declaration trivial).congr (by simp [ClassItem.isComplete, ClassMember.isComplete])
      (by simp [ClassItem.slots, ClassMember.slots])
  | classAssignment _ _ _ _ target tail => exact (target trivial).onto (tail trivial)
  | @classItemsNext _ item _ skipped _ _ _ _ _ resumes _ first more =>
    refine ((first trivial).resume resumes (more trivial) slots_classItem_ne_nil).mono ?_
    cases item <;> cases skipped <;> simp
  | classBodyWritten taken _ _ items closing =>
    exact ((taken.writes_only rfl).append ((items trivial).append (closing trivial))).congr
      (by simp [ClassBody.isComplete]) (by simp [ClassBody.slots])
  | @declarationInstance _ _ _ _ _ _ _ content _ _ taken _ _ _ name parent body =>
    exact ((taken.writes taken.marks_start).append ((name trivial).append
      ((parent trivial).append (body trivial)))).congr
        (by cases content <;> simp [Declaration.isComplete, InstanceDeclaration.isComplete])
        (by simp [Declaration.slots, DeclarationStart.token])
  | declarationPrototype taken _ _ _ _ _ name opening parent closing body =>
    exact ((taken.writes taken.marks_start).append ((name trivial).append ((opening rfl).append
      ((parent trivial).append ((closing rfl).append (body trivial)))))).congr
        (by simp [Declaration.isComplete])
        (by simp [Declaration.slots, DeclarationStart.token])
  | declarationFunction taken _ _ _ _ type name parameters body =>
    exact ((taken.writes taken.marks_start).append ((type trivial).append ((name trivial).append
      ((parameters trivial).append (body trivial))))).congr
        (by simp [Declaration.isComplete]) (by simp [Declaration.slots, DeclarationStart.token])
  | declarationNamelessClass taken readsName recovering =>
    exact .of_recovering (taken.moves.trans readsName.moves) recovering
  | declarationUnfinishedClass taken _ _ _ missing name body =>
    refine ((taken.writes taken.marks_start).append ((name trivial).append (body trivial))).mono
      fun parts => absurd ?_ (not_isComplete_classBody missing)
    simp_all
  | declarationClass taken _ _ _ _ _ name body semicolon =>
    exact ((taken.writes taken.marks_start).append ((name trivial).append ((body trivial).append
      (semicolon rfl)))).congr (by simp [Declaration.isComplete])
        (by simp [Declaration.slots, DeclarationStart.token])
  | declarationVariable _ declaration =>
    exact (declaration trivial).congr (by simp [Declaration.isComplete])
      (by simp [Declaration.slots])
  | @declarationsNext _ item _ skipped _ _ _ _ _ resumes _ first more =>
    refine ((first trivial).resume resumes (more trivial) slots_declaration_ne_nil).mono ?_
    cases item <;> cases skipped <;> simp

end

section

variable {production : Production} {state next : State} {value : production.Value}

/-- Where a parse stays clean, what it read is complete. -/
theorem Derivation.isComplete_of_clean (reads : Reads production state value next)
    (plain : production.IsPlain) (sound : state.Sound) (clean : next.Clean) :
    production.isComplete value = true :=
  ((reads.writes plain).written sound clean).1

/-- Where a parse stays clean, it took the tokens that what it read is written with. -/
theorem Derivation.marks_of_clean (reads : Reads production state value next)
    (plain : production.IsPlain) (sound : state.Sound) (clean : next.Clean) :
    state.marks = Slot.marks (production.slots value) ++ next.marks :=
  ((reads.writes plain).written sound clean).2

end

end ScriptTree.Grammar
