import ScriptTree.Proofs.Grammar.ReadingBack.Variable

/-!
# Reading statements back

A statement ends in a semicolon, in a brace, or in a branch.  After a branch
there may be a semicolon or an `else`, and the `if` takes it.  So a statement is
read back where no semicolon follows, and no `else` if it could still have one.
The other statements of a list and the brace after them start with other tokens.
-/

namespace ScriptTree.Grammar

open Expression Slot

variable {state : State} {lexemes tail : List Lexeme}

/-- What follows is not taken for a part of the statement in front of it. -/
structure EndsStatement (isOpen : Bool) (tail : List Lexeme) : Prop where
  semicolon : Avoids (State.only .semicolon) tail
  otherwise : isOpen = true → Avoids (State.only .kwElse) tail

/-! ## Conditions -/

theorem readsBack_condition {condition : Expression} (complete : condition.isComplete = true)
    (grouped : condition.isGrouped = true) (parenthesis : condition.startsWithParenthesis = true)
    (faces : state.Faces lexemes) (spells : Spells condition.slots lexemes tail)
    (ends : EndsExpression tail) :
    ReadsBack .condition state (fun found => found.unplaced = condition.unplaced) tail := by
  rcases exists_firstToken? complete with ⟨token, found, -⟩
  have first : token = .lParen := by
    rw [startsWithParenthesis] at parenthesis
    rw [firstToken?] at found
    cases head : condition.slots.head? <;> simp_all
  have atOpening : state.isAt .lParen = true := by
    rw [← first]
    exact faces.isAt_eq_true spells found
  rcases (isReadBack_of_isComplete condition complete grouped).whole faces spells ends
    with ⟨value, next, readsValue, alike, facesNext⟩
  refine ⟨value, next, .conditionPlain ?_ readsValue, alike, facesNext⟩
  rw [atOpening]
  rfl

theorem access_eq_none_of_startsStatement {token : Token} (starts : startsStatement token = true)
    (opening : token ≠ .lParen) : Access.ofToken? token = none := by
  cases found : Access.ofToken? token with
  | none => rfl
  | some access =>
    have same := Access.ofToken?_eq_some_iff.mp found
    cases access with
    | arguments => exact absurd same.symm opening
    | _ =>
      subst same
      cases starts

theorem operator_eq_none_of_startsStatement {token : Token}
    (starts : startsStatement token = true) (plus : token ≠ .plus) (minus : token ≠ .minus) :
    BinaryOperator.ofToken? token = none := by
  cases found : BinaryOperator.ofToken? token with
  | none => rfl
  | some operator =>
    have same := BinaryOperator.ofToken?_eq_some_iff.mp found
    cases operator with
    | add => exact absurd same.symm plus
    | subtract => exact absurd same.symm minus
    | _ =>
      subst same
      cases starts

/-- A branch that stands apart ends the expression in front of it. -/
theorem endsExpression_of_branch {branch : Branch} (complete : branch.isComplete = true)
    (apart : branch.standsApart = true) (spells : Spells branch.slots lexemes tail) :
    EndsExpression lexemes := by
  rcases Branch.exists_firstToken? complete with ⟨token, found, opens⟩
  simp only [Branch.standsApart, found, Bool.and_eq_true, decide_eq_true_eq, ne_eq,
    Option.some.injEq] at apart
  rcases apart with ⟨⟨opening, plus⟩, minus⟩
  constructor
  · exact spells.avoids found (access_eq_none_of_startsStatement opens opening)
  · exact spells.avoids found (operator_eq_none_of_startsStatement opens plus minus)

/-! ## Statements by their form -/

/-- A block is read back wherever it is written. -/
def IsBlockReadBack (block : Block) : Prop :=
  ∀ ⦃state : State⦄ ⦃lexemes tail : List Lexeme⦄, state.Faces lexemes →
    Spells block.slots lexemes tail →
      ReadsBack .block state (fun found => found.unplaced = block.unplaced) tail

/-- A statement is read back wherever it ends. -/
def IsStatementReadBack (statement : Statement) : Prop :=
  ∀ ⦃state : State⦄ ⦃lexemes tail : List Lexeme⦄, state.Faces lexemes →
    Spells statement.slots lexemes tail → EndsStatement statement.endsOpen tail →
      ReadsBack .statement state
        (fun found => found.map Statement.unplaced = some statement.unplaced) tail

/-- A branch is read back wherever its statement ends. -/
def IsBranchReadBack (branch : Branch) : Prop :=
  ∀ ⦃state : State⦄ ⦃lexemes tail : List Lexeme⦄, state.Faces lexemes →
    Spells branch.slots lexemes tail → EndsStatement branch.endsOpen tail →
      ReadsBack .branch state (fun found => found.unplaced = branch.unplaced) tail

/-- Statements are read back up to the closing brace. -/
def AreStatementsReadBack (statements : List Statement) : Prop :=
  ∀ ⦃closing : Option Range⦄ ⦃state : State⦄ ⦃lexemes tail beyond : List Lexeme⦄,
    state.Faces lexemes → Spells (Statement.listSlots statements) lexemes tail →
      Spells (required .rBrace closing) tail beyond →
        ReadsBack .statements state
          (fun found => Statement.listUnplaced found = Statement.listUnplaced statements) tail

theorem isBlockReadBack_written {opening : Range} {statements : List Statement}
    {closing : Option Range} (statementsBack : AreStatementsReadBack statements)
    (closed : closing.isSome = true) : IsBlockReadBack (.written opening statements closing) := by
  intro state lexemes tail faces spells
  rw [Block.slots] at spells
  rcases spells_append.mp spells with ⟨beforeClosing, spellsFront, spellsClosing⟩
  rcases spells_append.mp spellsFront with ⟨afterOpening, spellsOpening, spellsItems⟩
  rcases faces.takes_only spellsOpening with ⟨lexeme, between, taken, -, facesItems⟩
  rcases statementsBack facesItems spellsItems spellsClosing
    with ⟨items, afterItems, readsItems, alike, facesClosing⟩
  rcases readsBack_closingBrace facesClosing spellsClosing closed
    with ⟨place, next, closes, alikeClosing, facesNext⟩
  refine ⟨_, next, .blockWritten taken readsItems closes, ?_, facesNext⟩
  simp only [Block.unplaced, alike, alikeClosing]

theorem isStatementReadBack_assignment {assignment : AssignmentStatement}
    (complete : assignment.isComplete = true) (grouped : assignment.isGrouped = true) :
    IsStatementReadBack (.assignmentStatement assignment) := by
  intro state lexemes tail faces spells _
  rw [Statement.slots] at spells
  have opens : state.peek.any startsExpression = true := by
    simp only [AssignmentStatement.isComplete, Bool.and_eq_true] at complete
    rcases exists_firstToken? complete.1.1.1.1 with ⟨token, found, starts, -⟩
    rw [AssignmentStatement.slots, List.append_assoc, List.append_assoc] at spells
    rw [faces.any_peek spells (firstToken?_append found _), starts]
  rcases readsBack_assignment complete grouped faces spells
    with ⟨target, between, rest, next, readsTarget, normal, atSign, readsTail, alike, facesNext⟩
  have signed : (!between.recovering && between.peek.any Token.isAssignmentOperator) = true := by
    rw [normal, atSign]
    rfl
  refine ⟨_, next, .statementAssignment opens readsTarget signed readsTail, ?_, facesNext⟩
  simp only [Option.map_some, Statement.unplaced, alike]

theorem isStatementReadBack_expression {inner : ExpressionStatement}
    (complete : inner.isComplete = true) (grouped : inner.expression.isGrouped = true) :
    IsStatementReadBack (.expressionStatement inner) := by
  intro state lexemes tail faces spells _
  rw [Statement.slots, ExpressionStatement.slots] at spells
  rw [ExpressionStatement.isComplete, Bool.and_eq_true] at complete
  rcases spells_append.mp spells with ⟨beforeEnd, spellsExpression, spellsEnd⟩
  rcases exists_firstToken? complete.1 with ⟨token, found, starts, -⟩
  have opens : state.peek.any startsExpression = true := by
    rw [faces.any_peek spellsExpression found, starts]
  rcases (isReadBack_of_isComplete inner.expression complete.1 grouped).whole faces spellsExpression
      (endsExpression_of_required spellsEnd rfl rfl)
    with ⟨value, between, readsValue, alike, facesEnd⟩
  have unsigned : (!between.recovering && between.peek.any Token.isAssignmentOperator) = false := by
    rw [facesEnd.any_peek spellsEnd rfl]
    exact Bool.and_false _
  rcases readsBack_terminator facesEnd spellsEnd complete.2
    with ⟨terminator, next, ends, alikeEnd, facesNext⟩
  refine ⟨_, next, .statementExpression opens readsValue unsigned ends, ?_, facesNext⟩
  simp only [Option.map_some, Statement.unplaced, ExpressionStatement.unplaced, alike, alikeEnd]

theorem isStatementReadBack_return {statement : ReturnStatement}
    (complete : statement.isComplete = true)
    (grouped : statement.value.all Expression.isGrouped = true) :
    IsStatementReadBack (.returnStatement statement) := by
  rcases statement with ⟨keyword, value, terminator⟩
  intro state lexemes tail faces spells _
  rw [Statement.slots, ReturnStatement.slots] at spells
  rw [ReturnStatement.isComplete, Bool.and_eq_true] at complete
  rcases spells_append.mp spells with ⟨beforeEnd, spellsFront, spellsEnd⟩
  rcases spells_append.mp spellsFront with ⟨afterKeyword, spellsKeyword, spellsValue⟩
  rcases faces.takes_only spellsKeyword with ⟨lexeme, between, taken, -, facesValue⟩
  cases value with
  | none =>
    cases spells_nil.mp spellsValue
    have bare : between.peek.any startsExpression = false := facesValue.any_peek spellsEnd rfl
    rcases readsBack_terminator facesValue spellsEnd complete.2
      with ⟨place, next, ends, alikeEnd, facesNext⟩
    refine ⟨_, next, .statementReturn taken bare ends, ?_, facesNext⟩
    simp only [Option.map_some, Statement.unplaced, ReturnStatement.unplaced, Option.map_none,
      alikeEnd]
  | some value =>
    rw [Option.elim_some] at spellsValue
    rw [Option.all_some] at complete grouped
    rcases exists_firstToken? complete.1 with ⟨token, found, starts, -⟩
    have opens : between.peek.any startsExpression = true := by
      rw [facesValue.any_peek spellsValue found, starts]
    rcases (isReadBack_of_isComplete value complete.1 grouped).whole facesValue spellsValue
        (endsExpression_of_required spellsEnd rfl rfl)
      with ⟨read, facingEnd, readsValue, alike, facesEnd⟩
    rcases readsBack_terminator facesEnd spellsEnd complete.2
      with ⟨place, next, ends, alikeEnd, facesNext⟩
    refine ⟨_, next, .statementReturnValue taken opens readsValue ends, ?_, facesNext⟩
    simp only [Option.map_some, Statement.unplaced, ReturnStatement.unplaced, alike, alikeEnd]

theorem isStatementReadBack_variable {declaration : VariableDeclaration}
    (complete : declaration.isComplete = true) (grouped : declaration.isGrouped = true) :
    IsStatementReadBack (.variableDeclaration declaration) := by
  intro state lexemes tail faces spells _
  rw [Statement.slots] at spells
  rcases readsBack_variableDeclaration complete grouped faces spells
    with ⟨found, next, readsDeclaration, alike, facesNext⟩
  refine ⟨_, next, .statementVariable readsDeclaration, ?_, facesNext⟩
  simp only [Option.map_some, Statement.unplaced, alike]

theorem isStatementReadBack_block {block : Block} (blockBack : IsBlockReadBack block) :
    IsStatementReadBack (.block block) := by
  intro state lexemes tail faces spells _
  rw [Statement.slots] at spells
  have opens : state.isAt .lBrace = true := faces.isAt_eq_true spells block.firstToken?_slots
  rcases blockBack faces spells with ⟨found, next, readsBlock, alike, facesNext⟩
  refine ⟨_, next, .statementBlock opens readsBlock, ?_, facesNext⟩
  simp only [Option.map_some, Statement.unplaced, alike]

/-! ## Branches -/

theorem isBranchReadBack_block {block : Block} {semicolon : Option Range}
    (blockBack : IsBlockReadBack block) :
    IsBranchReadBack (.written (.block block) semicolon) := by
  intro state lexemes tail faces spells ends
  rw [Branch.slots, Statement.slots] at spells
  rcases spells_append.mp spells with ⟨afterBlock, spellsBlock, spellsSemicolon⟩
  have opens : state.isAt .lBrace = true := faces.isAt_eq_true spellsBlock block.firstToken?_slots
  rcases blockBack faces spellsBlock with ⟨found, between, readsBlock, alike, facesSemicolon⟩
  rcases readsBack_optional facesSemicolon spellsSemicolon ends.semicolon
    with ⟨place, next, readsSemicolon, alikeSemicolon, facesNext⟩
  refine ⟨_, next, .branchBlock faces.clean.normal opens readsBlock readsSemicolon, ?_, facesNext⟩
  simp only [Branch.unplaced, Statement.unplaced, alike, alikeSemicolon]

theorem isBranchReadBack_statement {statement : Statement} {semicolon : Option Range}
    (statementBack : IsStatementReadBack statement) (plain : statement.isBlock = false)
    (complete : (Branch.written statement semicolon).isComplete = true) :
    IsBranchReadBack (.written statement semicolon) := by
  rw [Branch.isComplete, plain, Bool.or_false, Bool.and_eq_true,
    Option.isNone_iff_eq_none] at complete
  rcases complete with ⟨complete, rfl⟩
  intro state lexemes tail faces spells ends
  rw [Branch.slots, allowed, List.append_nil] at spells
  have noBrace : state.isAt .lBrace = false := by
    rcases Statement.exists_firstToken? complete with ⟨token, found, -⟩
    apply faces.isAt_eq_false spells found
    rintro rfl
    exact Statement.firstToken?_ne_lBrace complete plain found
  rw [Branch.endsOpen] at ends
  rcases statementBack faces spells ends with ⟨found, next, readsStatement, alike, facesNext⟩
  rcases Option.map_eq_some_iff.mp alike with ⟨read, rfl, alikeStatement⟩
  refine ⟨_, next, .branchStatement faces.clean.normal noBrace readsStatement, ?_, facesNext⟩
  simp only [Branch.unplaced, alikeStatement]

/-! ## Conditional statements -/

theorem isStatementReadBack_if {keyword : Range} {condition : Expression} {consequence : Branch}
    (complete : condition.isComplete = true) (grouped : condition.isGrouped = true)
    (parenthesis : condition.startsWithParenthesis = true)
    (completeBranch : consequence.isComplete = true) (apart : consequence.standsApart = true)
    (branchBack : IsBranchReadBack consequence) :
    IsStatementReadBack (.ifStatement keyword condition consequence none) := by
  intro state lexemes tail faces spells ends
  rw [Statement.slots] at spells
  rcases spells_append.mp spells with ⟨afterCondition, spellsFront, spellsBranch⟩
  rcases spells_append.mp spellsFront with ⟨afterKeyword, spellsKeyword, spellsCondition⟩
  rcases faces.takes_only spellsKeyword with ⟨lexeme, between, taken, -, facesCondition⟩
  rcases readsBack_condition complete grouped parenthesis facesCondition spellsCondition
      (endsExpression_of_branch completeBranch apart spellsBranch)
    with ⟨value, facingBranch, readsCondition, alike, facesBranch⟩
  have noElse : Avoids (State.only .kwElse) tail := ends.otherwise (by rw [Statement.endsOpen])
  rcases branchBack facesBranch spellsBranch ⟨ends.semicolon, fun _ => noElse⟩
    with ⟨branch, next, readsBranch, alikeBranch, facesNext⟩
  refine ⟨_, next, .statementIf taken readsCondition readsBranch (facesNext.declines noElse), ?_,
    facesNext⟩
  simp only [Option.map_some, Statement.unplaced, alike, alikeBranch]

/-- The `else` belongs to this `if`, since the consequence cannot have it. -/
theorem isStatementReadBack_ifElse {keyword elseKeyword : Range} {condition : Expression}
    {consequence alternative : Branch} (complete : condition.isComplete = true)
    (grouped : condition.isGrouped = true)
    (parenthesis : condition.startsWithParenthesis = true)
    (completeBranch : consequence.isComplete = true) (apart : consequence.standsApart = true)
    (closed : consequence.endsOpen = false) (consequenceBack : IsBranchReadBack consequence)
    (alternativeBack : IsBranchReadBack alternative) :
    IsStatementReadBack
      (.ifStatement keyword condition consequence (some (elseKeyword, alternative))) := by
  intro state lexemes tail faces spells ends
  rw [Statement.slots] at spells
  rcases spells_append.mp spells with ⟨afterElse, spellsFront, spellsAlternative⟩
  rcases spells_append.mp spellsFront with ⟨beforeElse, spellsFront, spellsElse⟩
  rcases spells_append.mp spellsFront with ⟨afterCondition, spellsFront, spellsConsequence⟩
  rcases spells_append.mp spellsFront with ⟨afterKeyword, spellsKeyword, spellsCondition⟩
  rcases faces.takes_only spellsKeyword with ⟨lexeme, between, taken, -, facesCondition⟩
  rcases readsBack_condition complete grouped parenthesis facesCondition spellsCondition
      (endsExpression_of_branch completeBranch apart spellsConsequence)
    with ⟨value, facingBranch, readsCondition, alike, facesConsequence⟩
  have endsConsequence : EndsStatement consequence.endsOpen beforeElse := by
    refine ⟨spellsElse.avoids rfl rfl, fun isOpen => ?_⟩
    rw [closed] at isOpen
    cases isOpen
  rcases consequenceBack facesConsequence spellsConsequence endsConsequence
    with ⟨first, facingElse, readsConsequence, alikeFirst, facesElse⟩
  rcases facesElse.takes_only spellsElse
    with ⟨elseLexeme, facingAlternative, takenElse, -, facesAlternative⟩
  rw [Statement.endsOpen] at ends
  rcases alternativeBack facesAlternative spellsAlternative ends
    with ⟨second, next, readsAlternative, alikeSecond, facesNext⟩
  refine ⟨_, next, .statementIfElse taken readsCondition readsConsequence takenElse
    readsAlternative, ?_, facesNext⟩
  simp only [Option.map_some, Statement.unplaced, alike, alikeFirst, alikeSecond]

/-! ## Lists of statements -/

theorem areStatementsReadBack_nil : AreStatementsReadBack [] := by
  intro closing state lexemes tail beyond faces spells closes
  rw [Statement.listSlots] at spells
  cases spells_nil.mp spells
  have ends : endsList state = true := by
    rw [endsList, faces.peek_eq closes rfl]
    rfl
  exact ⟨[], state, .statementsEnd ends, rfl, faces⟩

theorem endsList_of_startsStatement {token : Token} (starts : startsStatement token = true)
    (first : state.peek = some token) : endsList state = false := by
  rw [endsList, first]
  cases token <;> first | rfl | cases starts

/-- A statement and the closing brace of its list end the statement in front of them. -/
theorem endsStatement_of_statements {statements : List Statement} {closing : Option Range}
    {isOpen : Bool} {beyond : List Lexeme} (complete : Statement.areComplete statements = true)
    (spells : Spells (Statement.listSlots statements) lexemes tail)
    (closes : Spells (required .rBrace closing) tail beyond) : EndsStatement isOpen lexemes := by
  cases statements with
  | nil =>
    rw [Statement.listSlots] at spells
    cases spells_nil.mp spells
    exact ⟨closes.avoids rfl rfl, fun _ => closes.avoids rfl rfl⟩
  | cons statement rest =>
    rw [Statement.areComplete, Bool.and_eq_true] at complete
    rw [Statement.listSlots] at spells
    rcases Statement.exists_firstToken? complete.1 with ⟨token, found, starts⟩
    have first := firstToken?_append found (Statement.listSlots rest)
    refine ⟨spells.avoids first (only_eq_none ?_), fun _ => spells.avoids first (only_eq_none ?_)⟩
    · rintro rfl
      cases starts
    · rintro rfl
      cases starts

/-- After an item that was read back, its list goes on. -/
theorem State.Faces.resumes {next : State} {slots : List Slot} (facesNext : next.Faces tail)
    (faces : state.Faces lexemes) (spells : Spells slots lexemes tail) (nonempty : slots ≠ [])
    (level : SyncLevel) : Resumes level state next none next := by
  apply Resumes.onward
  · rw [facesNext.rest, faces.rest]
    exact spells.length_lt nonempty
  · exact facesNext.clean.normal

theorem areStatementsReadBack_cons {statement : Statement} {rest : List Statement}
    (complete : statement.isComplete = true) (completeRest : Statement.areComplete rest = true)
    (statementBack : IsStatementReadBack statement) (restBack : AreStatementsReadBack rest) :
    AreStatementsReadBack (statement :: rest) := by
  intro closing state lexemes tail beyond faces spells closes
  rw [Statement.listSlots] at spells
  rcases spells_append.mp spells with ⟨afterFirst, spellsFirst, spellsRest⟩
  rcases Statement.exists_firstToken? complete with ⟨token, found, starts⟩
  have goesOn : endsList state = false :=
    endsList_of_startsStatement starts (faces.peek_eq spellsFirst found)
  rcases statementBack faces spellsFirst
      (endsStatement_of_statements completeRest spellsRest closes)
    with ⟨item, between, readsItem, alike, facesRest⟩
  rcases Option.map_eq_some_iff.mp alike with ⟨read, rfl, alikeFirst⟩
  have onward := facesRest.resumes faces spellsFirst (ne_nil_of_firstToken? found) .statement
  rcases restBack facesRest spellsRest closes
    with ⟨more, next, readsMore, alikeMore, facesNext⟩
  refine ⟨_, next, .statementsNext goesOn readsItem onward readsMore, ?_, facesNext⟩
  show Statement.listUnplaced (read :: more) = Statement.listUnplaced (statement :: rest)
  rw [Statement.listUnplaced, Statement.listUnplaced, alikeFirst, alikeMore]

/-! ## All statements -/

mutual

/-- Every complete and grouped block is read back. -/
theorem isBlockReadBack_of_isComplete (block : Block) (complete : block.isComplete = true)
    (grouped : block.isGrouped = true) : IsBlockReadBack block := by
  match block with
  | .missing _ _ => simp [Block.isComplete] at complete
  | .written opening statements closing =>
    rw [Block.isComplete, Bool.and_eq_true] at complete
    rw [Block.isGrouped] at grouped
    exact isBlockReadBack_written
      (areStatementsReadBack_of_areComplete statements complete.1 grouped) complete.2

/-- Every complete and grouped statement is read back. -/
theorem isStatementReadBack_of_isComplete (statement : Statement)
    (complete : statement.isComplete = true)
    (grouped : statement.isGrouped = true) : IsStatementReadBack statement := by
  match statement with
  | .assignmentStatement assignment =>
    rw [Statement.isComplete] at complete
    rw [Statement.isGrouped] at grouped
    exact isStatementReadBack_assignment complete grouped
  | .expressionStatement inner =>
    rw [Statement.isComplete] at complete
    rw [Statement.isGrouped] at grouped
    exact isStatementReadBack_expression complete grouped
  | .ifStatement keyword condition consequence none =>
    simp only [Statement.isComplete, Statement.isGrouped, Bool.and_eq_true] at complete grouped
    exact isStatementReadBack_if complete.1.1 grouped.1.1 complete.1.2 complete.2 grouped.1.2
      (isBranchReadBack_of_isComplete consequence complete.2 grouped.2)
  | .ifStatement keyword condition consequence (some (elseKeyword, alternative)) =>
    simp only [Statement.isComplete, Statement.isGrouped, Bool.and_eq_true, Bool.not_eq_true']
      at complete grouped
    rcases complete with ⟨⟨⟨completeCondition, parenthesis⟩, completeFirst⟩, completeSecond⟩
    rcases grouped with ⟨⟨⟨⟨groupedCondition, apart⟩, groupedFirst⟩, closed⟩, groupedSecond⟩
    exact isStatementReadBack_ifElse completeCondition groupedCondition parenthesis completeFirst
      apart closed (isBranchReadBack_of_isComplete consequence completeFirst groupedFirst)
      (isBranchReadBack_of_isComplete alternative completeSecond groupedSecond)
  | .returnStatement inner =>
    rw [Statement.isComplete] at complete
    rw [Statement.isGrouped] at grouped
    exact isStatementReadBack_return complete grouped
  | .variableDeclaration declaration =>
    rw [Statement.isComplete] at complete
    rw [Statement.isGrouped] at grouped
    exact isStatementReadBack_variable complete grouped
  | .block inner =>
    rw [Statement.isComplete] at complete
    rw [Statement.isGrouped] at grouped
    exact isStatementReadBack_block (isBlockReadBack_of_isComplete inner complete grouped)
  | .error _ => simp [Statement.isComplete] at complete

theorem isBranchReadBack_of_isComplete (branch : Branch) (complete : branch.isComplete = true)
    (grouped : branch.isGrouped = true) : IsBranchReadBack branch := by
  match branch with
  | .missing _ => simp [Branch.isComplete] at complete
  | .written statement semicolon =>
    have whole := complete
    rw [Branch.isComplete, Bool.and_eq_true] at complete
    rw [Branch.isGrouped] at grouped
    cases statement with
    | block inner =>
      rw [Statement.isComplete] at complete
      rw [Statement.isGrouped] at grouped
      exact isBranchReadBack_block (isBlockReadBack_of_isComplete inner complete.1 grouped)
    | _ =>
      exact isBranchReadBack_statement
        (isStatementReadBack_of_isComplete _ complete.1 grouped) rfl whole

theorem areStatementsReadBack_of_areComplete (statements : List Statement)
    (complete : Statement.areComplete statements = true)
    (grouped : Statement.areGrouped statements = true) : AreStatementsReadBack statements := by
  match statements with
  | [] => exact areStatementsReadBack_nil
  | statement :: rest =>
    rw [Statement.areComplete, Bool.and_eq_true] at complete
    rw [Statement.areGrouped, Bool.and_eq_true] at grouped
    exact areStatementsReadBack_cons complete.1 complete.2
      (isStatementReadBack_of_isComplete statement complete.1 grouped.1)
      (areStatementsReadBack_of_areComplete rest complete.2 grouped.2)

end

end ScriptTree.Grammar
