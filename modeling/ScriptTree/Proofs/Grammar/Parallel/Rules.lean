import ScriptTree.Proofs.Grammar.Parallel.State

/-!
# What parallel parses read

Each rule of the grammar that applies in one of two parallel parses applies in
the other one.  So they read the same trees at the same places.
-/

namespace ScriptTree.Grammar

/-! ## What a production yields, in another place -/

/-- An operator and its right operand, in another place. -/
def BinaryTail.mapRanges (move : Range → Range) (tail : BinaryTail) : BinaryTail :=
  ⟨tail.operator, move tail.sign, tail.right.mapRanges move⟩

/-- An access, in another place. -/
def AccessTail.mapRanges (move : Range → Range) : AccessTail → AccessTail
  | .index opening inner closing =>
    .index (move opening) (inner.mapRanges move) (closing.map move)
  | .member dot name => .member (move dot) (name.mapRanges move)
  | .call opening items closing =>
    .call (move opening) (Expression.listMapRanges move items) (closing.map move)

/-- What follows the target of an assignment, in another place. -/
def AssignmentTail.mapRanges (move : Range → Range) (tail : AssignmentTail) : AssignmentTail :=
  ⟨tail.operator, tail.sign.map move, tail.right.mapRanges move, tail.terminator.map move⟩

/-- What a production yields, in another place. -/
@[simp]
def Production.mapRanges (move : Range → Range) :
    (production : Production) → production.Value → production.Value
  | .optional _ | .expected _ | .closingBrace | .terminator => Option.map move
  | .identifier | .directName => Identifier.mapRanges move
  | .typeReference => TypeReference.mapRanges move
  | .operation _ | .operand | .primary | .initialValue | .condition => Expression.mapRanges move
  | .operators _ => List.map (BinaryTail.mapRanges move)
  | .accesses => List.map (AccessTail.mapRanges move)
  | .arguments | .elements _ => fun value =>
    (Expression.listMapRanges move value.1, value.2.map move)
  | .arraySize => Option.map (ArraySize.mapRanges move)
  | .initializer => Option.map (Initializer.mapRanges move)
  | .variableDeclaration => VariableDeclaration.mapRanges move
  | .assignmentTail => AssignmentTail.mapRanges move
  | .block => Block.mapRanges move
  | .statements => List.map (Statement.mapRanges move)
  | .statement => Option.map (Statement.mapRanges move)
  | .branch => Branch.mapRanges move
  | .parentClause => Option.map (ParentClause.mapRanges move)
  | .instanceBody _ => fun value => (value.1.map (Block.mapRanges move), value.2.map move)
  | .declarationBody => fun value => (value.1.mapRanges move, value.2.map move)
  | .qualifier => Option.map fun value => (value.1, move value.2)
  | .parameter => Parameter.mapRanges move
  | .parameters => fun value => (Parameter.listMapRanges move value.1, value.2.map move)
  | .parameterList => ParameterList.mapRanges move
  | .classItem => Option.map (ClassItem.mapRanges move)
  | .classItems => List.map (ClassItem.mapRanges move)
  | .classBody => ClassBody.mapRanges move
  | .declaration => Option.map (Declaration.mapRanges move)
  | .declarations => List.map (Declaration.mapRanges move)

section

variable {move : Range → Range}

/-- A chain of operations is moved operand by operand. -/
theorem BinaryTail.mapRanges_foldl (tails : List BinaryTail) (first : Expression) :
    (tails.foldl BinaryTail.onto first).mapRanges move =
      (tails.map (BinaryTail.mapRanges move)).foldl BinaryTail.onto (first.mapRanges move) := by
  induction tails generalizing first with
  | nil => rfl
  | cons tail rest ih =>
    rw [List.foldl_cons, ih, List.map_cons, List.foldl_cons, onto, Expression.mapRanges]
    rfl

theorem AccessTail.mapRanges_onto (head : Expression) (tail : AccessTail) :
    (tail.onto head).mapRanges move = (tail.mapRanges move).onto (head.mapRanges move) := by
  cases tail <;> rw [onto, Expression.mapRanges] <;> rfl

theorem AccessTail.mapRanges_foldl (tails : List AccessTail) (head : Expression) :
    (tails.foldl AccessTail.onto head).mapRanges move =
      (tails.map (AccessTail.mapRanges move)).foldl AccessTail.onto (head.mapRanges move) := by
  induction tails generalizing head with
  | nil => rfl
  | cons tail rest ih => rw [List.foldl_cons, ih, List.map_cons, List.foldl_cons, mapRanges_onto]

theorem AssignmentTail.mapRanges_onto (target : Expression) (tail : AssignmentTail) :
    (tail.onto target).mapRanges move = (tail.mapRanges move).onto (target.mapRanges move) :=
  rfl

end

namespace Comparison

variable {comparison : Comparison} {state next other : State}

/-- What one parse reads from a state is read by a parallel one, at the same places. -/
def Follows (comparison : Comparison) (production : Production) (value : production.Value)
    (next other : State) : Prop :=
  ∃ valueOther after, Reads production other valueOther after ∧ comparison.Parallel next after ∧
    production.mapRanges comparison.move value =
      production.mapRanges comparison.moveOther valueOther

/-- Whatever parse is parallel at first reads the same, and is parallel then. -/
def Carries (comparison : Comparison) (production : Production) (state : State)
    (value : production.Value) (next : State) : Prop :=
  ∀ ⦃other⦄, comparison.Parallel state other → comparison.Follows production value next other

namespace Matches

variable {lexeme otherLexeme : Lexeme}

/-- Identifiers that match have one text. -/
theorem identifier (same : comparison.Matches otherLexeme lexeme)
    (isName : lexeme.token = .identifier) : lexeme.text = otherLexeme.text :=
  same.text (by rw [isName]; rfl)

/-- A type is named by a keyword, or by the text of a name. -/
theorem typeName (same : comparison.Matches otherLexeme lexeme)
    (recognized : State.recognizeType lexeme.token = some ()) :
    (TypeName.builtin? lexeme.token).getD (.named lexeme.text) =
      (TypeName.builtin? otherLexeme.token).getD (.named otherLexeme.text) := by
  rw [← same.token]
  rcases recognizeType_eq_some_iff.mp recognized with keyword | name
  · cases found : lexeme.token <;> rw [found] at keyword <;> first | rfl | cases keyword
  · rw [same.identifier name]

/-- Literals that match are moved to the same literal. -/
theorem literal (same : comparison.Matches otherLexeme lexeme) {literal : Literal}
    (recognized : Literal.ofToken? lexeme.token = some literal) :
    (literal.expression lexeme).mapRanges comparison.move =
      (literal.expression otherLexeme).mapRanges comparison.moveOther := by
  have placed := same.placed
  cases found : lexeme.token <;> rw [found] at recognized <;>
    simp [Literal.ofToken?, Token.isError] at recognized <;> subst recognized <;>
    simp [Literal.expression, Identifier.mapRanges, ErrorNode.mapRanges, same.range, placed,
      same.text, found, Token.bearsText]

end Matches

section

variable {move moveOther : Range → Range}

/-- What is missing is missing wherever it is. -/
theorem isMissing_eq_of_mapRanges {first second : Expression}
    (same : first.mapRanges move = second.mapRanges moveOther) :
    second.isMissing = first.isMissing := by
  rw [← second.isMissing_mapRanges, ← same, first.isMissing_mapRanges]

theorem isMissing_eq_of_block {first second : Block}
    (same : first.mapRanges move = second.mapRanges moveOther) :
    second.isMissing = first.isMissing := by
  rw [← second.isMissing_mapRanges, ← same, first.isMissing_mapRanges]

theorem isMissing_eq_of_classBody {first second : ClassBody}
    (same : first.mapRanges move = second.mapRanges moveOther) :
    second.isMissing = first.isMissing := by
  rw [← second.isMissing_mapRanges, ← same, first.isMissing_mapRanges]

end

namespace Admits

theorem fail {expected : Expectation} (admits : comparison.Admits (state.fail expected)) :
    comparison.Admits state :=
  admits.before (moves_fail ..)

theorem reportMissing {token : Token} (admits : comparison.Admits (state.reportMissing token)) :
    comparison.Admits state :=
  admits.before (moves_reportMissing ..)

theorem checkTarget {target : Expression} (admits : comparison.Admits (state.checkTarget target)) :
    comparison.Admits state :=
  admits.before (moves_checkTarget ..)

theorem reject {production : String} (admits : comparison.Admits (state.reject production)) :
    comparison.Admits state :=
  admits.before (.single .reject)

end Admits

/-! ## What is carried over in parts -/

namespace Carries

variable {lexeme : Lexeme} {begun between late later last : State}

theorem variableDeclaration {kind : VariableKind} {type : TypeReference} {name : Identifier}
    {size : Option ArraySize} {initializer : Option Initializer} {terminator : Option Range}
    (taken : Takes state VariableKind.ofToken? kind lexeme begun)
    (type_carries : comparison.Carries .typeReference begun type between)
    (name_carries : comparison.Carries .identifier between name late)
    (size_carries : comparison.Carries .arraySize late size later)
    (initializer_carries : comparison.Carries .initializer later initializer last)
    (ends : comparison.Carries .terminator last terminator next) :
    comparison.Carries .variableDeclaration state
      ⟨kind, lexeme.range, type, name, size, initializer, terminator⟩ next := by
  intro other parallel
  rcases parallel.takes taken with ⟨_, _, keyword, sameKeyword, parallel⟩
  rcases type_carries parallel with ⟨_, _, typeOther, parallel, sameType⟩
  rcases name_carries parallel with ⟨_, _, nameOther, parallel, sameName⟩
  rcases size_carries parallel with ⟨_, _, sizeOther, parallel, sameSize⟩
  rcases initializer_carries parallel with ⟨_, _, valueOther, parallel, sameValue⟩
  rcases ends parallel with ⟨_, _, endsOther, parallel, sameEnd⟩
  refine ⟨_, _, .variableDeclaration keyword typeOther nameOther sizeOther valueOther endsOther,
    parallel, ?_⟩
  simp_all [Production.mapRanges, VariableDeclaration.mapRanges, sameKeyword.range]

theorem blockWritten {items : List Statement} {closing : Option Range}
    (taken : Takes state (State.only .lBrace) () lexeme begun)
    (items_carry : comparison.Carries .statements begun items between)
    (closes : comparison.Carries .closingBrace between closing next) :
    comparison.Carries .block state (.written lexeme.range items closing) next := by
  intro other parallel
  rcases parallel.takes taken with ⟨_, _, opening, sameOpening, parallel⟩
  rcases items_carry parallel with ⟨_, _, itemsOther, parallel, sameItems⟩
  rcases closes parallel with ⟨_, _, closesOther, parallel, sameClosing⟩
  refine ⟨_, _, .blockWritten opening itemsOther closesOther, parallel, ?_⟩
  simp_all [Production.mapRanges, Block.mapRanges, Statement.listMapRanges_eq, sameOpening.range]

theorem classBodyWritten {items : List ClassItem} {closing : Option Range}
    (taken : Takes state (State.only .lBrace) () lexeme begun)
    (items_carry : comparison.Carries .classItems begun items between)
    (closes : comparison.Carries .closingBrace between closing next) :
    comparison.Carries .classBody state (.written lexeme.range items closing) next := by
  intro other parallel
  rcases parallel.takes taken with ⟨_, _, opening, sameOpening, parallel⟩
  rcases items_carry parallel with ⟨_, _, itemsOther, parallel, sameItems⟩
  rcases closes parallel with ⟨_, _, closesOther, parallel, sameClosing⟩
  refine ⟨_, _, .classBodyWritten opening itemsOther closesOther, parallel, ?_⟩
  simp_all [Production.mapRanges, ClassBody.mapRanges, sameOpening.range]

theorem instanceBlock {hasParent : Bool} {body : Block} {semicolon : Option Range}
    (normal : state.recovering = false) (opens : ∀ ⦃other⦄, comparison.Parallel state other →
      other.isAt .lBrace = true)
    (body_carries : comparison.Carries .block state body between)
    (semicolon_carries : comparison.Carries (.optional .semicolon) between semicolon next) :
    comparison.Carries (.instanceBody hasParent) state (some body, semicolon) next := by
  intro other parallel
  have normalOther := parallel.mode ▸ normal
  have opensOther := opens parallel
  rcases body_carries parallel with ⟨_, _, bodyOther, parallel, sameBody⟩
  rcases semicolon_carries parallel with ⟨_, _, semicolonOther, parallel, sameSemicolon⟩
  refine ⟨_, _, .instanceBlock normalOther opensOther bodyOther semicolonOther, parallel, ?_⟩
  simp_all [Production.mapRanges]

theorem bodyWritten {body : Block} {semicolon : Option Range}
    (normal : state.recovering = false) (written : body.isMissing = false)
    (body_carries : comparison.Carries .block state body between)
    (semicolon_carries : comparison.Carries (.optional .semicolon) between semicolon next) :
    comparison.Carries .declarationBody state (body, semicolon) next := by
  intro other parallel
  have normalOther := parallel.mode ▸ normal
  rcases body_carries parallel with ⟨_, _, bodyOther, parallel, sameBody⟩
  rcases semicolon_carries parallel with ⟨_, _, semicolonOther, parallel, sameSemicolon⟩
  refine ⟨_, _, .bodyWritten normalOther bodyOther ((isMissing_eq_of_block sameBody).trans written)
    semicolonOther, parallel, ?_⟩
  simp_all [Production.mapRanges]

theorem declarationInstance {name : Identifier} {parent : Option ParentClause}
    {body : Option Block} {semicolon : Option Range}
    (taken : Takes state DeclarationStart.ofToken? .instanceKeyword lexeme begun)
    (name_carries : comparison.Carries .directName begun name between)
    (parent_carries : comparison.Carries .parentClause between parent late)
    (body_carries : comparison.Carries (.instanceBody parent.isSome) late (body, semicolon) next) :
    comparison.Carries .declaration state
      (some (.instanceDeclaration ⟨lexeme.range, name, parent, body, semicolon⟩)) next := by
  intro other parallel
  rcases parallel.takes taken with ⟨_, _, keyword, sameKeyword, parallel⟩
  rcases name_carries parallel with ⟨_, _, nameOther, parallel, sameName⟩
  rcases parent_carries parallel with ⟨_, _, parentOther, parallel, sameParent⟩
  rcases body_carries parallel with ⟨⟨_, _⟩, _, bodyOther, parallel, sameBody⟩
  have hasParent := congrArg Option.isSome sameParent
  simp only [Production.mapRanges, Option.isSome_map] at hasParent
  rw [hasParent] at bodyOther
  refine ⟨_, _, .declarationInstance keyword nameOther parentOther bodyOther, parallel, ?_⟩
  simp_all [Production.mapRanges, Declaration.mapRanges, InstanceDeclaration.mapRanges,
    sameKeyword.range]

theorem declarationPrototype {name parent : Identifier} {opening closing : Option Range}
    {body : Block} {semicolon : Option Range}
    (taken : Takes state DeclarationStart.ofToken? .prototypeKeyword lexeme begun)
    (name_carries : comparison.Carries .directName begun name between)
    (opens : comparison.Carries (.expected .lParen) between opening late)
    (parent_carries : comparison.Carries .identifier late parent later)
    (closes : comparison.Carries (.expected .rParen) later closing last)
    (body_carries : comparison.Carries .declarationBody last (body, semicolon) next) :
    comparison.Carries .declaration state
      (some (.prototypeDeclaration
        ⟨lexeme.range, name, opening, parent, closing, body, semicolon⟩)) next := by
  intro other parallel
  rcases parallel.takes taken with ⟨_, _, keyword, sameKeyword, parallel⟩
  rcases name_carries parallel with ⟨_, _, nameOther, parallel, sameName⟩
  rcases opens parallel with ⟨_, _, opensOther, parallel, sameOpening⟩
  rcases parent_carries parallel with ⟨_, _, parentOther, parallel, sameParent⟩
  rcases closes parallel with ⟨_, _, closesOther, parallel, sameClosing⟩
  rcases body_carries parallel with ⟨⟨_, _⟩, _, bodyOther, parallel, sameBody⟩
  refine ⟨_, _, .declarationPrototype keyword nameOther opensOther parentOther closesOther
    bodyOther, parallel, ?_⟩
  simp_all [Production.mapRanges, Declaration.mapRanges, PrototypeDeclaration.mapRanges,
    sameKeyword.range]

theorem declarationFunction {type : TypeReference} {name : Identifier}
    {parameters : ParameterList} {body : Block} {semicolon : Option Range}
    (taken : Takes state DeclarationStart.ofToken? .functionKeyword lexeme begun)
    (type_carries : comparison.Carries .typeReference begun type between)
    (name_carries : comparison.Carries .identifier between name late)
    (parameters_carry : comparison.Carries .parameterList late parameters later)
    (body_carries : comparison.Carries .declarationBody later (body, semicolon) next) :
    comparison.Carries .declaration state
      (some (.functionDeclaration ⟨lexeme.range, type, name, parameters, body, semicolon⟩))
      next := by
  intro other parallel
  rcases parallel.takes taken with ⟨_, _, keyword, sameKeyword, parallel⟩
  rcases type_carries parallel with ⟨_, _, typeOther, parallel, sameType⟩
  rcases name_carries parallel with ⟨_, _, nameOther, parallel, sameName⟩
  rcases parameters_carry parallel with ⟨_, _, parametersOther, parallel, sameParameters⟩
  rcases body_carries parallel with ⟨⟨_, _⟩, _, bodyOther, parallel, sameBody⟩
  refine ⟨_, _, .declarationFunction keyword typeOther nameOther parametersOther bodyOther,
    parallel, ?_⟩
  simp_all [Production.mapRanges, Declaration.mapRanges, FunctionDeclaration.mapRanges,
    sameKeyword.range]

theorem declarationClass {name : Identifier} {body : ClassBody} {semicolon : Option Range}
    (normal : between.recovering = false) (written : body.isMissing = false)
    (taken : Takes state DeclarationStart.ofToken? .classKeyword lexeme begun)
    (name_carries : comparison.Carries .directName begun name between)
    (body_carries : comparison.Carries .classBody between body late)
    (semicolon_carries : comparison.Carries (.optional .semicolon) late semicolon next) :
    comparison.Carries .declaration state
      (some (.classDeclaration ⟨lexeme.range, name, body, semicolon⟩)) next := by
  intro other parallel
  rcases parallel.takes taken with ⟨_, _, keyword, sameKeyword, parallel⟩
  rcases name_carries parallel with ⟨_, _, nameOther, parallel, sameName⟩
  have normalOther := parallel.mode ▸ normal
  rcases body_carries parallel with ⟨_, _, bodyOther, parallel, sameBody⟩
  rcases semicolon_carries parallel with ⟨_, _, semicolonOther, parallel, sameSemicolon⟩
  refine ⟨_, _, .declarationClass keyword nameOther normalOther bodyOther
    ((isMissing_eq_of_classBody sameBody).trans written) semicolonOther, parallel, ?_⟩
  simp_all [Production.mapRanges, Declaration.mapRanges, ClassDeclaration.mapRanges,
    sameKeyword.range]

theorem declarationVariable {declaration : VariableDeclaration}
    (carries : comparison.Carries .variableDeclaration state declaration next) :
    comparison.Carries .declaration state (some (.variableDeclaration declaration)) next := by
  intro other parallel
  rcases carries parallel with ⟨_, _, readsOther, parallel, same⟩
  refine ⟨_, _, .declarationVariable readsOther, parallel, ?_⟩
  simp only [Production.mapRanges] at same
  simp [Production.mapRanges, Declaration.mapRanges, same]

end Carries

end Comparison

end ScriptTree.Grammar
