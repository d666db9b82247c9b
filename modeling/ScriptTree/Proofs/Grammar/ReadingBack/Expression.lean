import ScriptTree.Proofs.Grammar.Spelling

/-!
# Reading expressions back

Where an operand ends depends on the operators after it, so a chain is not read
back from its parts one after the other.  Instead it is shown how a chain goes
on: whatever operators follow an expression, the chain that begins with it goes
on with them.  The same holds of accesses after a primary.
-/

namespace ScriptTree.Grammar

open Slot Expression

/-- The expression is read back as the front of a chain of operators. -/
def LeadsOperators (power : Nat) (state : State) (expression : Expression)
    (tail : List Lexeme) : Prop :=
  ∃ value next, value.unplaced = expression.unplaced ∧ next.Faces tail ∧
    ∀ more final, Reads (.operators power) next more final →
      Reads (.operation power) state (more.foldl BinaryTail.onto value) final

/-- The expression is read back as the front of a row of accesses. -/
def LeadsAccesses (state : State) (expression : Expression) (tail : List Lexeme) : Prop :=
  ∃ value next, value.unplaced = expression.unplaced ∧ next.Faces tail ∧
    ∀ more final, Reads .accesses next more final →
      Reads .operand state (more.foldl AccessTail.onto value) final

/-- An access is read back, and any accesses can follow it. -/
def LeadsFurther (state : State) (alike : AccessTail → Prop) (tail : List Lexeme) : Prop :=
  ∃ step next, alike step ∧ next.Faces tail ∧
    ∀ more final, Reads .accesses next more final → Reads .accesses state (step :: more) final

/-- An expression ends where no access and no binary operator follows. -/
structure EndsExpression (tail : List Lexeme) : Prop where
  access : Avoids Access.ofToken? tail
  operator : Avoids BinaryOperator.ofToken? tail

theorem Avoids.operatorFrom {tail : List Lexeme} (avoids : Avoids BinaryOperator.ofToken? tail)
    (power : Nat) : Avoids (operatorFrom? power) tail := by
  intro lexeme member
  rw [operatorFrom?, avoids lexeme member]
  rfl

/-- What no operator of some power follows, no operator of a higher power follows. -/
theorem Avoids.mono {low high : Nat} {tail : List Lexeme}
    (avoids : Avoids (operatorFrom? low) tail) (le : low ≤ high) :
    Avoids (operatorFrom? high) tail := by
  intro lexeme member
  have none := avoids lexeme member
  cases found : operatorFrom? high lexeme.token with
  | none => rfl
  | some operator =>
    rcases operatorFrom?_eq_some_iff.mp found with ⟨token, power⟩
    rw [operatorFrom?_eq_some_iff.mpr ⟨token, Nat.le_trans le power⟩] at none
    cases none

/-- An operator that binds less is none for a tighter operand. -/
theorem operatorFrom?_eq_none {power : Nat} {operator : BinaryOperator}
    (weak : operator.power < power) : operatorFrom? power operator.token = none := by
  cases found : operatorFrom? power operator.token with
  | none => rfl
  | some other =>
    rcases operatorFrom?_eq_some_iff.mp found with ⟨token, tight⟩
    have same : operator = other :=
      Option.some.inj ((BinaryOperator.ofToken?_eq_some_iff.mpr rfl).symm.trans
        (BinaryOperator.ofToken?_eq_some_iff.mpr token))
    rw [← same] at tight
    exact absurd tight (Nat.not_le.mpr weak)

/-- An expression ends in front of a token that is neither an access nor an operator. -/
theorem endsExpression_of_required {token : Token} {place : Option Range}
    {lexemes tail : List Lexeme} (spells : Spells (required token place) lexemes tail)
    (noAccess : Access.ofToken? token = none) (noOperator : BinaryOperator.ofToken? token = none) :
    EndsExpression lexemes :=
  ⟨spells.avoids rfl noAccess, spells.avoids rfl noOperator⟩

section

variable {state : State} {lexemes tail : List Lexeme} {expression : Expression}

/-- What leads a row of accesses is read back where no further access follows. -/
theorem LeadsAccesses.readsBack (leads : LeadsAccesses state expression tail)
    (avoids : Avoids Access.ofToken? tail) :
    ReadsBack .operand state (fun value => value.unplaced = expression.unplaced) tail := by
  rcases leads with ⟨value, next, alike, faces, goOn⟩
  exact ⟨value, next, goOn [] next (.accessesEnd (faces.declines avoids)), alike, faces⟩

/-- What leads a chain of operators is read back where no further operator follows. -/
theorem LeadsOperators.readsBack {power : Nat}
    (leads : LeadsOperators power state expression tail)
    (avoids : Avoids (operatorFrom? power) tail) :
    ReadsBack (.operation power) state (fun value => value.unplaced = expression.unplaced)
      tail := by
  rcases leads with ⟨value, next, alike, faces, goOn⟩
  exact ⟨value, next, goOn [] next (.operatorsEnd (faces.declines avoids)), alike, faces⟩

/-- An operand leads any operators. -/
theorem leadsOperators_of_operand
    (reads : ReadsBack .operand state (fun value => value.unplaced = expression.unplaced) tail)
    (power : Nat) : LeadsOperators power state expression tail := by
  rcases reads with ⟨value, next, readsOperand, alike, faces⟩
  exact ⟨value, next, alike, faces, fun _ _ more => .operation readsOperand more⟩

/-- A literal leads any accesses. -/
theorem leadsAccesses_literal {lexeme : Lexeme} (literal : Literal)
    (faces : state.Faces (lexeme :: tail))
    (recognized : Literal.ofToken? lexeme.token = some literal)
    (unsigned : UnaryOperator.ofToken? lexeme.token = none)
    (alike : (literal.expression lexeme).unplaced = expression.unplaced) :
    LeadsAccesses state expression tail := by
  rcases faces.takes recognized with ⟨next, taken, facesNext⟩
  have declined : Declines state UnaryOperator.ofToken? := taken.declines unsigned
  exact ⟨_, next, alike, facesNext,
    fun _ _ more => .operandPlain declined (.primaryLiteral taken) more⟩

/-! ## Expressions by their form -/

/-- A complete and grouped expression is read back wherever it is written. -/
structure IsReadBack (expression : Expression) : Prop where
  accesses : ∀ {state lexemes tail}, state.Faces lexemes →
    Spells expression.slots lexemes tail → plainTightness ≤ expression.tightness →
      LeadsAccesses state expression tail
  operand : ∀ {state lexemes tail}, state.Faces lexemes →
    Spells expression.slots lexemes tail → signedTightness ≤ expression.tightness →
      Avoids Access.ofToken? tail →
        ReadsBack .operand state (fun value => value.unplaced = expression.unplaced) tail
  operators : ∀ {power state lexemes tail}, state.Faces lexemes →
    Spells expression.slots lexemes tail → power ≤ expression.tightness →
      Avoids Access.ofToken? tail → Avoids (operatorFrom? (expression.tightness + 1)) tail →
        LeadsOperators power state expression tail

/-- Where an expression ends, it is read back as an operation. -/
theorem IsReadBack.operation (back : IsReadBack expression) {power : Nat}
    (faces : state.Faces lexemes) (spells : Spells expression.slots lexemes tail)
    (tight : power ≤ expression.tightness) (access : Avoids Access.ofToken? tail)
    (operator : Avoids (operatorFrom? power) tail) :
    ReadsBack (.operation power) state (fun value => value.unplaced = expression.unplaced)
      tail := by
  have looser := operator.mono (Nat.le_succ_of_le tight)
  exact (back.operators faces spells tight access looser).readsBack operator

/-- What is read back is read back as a whole expression, where one ends. -/
theorem IsReadBack.whole (back : IsReadBack expression) (faces : state.Faces lexemes)
    (spells : Spells expression.slots lexemes tail) (ends : EndsExpression tail) :
    ReadsBack (.operation lowestPower) state
      (fun value => value.unplaced = expression.unplaced) tail :=
  back.operation faces spells (lowestPower_le_tightness expression) ends.access
    (ends.operator.operatorFrom lowestPower)

/-- What leads any accesses is read back in every other way too. -/
theorem isReadBack_of_leadsAccesses
    (leads : ∀ {state lexemes tail}, state.Faces lexemes →
      Spells expression.slots lexemes tail → LeadsAccesses state expression tail) :
    IsReadBack expression where
  accesses := fun faces spells _ => leads faces spells
  operand := fun faces spells _ access => (leads faces spells).readsBack access
  operators := fun faces spells _ access _ =>
    leadsOperators_of_operand ((leads faces spells).readsBack access) _

theorem isReadBack_boolean (literal : BooleanLiteral) : IsReadBack (.boolean literal) := by
  apply isReadBack_of_leadsAccesses
  intro state lexemes tail faces spells
  rcases literal with ⟨value, range⟩
  rw [slots] at spells
  rcases spells.required with ⟨lexeme, rfl, found⟩
  apply leadsAccesses_literal (.boolean value) faces
  · rw [found]
    cases value <;> rfl
  · rw [found]
    cases value <;> rfl
  · rfl

/-- A literal that keeps its text is read back with this text. -/
theorem isReadBack_literal (literal : Literal) {token : Token} {text : String}
    {place : Option Range} (written : expression.slots = [{ token, text := some text, place }])
    (recognized : Literal.ofToken? token = some literal)
    (unsigned : UnaryOperator.ofToken? token = none)
    (alike : ∀ lexeme, lexeme.text = text →
      (literal.expression lexeme).unplaced = expression.unplaced) : IsReadBack expression := by
  apply isReadBack_of_leadsAccesses
  intro state lexemes tail faces spells
  rw [written] at spells
  rcases spells_singleton.mp spells with ⟨lexeme, rfl, same⟩
  have found : lexeme.token = token := Lexeme.token_eq_of_mark_eq same
  apply leadsAccesses_literal literal faces
  · rw [found, recognized]
  · rw [found, unsigned]
  · exact alike lexeme (Lexeme.text_eq_of_mark_eq same rfl)

theorem isReadBack_number (literal : NumberLiteral) : IsReadBack (.number literal) := by
  apply isReadBack_literal .number (by rw [slots]) rfl rfl
  intro lexeme text
  rw [Literal.expression, unplaced, unplaced, text]

theorem isReadBack_string (literal : StringNode) : IsReadBack (.string literal) := by
  apply isReadBack_literal .string (by rw [slots]) rfl rfl
  intro lexeme text
  rw [Literal.expression, unplaced, unplaced, text]

theorem isReadBack_identifier (name : Identifier) : IsReadBack (.identifier name) := by
  apply isReadBack_literal .identifier (by rw [slots, Identifier.slots]) rfl rfl
  intro lexeme text
  rw [Literal.expression, unplaced, unplaced, text]
  rfl

/-- An expression in parentheses is read back if the inner one is. -/
theorem isReadBack_parenthesized {opening : Range} {inner : Expression} {closing : Option Range}
    (back : IsReadBack inner) (closed : closing.isSome = true) :
    IsReadBack (.parenthesized opening inner closing) := by
  apply isReadBack_of_leadsAccesses
  intro state lexemes tail faces spells
  rw [slots] at spells
  rcases spells_append.mp spells with ⟨beforeClosing, spellsFront, spellsClosing⟩
  rcases spells_append.mp spellsFront with ⟨afterOpening, spellsOpening, spellsInner⟩
  rcases faces.takes_only spellsOpening with ⟨lexeme, between, taken, found, facesInner⟩
  rcases back.whole facesInner spellsInner (endsExpression_of_required spellsClosing rfl rfl)
    with ⟨value, afterInner, readsInner, alike, facesClosing⟩
  rcases readsBack_expected facesClosing spellsClosing closed
    with ⟨place, next, closes, alikeClosing, facesNext⟩
  have plain : Declines state UnaryOperator.ofToken? := taken.declines (by rw [found]; rfl)
  refine ⟨.parenthesized lexeme.range value place, next, ?_, facesNext, ?_⟩
  · rw [unplaced, unplaced, alike, alikeClosing]
  · intro more final goesOn
    exact .operandPlain plain (.primaryParenthesized taken readsInner closes) goesOn

/-- What an access makes of an expression depends on that expression without its places only. -/
theorem isReadBack_access {head : Expression} {access : List Slot} (back : IsReadBack head)
    (tight : plainTightness ≤ head.tightness) (written : expression.slots = head.slots ++ access)
    (goesOn : ∀ {state : State} {lexemes tail : List Lexeme}, state.Faces lexemes →
      Spells access lexemes tail → LeadsFurther state (fun step => ∀ value : Expression,
        value.unplaced = head.unplaced → (step.onto value).unplaced = expression.unplaced)
        tail) :
    IsReadBack expression := by
  apply isReadBack_of_leadsAccesses
  intro state lexemes tail faces spells
  rw [written] at spells
  rcases spells_append.mp spells with ⟨beforeAccess, spellsHead, spellsAccess⟩
  rcases back.accesses faces spellsHead tight with ⟨value, between, alike, facesAccess, leads⟩
  rcases goesOn facesAccess spellsAccess with ⟨step, next, joins, facesNext, further⟩
  refine ⟨AccessTail.onto value step, next, joins value alike, facesNext, ?_⟩
  intro more final reads
  exact leads (step :: more) final (further more final reads)

/-- An access to an array is read back if the array binds tightly enough. -/
theorem isReadBack_arrayAccess {array index : Expression} {opening : Range}
    {closing : Option Range} (arrayBack : IsReadBack array) (indexBack : IsReadBack index)
    (tight : plainTightness ≤ array.tightness) (closed : closing.isSome = true) :
    IsReadBack (.arrayAccess array opening index closing) := by
  apply isReadBack_access arrayBack tight
    (by rw [slots, List.append_assoc, List.append_assoc])
  intro state lexemes tail faces spells
  rcases spells_append.mp spells with ⟨afterOpening, spellsOpening, spellsIndex⟩
  rcases spells_append.mp spellsIndex with ⟨beforeClosing, spellsIndex, spellsClosing⟩
  rcases faces.takes_required spellsOpening (rfl : Access.ofToken? .lBracket = some .index)
    with ⟨lexeme, between, taken, -, facesIndex⟩
  rcases indexBack.whole facesIndex spellsIndex (endsExpression_of_required spellsClosing rfl rfl)
    with ⟨inner, afterInner, readsInner, alike, facesClosing⟩
  rcases readsBack_expected facesClosing spellsClosing closed
    with ⟨place, next, closes, alikeClosing, facesNext⟩
  refine ⟨.index lexeme.range inner place, next, ?_, facesNext, ?_⟩
  · intro value same
    rw [AccessTail.onto, unplaced, unplaced, same, alike, alikeClosing]
  · intro more final goesOn
    exact .accessesIndex taken readsInner closes goesOn

theorem isReadBack_memberAccess {object : Expression} {dot : Range} {member : Identifier}
    (back : IsReadBack object) (tight : plainTightness ≤ object.tightness) :
    IsReadBack (.memberAccess object dot member) := by
  apply isReadBack_access back tight (by rw [slots, List.append_assoc])
  intro state lexemes tail faces spells
  rcases spells_append.mp spells with ⟨afterDot, spellsDot, spellsMember⟩
  rcases faces.takes_required spellsDot (rfl : Access.ofToken? .dot = some .member)
    with ⟨lexeme, between, taken, -, facesMember⟩
  rcases readsBack_directName facesMember spellsMember
    with ⟨name, next, readsName, alike, facesNext⟩
  refine ⟨.member lexeme.range name, next, ?_, facesNext, ?_⟩
  · intro value same
    rw [AccessTail.onto, unplaced, unplaced, same, alike]
  · intro more final goesOn
    exact .accessesMember taken readsName goesOn

/-- Arguments after the opening parenthesis are read back, up to the closing one. -/
def AreReadBack (items : List (Expression × Option Range)) : Prop :=
  ∀ ⦃closing : Option Range⦄ ⦃state : State⦄ ⦃lexemes tail : List Lexeme⦄, state.Faces lexemes →
    Spells (listSlots items ++ required .rParen closing) lexemes tail →
      closing.isSome = true →
        ReadsBack .arguments state (fun found =>
          listUnplaced found.1 = listUnplaced items ∧ unplaced? found.2 = unplaced? closing) tail

theorem areReadBack_singleton (back : IsReadBack expression) :
    AreReadBack [(expression, none)] := by
  intro closing state lexemes tail faces spells closed
  rw [listSlots, listSlots, List.append_nil] at spells
  rcases spells_append.mp spells with ⟨beforeClosing, spellsItem, spellsClosing⟩
  rw [List.isEmpty_nil, comma, if_pos rfl, allowed, List.append_nil] at spellsItem
  rcases back.whole faces spellsItem (endsExpression_of_required spellsClosing rfl rfl)
    with ⟨value, afterValue, readsValue, alike, facesClosing⟩
  rcases readsBack_expected facesClosing spellsClosing closed
    with ⟨place, next, closes, alikeClosing, facesNext⟩
  have noComma : Declines afterValue (State.only .comma) :=
    facesClosing.declines (spellsClosing.avoids rfl rfl)
  refine ⟨([(value, none)], place), next, .argumentsLast readsValue noComma closes,
    ⟨?_, alikeClosing⟩, facesNext⟩
  show listUnplaced [(value, none)] = listUnplaced [(expression, none)]
  simp only [listUnplaced, alike]

theorem areReadBack_cons {place : Option Range} {item : Expression × Option Range}
    {rest : List (Expression × Option Range)} {token : Token} (back : IsReadBack expression)
    (present : place.isSome = true) (found : firstToken? (listSlots (item :: rest)) = some token)
    (different : token ≠ .rParen) (restBack : AreReadBack (item :: rest)) :
    AreReadBack ((expression, place) :: item :: rest) := by
  intro closing state lexemes tail faces spells closed
  rw [listSlots, List.append_assoc] at spells
  rcases spells_append.mp spells with ⟨afterComma, spellsItem, spellsRest⟩
  rcases spells_append.mp spellsItem with ⟨beforeComma, spellsItem, spellsComma⟩
  rcases back.whole faces spellsItem (endsExpression_of_required spellsComma rfl rfl)
    with ⟨value, afterValue, readsValue, alike, facesComma⟩
  rcases facesComma.takes_only spellsComma with ⟨lexeme, between, taken, -, facesRest⟩
  rcases restBack facesRest spellsRest closed
    with ⟨⟨items, closingPlace⟩, next, readsRest, ⟨alikeRest, alikeClosing⟩, facesNext⟩
  have goesOn : between.isAt .rParen = false :=
    facesRest.isAt_eq_false spellsRest (firstToken?_append found _) different
  refine ⟨((value, some lexeme.range) :: items, closingPlace), next,
    .argumentsNext readsValue taken goesOn readsRest, ⟨?_, alikeClosing⟩, facesNext⟩
  show listUnplaced ((value, some lexeme.range) :: items) =
    listUnplaced ((expression, place) :: item :: rest)
  rw [listUnplaced, listUnplaced, alike, alikeRest, unplaced?_of_isSome present, unplaced?_some]

theorem isReadBack_call_empty {function : Expression} {opening : Range} {closing : Option Range}
    (back : IsReadBack function) (tight : plainTightness ≤ function.tightness)
    (closed : closing.isSome = true) : IsReadBack (.call function opening [] closing) := by
  apply isReadBack_access back tight (by rw [slots, List.append_assoc, List.append_assoc])
  intro state lexemes tail faces spells
  rcases spells_append.mp spells with ⟨afterOpening, spellsOpening, spellsClosing⟩
  rw [listSlots, List.nil_append] at spellsClosing
  rcases faces.takes_required spellsOpening (rfl : Access.ofToken? .lParen = some .arguments)
    with ⟨lexeme, between, taken, -, facesClosing⟩
  rcases facesClosing.takes_only spellsClosing with ⟨closingLexeme, next, closes, -, facesNext⟩
  refine ⟨.call lexeme.range [] (some closingLexeme.range), next, ?_, facesNext, ?_⟩
  · intro value same
    rw [AccessTail.onto, unplaced, unplaced, same, unplaced?_of_isSome closed]
    rfl
  · intro more final goesOn
    exact .accessesEmptyCall taken closes goesOn

theorem isReadBack_call_filled {function : Expression} {opening : Range} {closing : Option Range}
    {items : List (Expression × Option Range)} {token : Token} (back : IsReadBack function)
    (argumentsBack : AreReadBack items) (tight : plainTightness ≤ function.tightness)
    (found : firstToken? (listSlots items) = some token) (different : token ≠ .rParen)
    (closed : closing.isSome = true) : IsReadBack (.call function opening items closing) := by
  apply isReadBack_access back tight (by rw [slots, List.append_assoc, List.append_assoc])
  intro state lexemes tail faces spells
  rcases spells_append.mp spells with ⟨afterOpening, spellsOpening, spellsArguments⟩
  rcases faces.takes_required spellsOpening (rfl : Access.ofToken? .lParen = some .arguments)
    with ⟨lexeme, between, taken, -, facesArguments⟩
  rcases argumentsBack facesArguments spellsArguments closed
    with ⟨⟨read, place⟩, next, readsArguments, ⟨alike, alikeClosing⟩, facesNext⟩
  have filled : between.isAt .rParen = false :=
    facesArguments.isAt_eq_false spellsArguments (firstToken?_append found _) different
  refine ⟨.call lexeme.range read place, next, ?_, facesNext, ?_⟩
  · intro value same
    rw [AccessTail.onto, unplaced, unplaced, same, alike, alikeClosing]
  · intro more final goesOn
    exact .accessesCall taken filled readsArguments goesOn

/-- A signed operand is read back if it binds tightly enough. -/
theorem isReadBack_unary {operator : UnaryOperator} {sign : Range} {operand : Expression}
    (back : IsReadBack operand) (tight : signedTightness ≤ operand.tightness) :
    IsReadBack (.unary operator sign operand) := by
  have readsBack : ∀ {state : State} {lexemes tail : List Lexeme}, state.Faces lexemes →
      Spells (Expression.unary operator sign operand).slots lexemes tail →
        Avoids Access.ofToken? tail →
          ReadsBack .operand state
            (fun value => value.unplaced = (Expression.unary operator sign operand).unplaced)
            tail := by
    intro state lexemes tail faces spells access
    rw [slots] at spells
    rcases spells_append.mp spells with ⟨afterSign, spellsSign, spellsOperand⟩
    rcases faces.takes_required spellsSign (UnaryOperator.ofToken?_eq_some_iff.mpr rfl)
      with ⟨lexeme, between, taken, -, facesOperand⟩
    rcases back.operand facesOperand spellsOperand tight access
      with ⟨value, next, readsOperand, alike, facesNext⟩
    refine ⟨.unary operator lexeme.range value, next, .operandSigned taken readsOperand, ?_,
      facesNext⟩
    show (Expression.unary operator lexeme.range value).unplaced = _
    rw [unplaced, unplaced, alike]
  constructor
  · intro state lexemes tail _ _ plain
    have signed : plainTightness ≤ signedTightness := plain
    exact absurd signed (by decide)
  · intro state lexemes tail faces spells _ access
    exact readsBack faces spells access
  · intro power state lexemes tail faces spells _ access _
    exact leadsOperators_of_operand (readsBack faces spells access) power

/-- A binary operation is read back if its operands bind as its level asks. -/
theorem isReadBack_binary {operator : BinaryOperator} {left right : Expression} {sign : Range}
    (leftBack : IsReadBack left) (rightBack : IsReadBack right)
    (tightLeft : operator.power ≤ left.tightness) (tightRight : operator.power < right.tightness) :
    IsReadBack (.binary operator left sign right) := by
  have loose : operator.power < signedTightness := power_lt_signedTightness operator
  constructor
  · intro state lexemes tail _ _ plain
    exact absurd (Nat.lt_of_lt_of_le loose (Nat.le_trans (by decide) plain)) (Nat.lt_irrefl _)
  · intro state lexemes tail _ _ signed
    exact absurd (Nat.lt_of_lt_of_le loose signed) (Nat.lt_irrefl _)
  · intro power state lexemes tail faces spells tight access stronger
    rw [slots] at spells
    rcases spells_append.mp spells with ⟨afterSign, spellsFront, spellsRight⟩
    rcases spells_append.mp spellsFront with ⟨afterLeft, spellsLeft, spellsSign⟩
    have noAccess : Avoids Access.ofToken? afterLeft :=
      spellsSign.avoids rfl (by cases operator <;> rfl)
    have noStronger : Avoids (operatorFrom? (left.tightness + 1)) afterLeft :=
      spellsSign.avoids rfl (operatorFrom?_eq_none (Nat.lt_succ_of_le tightLeft))
    rcases leftBack.operators faces spellsLeft (Nat.le_trans tight tightLeft) noAccess noStronger
      with ⟨value, between, alikeLeft, facesSign, leads⟩
    rcases facesSign.takes_required spellsSign
        (operatorFrom?_eq_some_iff.mpr ⟨rfl, tight⟩ :
          operatorFrom? power operator.token = some operator)
      with ⟨lexeme, afterTaken, taken, -, facesRight⟩
    rcases rightBack.operation facesRight spellsRight tightRight access stronger
      with ⟨found, next, readsRight, alikeRight, facesNext⟩
    refine ⟨.binary operator value lexeme.range found, next, ?_, facesNext, ?_⟩
    · rw [unplaced, unplaced, alikeLeft, alikeRight]
    · intro more final goesOn
      exact leads (⟨operator, lexeme.range, found⟩ :: more) final
        (.operatorsNext taken readsRight goesOn)

end

mutual

/-- Every complete and grouped expression is read back. -/
theorem isReadBack_of_isComplete (expression : Expression) (complete : expression.isComplete = true)
    (grouped : expression.isGrouped = true) : IsReadBack expression := by
  match expression with
  | .binary operator left sign right =>
    simp only [isComplete, isGrouped, Bool.and_eq_true, decide_eq_true_eq] at complete grouped
    exact isReadBack_binary (isReadBack_of_isComplete left complete.1 grouped.1.1.1)
      (isReadBack_of_isComplete right complete.2 grouped.1.1.2) grouped.1.2 grouped.2
  | .unary operator sign operand =>
    simp only [isComplete, isGrouped, Bool.and_eq_true, decide_eq_true_eq] at complete grouped
    exact isReadBack_unary (isReadBack_of_isComplete operand complete grouped.1) grouped.2
  | .arrayAccess array opening index closing =>
    simp only [isComplete, isGrouped, Bool.and_eq_true, decide_eq_true_eq] at complete grouped
    exact isReadBack_arrayAccess (isReadBack_of_isComplete array complete.1.1 grouped.1.1)
      (isReadBack_of_isComplete index complete.1.2 grouped.1.2) grouped.2 complete.2
  | .memberAccess object dot member =>
    simp only [isComplete, isGrouped, Bool.and_eq_true, decide_eq_true_eq] at complete grouped
    exact isReadBack_memberAccess (isReadBack_of_isComplete object complete.1 grouped.1) grouped.2
  | .call function opening items closing =>
    simp only [isComplete, isGrouped, Bool.and_eq_true, Bool.not_eq_true', decide_eq_true_eq]
      at complete grouped
    rcases complete with ⟨⟨⟨completeFunction, completeItems⟩, noTrailing⟩, closed⟩
    rcases grouped with ⟨⟨groupedFunction, groupedItems⟩, tight⟩
    have functionBack := isReadBack_of_isComplete function completeFunction groupedFunction
    cases items with
    | nil => exact isReadBack_call_empty functionBack tight closed
    | cons item rest =>
      rcases exists_firstToken?_listSlots (List.cons_ne_nil item rest) completeItems
        with ⟨token, found, opens⟩
      exact isReadBack_call_filled functionBack
        (areReadBack_of_areComplete (item :: rest) (List.cons_ne_nil item rest) completeItems
          groupedItems noTrailing) tight found (ne_of_startsExpression opens.1 rfl) closed
  | .parenthesized opening inner closing =>
    simp only [isComplete, isGrouped, Bool.and_eq_true] at complete grouped
    exact isReadBack_parenthesized (isReadBack_of_isComplete inner complete.1 grouped) complete.2
  | .boolean literal => exact isReadBack_boolean literal
  | .number literal => exact isReadBack_number literal
  | .string literal => exact isReadBack_string literal
  | .identifier name => exact isReadBack_identifier name
  | .arrayInitializer _ _ _ _ | .error _ => simp [isComplete] at complete

/-- The arguments of a call are read back, unless a comma trails. -/
theorem areReadBack_of_areComplete (items : List (Expression × Option Range))
    (nonempty : items ≠ [])
    (complete : areComplete items = true) (grouped : areGrouped items = true)
    (noTrailing : hasTrailingComma items = false) : AreReadBack items := by
  match items with
  | [] => exact absurd rfl nonempty
  | [(expression, none)] =>
    simp only [areComplete, areGrouped, Bool.and_eq_true] at complete grouped
    exact areReadBack_singleton (isReadBack_of_isComplete expression complete.1.1 grouped.1)
  | [(expression, some _)] => cases noTrailing
  | (expression, place) :: item :: rest =>
    rw [areComplete, Bool.and_eq_true, Bool.and_eq_true] at complete
    rw [areGrouped, Bool.and_eq_true] at grouped
    rw [hasTrailingComma_cons (List.cons_ne_nil item rest)] at noTrailing
    rcases exists_firstToken?_listSlots (List.cons_ne_nil item rest) complete.2
      with ⟨token, found, opens⟩
    exact areReadBack_cons (isReadBack_of_isComplete expression complete.1.1 grouped.1)
      complete.1.2 found
      (ne_of_startsExpression opens.1 rfl)
      (areReadBack_of_areComplete (item :: rest) (List.cons_ne_nil item rest) complete.2 grouped.2
        noTrailing)

end

end ScriptTree.Grammar
