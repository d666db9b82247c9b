import ScriptTree.Grammar.Program

/-!
# The grammar as a system of rules

The functions of the grammar go through a state from left to right.  Here the
same grammar is a relation: `Reads production state value next` says that a
production, begun in `state`, yields `value` and leaves `next`.  There is one
rule for each path through a production, the paths of recovery included, and a
rule says which lexemes are taken, which are declined, and what is read between
them.

Where a function asks for the mode before it takes a lexeme, so do its rules:
`Takes` and `Misses` are about the normal mode, and a further rule says that a
parse that recovers stays where it is.  Where a function takes a lexeme whatever
the mode is, `Derivation permits` asks that the state is permitted.  If every
state is, the rules say what the functions do and no more.  `Reads` permits the
normal mode only, so that no rule of it takes a lexeme while the parse recovers.

Chains are read without what they go on from.  The operators after an operand
and the accesses after a primary are lists of tails, and so is the part of an
assignment after its target; `onto` joins a tail to its head.  A list in
parentheses is read together with its closing parenthesis, since a comma in
front of it is an error of the list.
-/

namespace ScriptTree.Grammar

/-! ## Recognizing a token -/

theorem only_eq_none {token found : Token} (different : found ≠ token) :
    State.only token found = none :=
  if_neg different

/-- What looks for one token recognizes that one only. -/
@[simp]
theorem only_eq_some_iff {token found : Token} {value : Unit} :
    State.only token found = some value ↔ found = token := by
  unfold State.only
  split <;> simp_all

/-- An operator is recognized by its token, where it binds enough. -/
theorem operatorFrom?_eq_some_iff {power : Nat} {found : Token} {operator : BinaryOperator} :
    operatorFrom? power found = some operator ↔
      operator.token = found ∧ power ≤ operator.power := by
  simp [operatorFrom?, Option.filter_eq_some_iff, BinaryOperator.ofToken?_eq_some_iff]

/-- The token that an access starts with. -/
def Access.token : Access → Token
  | .index => .lBracket
  | .member => .dot
  | .arguments => .lParen

theorem Access.ofToken?_eq_some_iff {found : Token} {access : Access} :
    ofToken? found = some access ↔ access.token = found := by
  cases access <;> cases found <;> simp [ofToken?, token]

/-- The keyword that a declaration starts with. -/
def DeclarationStart.token : DeclarationStart → Token
  | .instanceKeyword => .kwInstance
  | .prototypeKeyword => .kwPrototype
  | .functionKeyword => .kwFunc
  | .classKeyword => .kwClass
  | .variableKeyword kind => kind.token

theorem DeclarationStart.ofToken?_eq_some_iff {found : Token} {start : DeclarationStart} :
    ofToken? found = some start ↔ start.token = found := by
  cases start with
  | variableKeyword kind =>
    cases kind <;> cases found <;> simp [ofToken?, token, VariableKind.token]
  | _ => cases found <;> simp [ofToken?, token]

/-- A type is recognized by one of its keywords or an identifier. -/
theorem recognizeType_eq_some_iff {found : Token} {value : Unit} :
    State.recognizeType found = some value ↔
      found.isTypeKeyword = true ∨ found = .identifier := by
  unfold State.recognizeType
  cases found.isTypeKeyword <;> simp

/-! ## Taking and declining a lexeme -/

/-- Every state is permitted. -/
def State.Any (_ : State) : Prop :=
  True

/-- Only states in the normal mode are permitted. -/
def State.Normal (state : State) : Prop :=
  state.recovering = false

/-- The first lexeme is taken in a permitted state, and `recognize` makes `value` of its token. -/
structure Taking (permits : State → Prop) {α : Type} (state : State)
    (recognize : Token → Option α) (value : α) (lexeme : Lexeme) (next : State) : Prop where
  permitted : permits state
  recognized : recognize lexeme.token = some value
  front : state.rest = lexeme :: next.rest
  moved : next = state.advance lexeme next.rest

/-- No lexeme is taken: the state is not permitted, the input ends, or `recognize` refuses the
token. -/
def Declining (permits : State → Prop) {α : Type} (state : State)
    (recognize : Token → Option α) : Prop :=
  permits state → ∀ lexeme ∈ state.rest.head?, recognize lexeme.token = none

/-- The first lexeme is taken in the normal mode. -/
abbrev Takes {α : Type} (state : State) (recognize : Token → Option α) (value : α)
    (lexeme : Lexeme) (next : State) : Prop :=
  Taking State.Normal state recognize value lexeme next

/-- No lexeme is taken: the parse recovers, the input ends, or `recognize` refuses the token. -/
abbrev Declines {α : Type} (state : State) (recognize : Token → Option α) : Prop :=
  Declining State.Normal state recognize

/-- In the normal mode, the input ends or `recognize` refuses the token. -/
structure Misses {α : Type} (state : State) (recognize : Token → Option α) : Prop where
  normal : state.recovering = false
  refused : ∀ lexeme ∈ state.rest.head?, recognize lexeme.token = none

section

variable {permits : State → Prop} {α : Type} {state next : State} {recognize : Token → Option α}
  {value : α} {lexeme : Lexeme}

/-- A step of the parse takes a lexeme in every state. -/
theorem take?_eq_some_iff {taken : Taken state α} :
    state.take? recognize = some taken ↔
      Taking State.Any state recognize taken.value taken.lexeme taken.next := by
  obtain ⟨value, lexeme, next, fewer⟩ := taken
  constructor
  · intro equal
    unfold State.take? at equal
    split at equal
    · cases equal
    · split at equal
      · cases equal
      · cases equal
        exact ⟨trivial, by assumption, by assumption, rfl⟩
  · rintro ⟨-, recognized, front, moved⟩
    unfold State.take?
    split
    · rename_i empty
      rw [front] at empty
      cases empty
    · rename_i head rest equation
      rw [front] at equation
      injection equation with sameHead sameRest
      subst sameHead sameRest
      split
      · rename_i refused
        rw [recognized] at refused
        cases refused
      · rename_i found equal
        rw [recognized] at equal
        cases equal
        congr 2
        exact moved.symm

/-- What is taken guarded is taken while the parse does not recover. -/
theorem Taking.normal (taken : Takes state recognize value lexeme next) :
    state.recovering = false :=
  taken.permitted

/-- Whatever states are permitted, a lexeme is taken in the same way. -/
theorem Taking.of_permits {other : State → Prop}
    (taken : Taking permits state recognize value lexeme next) (permitted : other state) :
    Taking other state recognize value lexeme next :=
  { taken with permitted }

/-- Taking a token leaves fewer of them. -/
theorem Taking.fewer (taken : Taking permits state recognize value lexeme next) :
    next.rest.length < state.rest.length := by
  rw [taken.front]
  exact Nat.lt_succ_self _

theorem Taking.mem_rest (taken : Taking permits state recognize value lexeme next) :
    lexeme ∈ state.rest := by
  rw [taken.front]
  exact List.mem_cons_self

/-- What is taken is what the taking function gives. -/
theorem Taking.take?_eq (taken : Taking permits state recognize value lexeme next) :
    state.take? recognize = some ⟨value, lexeme, next, taken.fewer⟩ :=
  take?_eq_some_iff.mpr (taken.of_permits trivial)

/-- Taking a lexeme keeps the mode. -/
theorem Taking.recovering_next (taken : Taking permits state recognize value lexeme next) :
    next.recovering = state.recovering := by
  rw [taken.moved]
  rfl

theorem Taking.normal_next (taken : Takes state recognize value lexeme next) :
    next.recovering = false :=
  taken.recovering_next.trans taken.normal

/-- To decline in any state is to have nothing to take. -/
theorem declining_any_iff :
    Declining State.Any state recognize ↔ state.take? recognize = none := by
  unfold Declining State.Any State.take?
  split
  · simp_all
  · split <;> simp_all

theorem take?_eq_none (declined : Declining permits state recognize)
    (permitted : permits state) : state.take? recognize = none :=
  declining_any_iff.mp fun _ => declined permitted

theorem Misses.declines (missed : Misses state recognize) :
    Declining permits state recognize :=
  fun _ => missed.refused

theorem Misses.take?_eq (missed : Misses state recognize) : state.take? recognize = none :=
  declining_any_iff.mp missed.declines

/-- In the normal mode, whatever is declined is missed. -/
theorem Declining.misses (declined : Declines state recognize)
    (normal : state.recovering = false) : Misses state recognize :=
  ⟨normal, declined normal⟩

/-- In each state a token is taken or declined. -/
theorem takes_or_declines (state : State) (recognize : Token → Option α) :
    (∃ value lexeme next, Takes state recognize value lexeme next) ∨
      Declines state recognize := by
  cases equal : state.take? recognize with
  | none => exact .inr fun _ => declining_any_iff.mpr equal trivial
  | some taken =>
    have taking := take?_eq_some_iff.mp equal
    cases recovering : state.recovering with
    | false => exact .inl ⟨_, _, _, taking.of_permits recovering⟩
    | true => exact .inr fun normal => absurd (normal.symm.trans recovering) nofun

/-- In the normal mode a token is taken or missed. -/
theorem takes_or_misses (normal : state.recovering = false) (recognize : Token → Option α) :
    (∃ value lexeme next, Takes state recognize value lexeme next) ∨
      Misses state recognize :=
  (takes_or_declines state recognize).imp_right fun declined => declined.misses normal

/-- A lexeme that is taken for one thing is declined by whatever refuses its token. -/
theorem Taking.declines {β : Type} {other : Token → Option β} {permitsOther : State → Prop}
    (taken : Taking permits state recognize value lexeme next)
    (refused : other lexeme.token = none) : Declining permitsOther state other := by
  intro _ first member
  rw [taken.front, List.head?_cons] at member
  cases member
  exact refused

/-- What does not recognize the next token declines it. -/
theorem declines_of_peek
    (refused : ∀ token, state.peek = some token → recognize token = none) :
    Declining permits state recognize := by
  intro _ first member
  exact refused first.token (by simp_all [State.peek])

theorem declines_of_empty (empty : state.rest = []) : Declining permits state recognize := by
  intro _ lexeme member
  simp [empty] at member

end

theorem Taking.isAt {permits : State → Prop} {token : Token} {state next : State}
    {lexeme : Lexeme} (taken : Taking permits state (State.only token) () lexeme next) :
    state.isAt token = true := by
  have found := only_eq_some_iff.mp taken.recognized
  simp [State.isAt, State.peek, taken.front, found]

theorem exists_head_of_any_peek {state : State} {test : Token → Bool}
    (found : state.peek.any test = true) :
    ∃ lexeme, state.rest.head? = some lexeme ∧ test lexeme.token = true := by
  cases first : state.rest.head? <;> simp_all [State.peek]

theorem exists_head_of_isAt {state : State} {token : Token} (found : state.isAt token = true) :
    ∃ lexeme, state.rest.head? = some lexeme ∧ lexeme.token = token := by
  simpa [State.isAt, State.peek] using found

/-- Check the target of an assignment that was just read. -/
def State.checkTarget (state : State) (target : Expression) : State :=
  if isAcceptableTarget target then state else state.rejectTarget target.range

/-! ## Tails -/

/-- An operator and its right operand. -/
structure BinaryTail where
  operator : BinaryOperator
  sign : Range
  right : Expression

/-- An expression with one more operator and operand to its right. -/
def BinaryTail.onto (left : Expression) (tail : BinaryTail) : Expression :=
  .binary tail.operator left tail.sign tail.right

/-- What can follow a primary. -/
inductive AccessTail where
  | index (opening : Range) (inner : Expression) (closing : Option Range)
  | member (dot : Range) (name : Identifier)
  | call (opening : Range) (items : List (Expression × Option Range))
      (closing : Option Range)

/-- An expression with one more access after it. -/
def AccessTail.onto (head : Expression) : AccessTail → Expression
  | .index opening inner closing => .arrayAccess head opening inner closing
  | .member dot name => .memberAccess head dot name
  | .call opening items closing => .call head opening items closing

/-- An assignment without its target. -/
structure AssignmentTail where
  operator : AssignmentOperator
  sign : Option Range
  right : Expression
  terminator : Option Range

/-- The assignment to a target. -/
def AssignmentTail.onto (left : Expression) (tail : AssignmentTail) : AssignmentStatement :=
  ⟨left, tail.operator, tail.sign, tail.right, tail.terminator⟩

/-! ## Productions -/

/-- What the functions of the grammar read. -/
inductive Production where
  | optional (token : Token)
  /-- A token that is sought in the normal mode only. -/
  | expected (token : Token)
  /-- The brace that closes a list of statements or members. -/
  | closingBrace
  | terminator
  /-- An identifier that is sought in the normal mode only. -/
  | identifier
  /-- An identifier right after a lexeme that was taken. -/
  | directName
  | typeReference
  | operation (power : Nat)
  | operators (power : Nat)
  | operand
  | primary
  | accesses
  /-- One argument or more, and the closing parenthesis. -/
  | arguments
  | elements (isFirst : Bool)
  | initialValue
  | arraySize
  | initializer
  /-- A variable declaration, its keyword included. -/
  | variableDeclaration
  | assignmentTail
  | condition
  | block
  | statements
  | statement
  | branch
  | parentClause
  | instanceBody (hasParent : Bool)
  | declarationBody
  | qualifier
  | parameter
  /-- One parameter or more, and the closing parenthesis. -/
  | parameters
  | parameterList
  | classItem
  | classItems
  | classBody
  | declaration
  | declarations

namespace Production

/-- What a production yields. -/
@[reducible]
def Value : Production → Type
  | .optional _ | .expected _ | .closingBrace | .terminator => Option Range
  | .identifier | .directName => Identifier
  | .typeReference => TypeReference
  | .operation _ | .operand | .primary | .initialValue | .condition => Expression
  | .operators _ => List BinaryTail
  | .accesses => List AccessTail
  | .arguments | .elements _ => List (Expression × Option Range) × Option Range
  | .arraySize => Option ArraySize
  | .initializer => Option Initializer
  | .variableDeclaration => VariableDeclaration
  | .assignmentTail => AssignmentTail
  | .block => Block
  | .statements => List Statement
  | .statement => Option Statement
  | .branch => Branch
  | .parentClause => Option ParentClause
  | .instanceBody _ => Option Block × Option Range
  | .declarationBody => Block × Option Range
  | .qualifier => Option (VariableKind × Range)
  | .parameter => Parameter
  | .parameters => List (Parameter × Option Range) × Option Range
  | .parameterList => ParameterList
  | .classItem => Option ClassItem
  | .classItems => List ClassItem
  | .classBody => ClassBody
  | .declaration => Option Declaration
  | .declarations => List Declaration

end Production

/-- How a list resumes after one element, which was begun in `start` and left `state`: it goes on,
it skips to a boundary, or it passes over one lexeme where nothing else moves it. -/
inductive Resumes (level : SyncLevel) (start state : State) : Option ErrorNode → State → Prop
  | onward (progress : state.rest.length < start.rest.length)
      (normal : state.recovering = false) :
      Resumes level start state none state
  | synchronized
      (cause : state.rest.length < start.rest.length ∧ state.recovering = true ∨
        ¬state.rest.length < start.rest.length ∧ (state.synchronize level).1.isSome) :
      Resumes level start state (state.synchronize level).1 (state.synchronize level).2
  | skippedOne {lexeme : Lexeme} {rest : List Lexeme}
      (idle : ¬state.rest.length < start.rest.length)
      (stuck : (state.synchronize level).1 = none) (front : state.rest = lexeme :: rest) :
      Resumes level start state (some (state.skipOne lexeme rest).1)
        (state.skipOne lexeme rest).2

/-! ## The rules -/

section

variable (permits : State → Prop)

/-- A production begun in a state yields a value and leaves the next state.  Where a function does
not ask for the mode, a lexeme is taken in permitted states. -/
inductive Derivation : (production : Production) → State → production.Value → State → Prop
  /- Single tokens -/
  | optionalTaken {token state lexeme next}
      (taken : Taking permits state (State.only token) () lexeme next) :
      Derivation (.optional token) state (some lexeme.range) next
  | optionalAbsent {token state} (declined : Declining permits state (State.only token)) :
      Derivation (.optional token) state none state
  | expectedTaken {token state lexeme next}
      (taken : Takes state (State.only token) () lexeme next) :
      Derivation (.expected token) state (some lexeme.range) next
  | expectedMissing {token state} (missed : Misses state (State.only token)) :
      Derivation (.expected token) state none (state.fail (.tokens [token]))
  | expectedIdle {token state} (recovering : state.recovering = true) :
      Derivation (.expected token) state none state
  | closingBraceTaken {state lexeme next}
      (taken : Taking permits state (State.only .rBrace) () lexeme next) :
      Derivation .closingBrace state (some lexeme.range) next
  | closingBraceMissing {state} (declined : Declining permits state (State.only .rBrace)) :
      Derivation .closingBrace state none (state.fail (.tokens [.rBrace]))
  | terminatorTaken {state lexeme next}
      (taken : Takes state (State.only .semicolon) () lexeme next) :
      Derivation .terminator state (some lexeme.range) next
  | terminatorGranted {state} (missed : Misses state (State.only .semicolon))
      (opens : state.peek.any State.opensNextStatement = true) :
      Derivation .terminator state none (state.reportMissing .semicolon)
  | terminatorMissing {state} (missed : Misses state (State.only .semicolon))
      (plain : state.peek.any State.opensNextStatement = false) :
      Derivation .terminator state none (state.fail (.tokens [.semicolon]))
  | terminatorIdle {state} (recovering : state.recovering = true) :
      Derivation .terminator state none state
  | identifierTaken {state lexeme next}
      (taken : Takes state (State.only .identifier) () lexeme next) :
      Derivation .identifier state ⟨lexeme.text, lexeme.range⟩ next
  | identifierMissing {state} (missed : Misses state (State.only .identifier)) :
      Derivation .identifier state (.missing state.anchor) (state.fail (.tokens [.identifier]))
  | identifierIdle {state} (recovering : state.recovering = true) :
      Derivation .identifier state (.missing state.anchor) state
  | nameTaken {state lexeme next}
      (taken : Taking permits state (State.only .identifier) () lexeme next) :
      Derivation .directName state ⟨lexeme.text, lexeme.range⟩ next
  | nameMissing {state} (declined : Declining permits state (State.only .identifier)) :
      Derivation .directName state (.missing state.anchor) (state.fail (.tokens [.identifier]))
  | typeTaken {state lexeme next}
      (taken : Taking permits state State.recognizeType () lexeme next) :
      Derivation .typeReference state
        ⟨(TypeName.builtin? lexeme.token).getD (.named lexeme.text), lexeme.range⟩ next
  | typeMissing {state} (declined : Declining permits state State.recognizeType) :
      Derivation .typeReference state (.missing state.anchor) (state.fail (.production "type"))
  /- Expressions -/
  | operation {power state first between tails next}
      (readsOperand : Derivation .operand state first between)
      (readsOperators : Derivation (.operators power) between tails next) :
      Derivation (.operation power) state (tails.foldl BinaryTail.onto first) next
  | operatorsEnd {power state} (declined : Declines state (operatorFrom? power)) :
      Derivation (.operators power) state [] state
  | operatorsNext {power state operator sign afterSign right afterRight tails next}
      (taken : Takes state (operatorFrom? power) operator sign afterSign)
      (readsOperand : Derivation (.operation (operator.power + 1)) afterSign right afterRight)
      (more : Derivation (.operators power) afterRight tails next) :
      Derivation (.operators power) state (⟨operator, sign.range, right⟩ :: tails) next
  | operandSigned {state operator sign afterSign inner next}
      (taken : Taking permits state UnaryOperator.ofToken? operator sign afterSign)
      (readsOperand : Derivation .operand afterSign inner next) :
      Derivation .operand state (.unary operator sign.range inner) next
  | operandPlain {state head between tails next}
      (declined : Declining permits state UnaryOperator.ofToken?)
      (readsPrimary : Derivation .primary state head between)
      (readsAccesses : Derivation .accesses between tails next) :
      Derivation .operand state (tails.foldl AccessTail.onto head) next
  | primaryParenthesized {state opening afterOpening inner afterInner closing next}
      (taken : Taking permits state (State.only .lParen) () opening afterOpening)
      (readsInner : Derivation (.operation lowestPower) afterOpening inner afterInner)
      (closes : Derivation (.expected .rParen) afterInner closing next) :
      Derivation .primary state (.parenthesized opening.range inner closing) next
  | primaryLiteral {state literal lexeme next}
      (taken : Taking permits state Literal.ofToken? literal lexeme next) :
      Derivation .primary state (literal.expression lexeme) next
  | primaryMissing {state} (noOpening : Declining permits state (State.only .lParen))
      (declined : Declining permits state Literal.ofToken?) :
      Derivation .primary state (.missing state.anchor) (state.fail (.production "expression"))
  | accessesEnd {state} (declined : Declines state Access.ofToken?) :
      Derivation .accesses state [] state
  | accessesIndex {state opening afterOpening inner afterInner closing afterClosing tails next}
      (taken : Takes state Access.ofToken? .index opening afterOpening)
      (readsInner : Derivation (.operation lowestPower) afterOpening inner afterInner)
      (closes : Derivation (.expected .rBracket) afterInner closing afterClosing)
      (more : Derivation .accesses afterClosing tails next) :
      Derivation .accesses state (.index opening.range inner closing :: tails) next
  | accessesMember {state dot afterDot name afterName tails next}
      (taken : Takes state Access.ofToken? .member dot afterDot)
      (readsName : Derivation .directName afterDot name afterName)
      (more : Derivation .accesses afterName tails next) :
      Derivation .accesses state (.member dot.range name :: tails) next
  | accessesEmptyCall {state opening afterOpening closing afterClosing tails next}
      (taken : Takes state Access.ofToken? .arguments opening afterOpening)
      (closes : Takes afterOpening (State.only .rParen) () closing afterClosing)
      (more : Derivation .accesses afterClosing tails next) :
      Derivation .accesses state (.call opening.range [] (some closing.range) :: tails) next
  | accessesCall {state opening afterOpening items closing afterClosing tails next}
      (taken : Takes state Access.ofToken? .arguments opening afterOpening)
      (filled : afterOpening.isAt .rParen = false)
      (readsArguments : Derivation .arguments afterOpening (items, closing) afterClosing)
      (more : Derivation .accesses afterClosing tails next) :
      Derivation .accesses state (.call opening.range items closing :: tails) next
  | argumentsLast {state argument afterArgument closing next}
      (readsArgument : Derivation (.operation lowestPower) state argument afterArgument)
      (declined : Declines afterArgument (State.only .comma))
      (closes : Derivation (.expected .rParen) afterArgument closing next) :
      Derivation .arguments state ([(argument, none)], closing) next
  | argumentsTrailing {state argument afterArgument comma afterComma closing next}
      (readsArgument : Derivation (.operation lowestPower) state argument afterArgument)
      (taken : Takes afterArgument (State.only .comma) () comma afterComma)
      (closes : Takes (afterComma.fail (.production "expression")) (State.only .rParen) ()
        closing next) :
      Derivation .arguments state ([(argument, some comma.range)], some closing.range) next
  | argumentsNext {state argument afterArgument comma afterComma items closing next}
      (readsArgument : Derivation (.operation lowestPower) state argument afterArgument)
      (taken : Takes afterArgument (State.only .comma) () comma afterComma)
      (goesOn : afterComma.isAt .rParen = false)
      (more : Derivation .arguments afterComma (items, closing) next) :
      Derivation .arguments state ((argument, some comma.range) :: items, closing) next
  | elementsEnd {state} (ends : state.isAt .rBrace = true) :
      Derivation (.elements false) state ([], none) state
  | elementsMissing {isFirst state element next}
      (goesOn : (!isFirst && state.isAt .rBrace) = false)
      (readsElement : Derivation (.operation lowestPower) state element next)
      (missing : element.isMissing = true) :
      Derivation (.elements isFirst) state ([], some next.anchor) next
  | elementsLast {isFirst state element next}
      (goesOn : (!isFirst && state.isAt .rBrace) = false)
      (readsElement : Derivation (.operation lowestPower) state element next)
      (present : element.isMissing = false)
      (declined : Declines next (State.only .comma)) :
      Derivation (.elements isFirst) state ([(element, none)], none) next
  | elementsNext {isFirst state element afterElement comma afterComma items gap next}
      (goesOn : (!isFirst && state.isAt .rBrace) = false)
      (readsElement : Derivation (.operation lowestPower) state element afterElement)
      (present : element.isMissing = false)
      (taken : Takes afterElement (State.only .comma) () comma afterComma)
      (more : Derivation (.elements false) afterComma (items, gap) next) :
      Derivation (.elements isFirst) state ((element, some comma.range) :: items, gap) next
  | initialElements {state opening afterOpening items gap afterItems closing next}
      (taken : Taking permits state (State.only .lBrace) () opening afterOpening)
      (readsElements : Derivation (.elements true) afterOpening (items, gap) afterItems)
      (closes : Derivation (.expected .rBrace) afterItems closing next) :
      Derivation .initialValue state (.arrayInitializer opening.range items gap closing) next
  | initialExpression {state value next} (declined : Declining permits state (State.only .lBrace))
      (readsValue : Derivation (.operation lowestPower) state value next) :
      Derivation .initialValue state value next
  /- Variables and assignments -/
  | arraySizeAbsent {state} (declined : Declines state (State.only .lBracket)) :
      Derivation .arraySize state none state
  | arraySizeWritten {state opening afterOpening size afterSize closing next}
      (taken : Takes state (State.only .lBracket) () opening afterOpening)
      (readsSize : Derivation (.operation lowestPower) afterOpening size afterSize)
      (closes : Derivation (.expected .rBracket) afterSize closing next) :
      Derivation .arraySize state (some ⟨opening.range, size, closing⟩) next
  | initializerAbsent {state} (declined : Declines state (State.only .assign)) :
      Derivation .initializer state none state
  | initializerWritten {state sign afterSign value next}
      (taken : Takes state (State.only .assign) () sign afterSign)
      (readsValue : Derivation .initialValue afterSign value next) :
      Derivation .initializer state (some ⟨sign.range, value⟩) next
  | variableDeclaration {state kind keyword afterKeyword type afterType name afterName size
      afterSize initializer afterInitializer terminator next}
      (taken : Taking permits state VariableKind.ofToken? kind keyword afterKeyword)
      (readsType : Derivation .typeReference afterKeyword type afterType)
      (readsName : Derivation .identifier afterType name afterName)
      (readsSize : Derivation .arraySize afterName size afterSize)
      (readsInitializer : Derivation .initializer afterSize initializer afterInitializer)
      (ends : Derivation .terminator afterInitializer terminator next) :
      Derivation .variableDeclaration state
        ⟨kind, keyword.range, type, name, size, initializer, terminator⟩ next
  | assignmentSigned {state operator sign afterSign right afterRight terminator next}
      (taken : Taking permits state AssignmentOperator.ofToken? operator sign afterSign)
      (readsRight : Derivation (.operation lowestPower) afterSign right afterRight)
      (ends : Derivation .terminator afterRight terminator next) :
      Derivation .assignmentTail state ⟨operator, some sign.range, right, terminator⟩ next
  | assignmentUnsigned {state terminator next}
      (declined : Declining permits state AssignmentOperator.ofToken?)
      (ends : Derivation .terminator (state.fail (.tokens [.assign])) terminator next) :
      Derivation .assignmentTail state ⟨.assign, none, .missing state.anchor, terminator⟩ next
  /- Statements -/
  | conditionBare {state condition next} (noOpening : state.isAt .lParen = false)
      (opens : state.peek.any startsExpression = true)
      (readsCondition :
        Derivation (.operation lowestPower) (state.reportMissing .lParen) condition next) :
      Derivation .condition state condition next
  | conditionPlain {state condition next}
      (plain : (!state.isAt .lParen && state.peek.any startsExpression) = false)
      (readsCondition : Derivation (.operation lowestPower) state condition next) :
      Derivation .condition state condition next
  | blockMissing {state} (declined : Declining permits state (State.only .lBrace)) :
      Derivation .block state (.missing state.anchor true)
        (state.fail (.tokens [.lBrace]))
  | blockWritten {state opening afterOpening items afterItems closing next}
      (taken : Taking permits state (State.only .lBrace) () opening afterOpening)
      (readsItems : Derivation .statements afterOpening items afterItems)
      (closes : Derivation .closingBrace afterItems closing next) :
      Derivation .block state (.written opening.range items closing) next
  | statementsEnd {state} (ends : endsList state = true) : Derivation .statements state [] state
  | statementsNext {state item afterItem skipped resumed more next}
      (goesOn : endsList state = false) (readsItem : Derivation .statement state item afterItem)
      (resumes : Resumes .statement state afterItem skipped resumed)
      (readsMore : Derivation .statements resumed more next) :
      Derivation .statements state
        (item.toList ++ (skipped.map Statement.error).toList ++ more) next
  | statementIf {state keyword afterKeyword condition afterCondition consequence next}
      (taken : Taking permits state (State.only .kwIf) () keyword afterKeyword)
      (readsCondition : Derivation .condition afterKeyword condition afterCondition)
      (readsConsequence : Derivation .branch afterCondition consequence next)
      (noElse : Declines next (State.only .kwElse)) :
      Derivation .statement state
        (some (.ifStatement keyword.range condition consequence none)) next
  | statementIfElse {state keyword afterKeyword condition afterCondition consequence
      afterConsequence elseKeyword afterElse alternative next}
      (taken : Taking permits state (State.only .kwIf) () keyword afterKeyword)
      (readsCondition : Derivation .condition afterKeyword condition afterCondition)
      (readsConsequence : Derivation .branch afterCondition consequence afterConsequence)
      (otherwise : Takes afterConsequence (State.only .kwElse) () elseKeyword afterElse)
      (readsAlternative : Derivation .branch afterElse alternative next) :
      Derivation .statement state
        (some (.ifStatement keyword.range condition consequence
          (some (elseKeyword.range, alternative)))) next
  | statementReturn {state keyword afterKeyword terminator next}
      (taken : Taking permits state (State.only .kwReturn) () keyword afterKeyword)
      (bare : afterKeyword.peek.any startsExpression = false)
      (ends : Derivation .terminator afterKeyword terminator next) :
      Derivation .statement state
        (some (.returnStatement ⟨keyword.range, none, terminator⟩)) next
  | statementReturnValue {state keyword afterKeyword value afterValue terminator next}
      (taken : Taking permits state (State.only .kwReturn) () keyword afterKeyword)
      (opens : afterKeyword.peek.any startsExpression = true)
      (readsValue : Derivation (.operation lowestPower) afterKeyword value afterValue)
      (ends : Derivation .terminator afterValue terminator next) :
      Derivation .statement state
        (some (.returnStatement ⟨keyword.range, some value, terminator⟩)) next
  | statementVariable {state declaration next}
      (readsDeclaration : Derivation .variableDeclaration state declaration next) :
      Derivation .statement state (some (.variableDeclaration declaration)) next
  | statementBlock {state block next} (opens : state.isAt .lBrace = true)
      (readsBlock : Derivation .block state block next) :
      Derivation .statement state (some (.block block)) next
  | statementExpression {state expression afterExpression terminator next}
      (opens : state.peek.any startsExpression = true)
      (readsExpression : Derivation (.operation lowestPower) state expression afterExpression)
      (unsigned : (!afterExpression.recovering &&
        afterExpression.peek.any Token.isAssignmentOperator) = false)
      (ends : Derivation .terminator afterExpression terminator next) :
      Derivation .statement state (some (.expressionStatement ⟨expression, terminator⟩)) next
  | statementAssignment {state target afterTarget tail next}
      (opens : state.peek.any startsExpression = true)
      (readsTarget : Derivation (.operation lowestPower) state target afterTarget)
      (signed : (!afterTarget.recovering &&
        afterTarget.peek.any Token.isAssignmentOperator) = true)
      (readsTail : Derivation .assignmentTail (afterTarget.checkTarget target) tail next) :
      Derivation .statement state (some (.assignmentStatement (tail.onto target))) next
  | statementAbsent {state} (empty : state.rest = []) :
      Derivation .statement state none (state.fail (.production "statement"))
  | statementRejected {state} (nonempty : state.rest ≠ [])
      (noIf : Declining permits state (State.only .kwIf))
      (noReturn : Declining permits state (State.only .kwReturn))
      (noKind : Declining permits state VariableKind.ofToken?)
      (noBlock : state.isAt .lBrace = false)
      (noExpression : state.peek.any startsExpression = false) :
      Derivation .statement state none (state.reject "statement")
  | branchRecovering {state} (recovering : state.recovering = true) :
      Derivation .branch state (.missing state.anchor) state
  | branchBlock {state block afterBlock semicolon next} (normal : state.recovering = false)
      (opens : state.isAt .lBrace = true) (readsBlock : Derivation .block state block afterBlock)
      (readsSemicolon : Derivation (.optional .semicolon) afterBlock semicolon next) :
      Derivation .branch state (.written (.block block) semicolon) next
  | branchStatement {state statement next} (normal : state.recovering = false)
      (plain : state.isAt .lBrace = false)
      (readsStatement : Derivation .statement state (some statement) next) :
      Derivation .branch state (.written statement none) next
  | branchMissing {state next} (normal : state.recovering = false)
      (plain : state.isAt .lBrace = false)
      (readsStatement : Derivation .statement state none next) :
      Derivation .branch state (.missing next.anchor) next
  /- Declarations -/
  | parentAbsent {state} (declined : Declines state (State.only .lParen)) :
      Derivation .parentClause state none state
  | parentWritten {state opening afterOpening name afterName closing next}
      (taken : Takes state (State.only .lParen) () opening afterOpening)
      (readsName : Derivation .directName afterOpening name afterName)
      (closes : Derivation (.expected .rParen) afterName closing next) :
      Derivation .parentClause state (some ⟨opening.range, name, closing⟩) next
  | instanceIdle {hasParent state} (recovering : state.recovering = true) :
      Derivation (.instanceBody hasParent) state (none, none) state
  | instanceBlock {hasParent state body afterBody semicolon next}
      (normal : state.recovering = false) (opens : state.isAt .lBrace = true)
      (readsBody : Derivation .block state body afterBody)
      (readsSemicolon : Derivation (.optional .semicolon) afterBody semicolon next) :
      Derivation (.instanceBody hasParent) state (some body, semicolon) next
  | instanceForward {hasParent state semicolon next}
      (taken : Takes (if hasParent then state else state.reportMissing .lParen)
        (State.only .semicolon) () semicolon next) :
      Derivation (.instanceBody hasParent) state (none, some semicolon.range) next
  | instanceBare {hasParent state}
      (normal : state.recovering = false) (noBlock : state.isAt .lBrace = false)
      (noSemicolon : state.isAt .semicolon = false) :
      Derivation (.instanceBody hasParent) state (none, none)
        (state.fail (.tokens [.lBrace, .semicolon]))
  | bodyIdle {state} (recovering : state.recovering = true) :
      Derivation .declarationBody state (.missing state.anchor false, none) state
  | bodyMissing {state body next} (normal : state.recovering = false)
      (readsBody : Derivation .block state body next) (missing : body.isMissing = true) :
      Derivation .declarationBody state (body, none) next
  | bodyWritten {state body afterBody semicolon next}
      (normal : state.recovering = false)
      (readsBody : Derivation .block state body afterBody) (written : body.isMissing = false)
      (readsSemicolon : Derivation (.optional .semicolon) afterBody semicolon next) :
      Derivation .declarationBody state (body, semicolon) next
  | qualifierAbsent {state} (declined : Declining permits state VariableKind.ofToken?) :
      Derivation .qualifier state none state
  | qualifierWritten {state kind keyword next}
      (taken : Taking permits state VariableKind.ofToken? kind keyword next) :
      Derivation .qualifier state (some (kind, keyword.range)) next
  | parameter {state qualifier afterQualifier type afterType name next}
      (readsQualifier : Derivation .qualifier state qualifier afterQualifier)
      (readsType : Derivation .typeReference afterQualifier type afterType)
      (readsName : Derivation .identifier afterType name next) :
      Derivation .parameter state ⟨qualifier, type, name⟩ next
  | parametersLast {state item afterItem closing next}
      (readsItem : Derivation .parameter state item afterItem)
      (declined : Declines afterItem (State.only .comma))
      (closes : Derivation (.expected .rParen) afterItem closing next) :
      Derivation .parameters state ([(item, none)], closing) next
  | parametersTrailing {state item afterItem comma afterComma closing next}
      (readsItem : Derivation .parameter state item afterItem)
      (taken : Takes afterItem (State.only .comma) () comma afterComma)
      (closes : Takes (afterComma.fail (.production "parameter")) (State.only .rParen) ()
        closing next) :
      Derivation .parameters state ([(item, some comma.range)], some closing.range) next
  | parametersNext {state item afterItem comma afterComma items closing next}
      (readsItem : Derivation .parameter state item afterItem)
      (taken : Takes afterItem (State.only .comma) () comma afterComma)
      (goesOn : afterComma.isAt .rParen = false)
      (more : Derivation .parameters afterComma (items, closing) next) :
      Derivation .parameters state ((item, some comma.range) :: items, closing) next
  | parameterListIdle {state} (recovering : state.recovering = true) :
      Derivation .parameterList state (.missing state.anchor) state
  | parameterListMissing {state} (missed : Misses state (State.only .lParen)) :
      Derivation .parameterList state (.missing state.anchor) (state.fail (.tokens [.lParen]))
  | parameterListEmpty {state opening afterOpening closing next}
      (taken : Takes state (State.only .lParen) () opening afterOpening)
      (closes : Takes afterOpening (State.only .rParen) () closing next) :
      Derivation .parameterList state (.written opening.range [] (some closing.range)) next
  | parameterListFilled {state opening afterOpening items closing next}
      (taken : Takes state (State.only .lParen) () opening afterOpening)
      (filled : afterOpening.isAt .rParen = false)
      (readsParameters : Derivation .parameters afterOpening (items, closing) next) :
      Derivation .parameterList state (.written opening.range items closing) next
  | classVariable {state declaration next}
      (readsDeclaration : Derivation .variableDeclaration state declaration next) :
      Derivation .classItem state (some (.member (.variableDeclaration declaration))) next
  | classAbandoned {state target next} (opens : state.isAt .identifier = true)
      (readsTarget : Derivation (.operation lowestPower) state target next)
      (recovering : next.recovering = true) :
      Derivation .classItem state (some (.abandoned target)) next
  | classAssignment {state target afterTarget tail next}
      (opens : state.isAt .identifier = true)
      (readsTarget : Derivation (.operation lowestPower) state target afterTarget)
      (normal : afterTarget.recovering = false)
      (readsTail : Derivation .assignmentTail (afterTarget.checkTarget target) tail next) :
      Derivation .classItem state (some (.member (.assignmentStatement (tail.onto target)))) next
  | classRejected {state} (noKind : Declining permits state VariableKind.ofToken?)
      (noTarget : state.isAt .identifier = false) :
      Derivation .classItem state none (state.reject "class member")
  | classItemsEnd {state} (ends : endsList state = true) : Derivation .classItems state [] state
  | classItemsNext {state item afterItem skipped resumed more next}
      (goesOn : endsList state = false) (readsItem : Derivation .classItem state item afterItem)
      (resumes : Resumes .statement state afterItem skipped resumed)
      (readsMore : Derivation .classItems resumed more next) :
      Derivation .classItems state
        (item.toList ++ (skipped.map fun node => ClassItem.member (.error node)).toList ++ more)
        next
  | classBodyMissing {state} (declined : Declining permits state (State.only .lBrace)) :
      Derivation .classBody state (.missing state.anchor) (state.fail (.tokens [.lBrace]))
  | classBodyWritten {state opening afterOpening items afterItems closing next}
      (taken : Taking permits state (State.only .lBrace) () opening afterOpening)
      (readsItems : Derivation .classItems afterOpening items afterItems)
      (closes : Derivation .closingBrace afterItems closing next) :
      Derivation .classBody state (.written opening.range items closing) next
  | declarationInstance {state keyword afterKeyword name afterName parent afterParent body
      semicolon next}
      (taken : Taking permits state DeclarationStart.ofToken? .instanceKeyword keyword afterKeyword)
      (readsName : Derivation .directName afterKeyword name afterName)
      (readsParent : Derivation .parentClause afterName parent afterParent)
      (readsBody : Derivation (.instanceBody parent.isSome) afterParent (body, semicolon) next) :
      Derivation .declaration state
        (some (.instanceDeclaration ⟨keyword.range, name, parent, body, semicolon⟩)) next
  | declarationPrototype {state keyword afterKeyword name afterName opening afterOpening parent
      afterParent closing afterClosing body semicolon next}
      (taken : Taking permits state DeclarationStart.ofToken? .prototypeKeyword keyword
        afterKeyword)
      (readsName : Derivation .directName afterKeyword name afterName)
      (opens : Derivation (.expected .lParen) afterName opening afterOpening)
      (readsParent : Derivation .identifier afterOpening parent afterParent)
      (closes : Derivation (.expected .rParen) afterParent closing afterClosing)
      (readsBody : Derivation .declarationBody afterClosing (body, semicolon) next) :
      Derivation .declaration state
        (some (.prototypeDeclaration
          ⟨keyword.range, name, opening, parent, closing, body, semicolon⟩)) next
  | declarationFunction {state keyword afterKeyword type afterType name afterName parameters
      afterParameters body semicolon next}
      (taken : Taking permits state DeclarationStart.ofToken? .functionKeyword keyword afterKeyword)
      (readsType : Derivation .typeReference afterKeyword type afterType)
      (readsName : Derivation .identifier afterType name afterName)
      (readsParameters : Derivation .parameterList afterName parameters afterParameters)
      (readsBody : Derivation .declarationBody afterParameters (body, semicolon) next) :
      Derivation .declaration state
        (some (.functionDeclaration
          ⟨keyword.range, type, name, parameters, body, semicolon⟩)) next
  | declarationNamelessClass {state keyword afterKeyword name next}
      (taken : Taking permits state DeclarationStart.ofToken? .classKeyword keyword afterKeyword)
      (readsName : Derivation .directName afterKeyword name next)
      (recovering : next.recovering = true) :
      Derivation .declaration state
        (some (.classDeclaration ⟨keyword.range, name, .missing next.anchor, none⟩)) next
  | declarationUnfinishedClass {state keyword afterKeyword name afterName body next}
      (taken : Taking permits state DeclarationStart.ofToken? .classKeyword keyword afterKeyword)
      (readsName : Derivation .directName afterKeyword name afterName)
      (normal : afterName.recovering = false)
      (readsBody : Derivation .classBody afterName body next) (missing : body.isMissing = true) :
      Derivation .declaration state
        (some (.classDeclaration ⟨keyword.range, name, body, none⟩)) next
  | declarationClass {state keyword afterKeyword name afterName body afterBody semicolon next}
      (taken : Taking permits state DeclarationStart.ofToken? .classKeyword keyword afterKeyword)
      (readsName : Derivation .directName afterKeyword name afterName)
      (normal : afterName.recovering = false)
      (readsBody : Derivation .classBody afterName body afterBody)
      (written : body.isMissing = false)
      (readsSemicolon : Derivation (.optional .semicolon) afterBody semicolon next) :
      Derivation .declaration state
        (some (.classDeclaration ⟨keyword.range, name, body, semicolon⟩)) next
  | declarationVariable {state declaration next}
      (readsDeclaration : Derivation .variableDeclaration state declaration next) :
      Derivation .declaration state (some (.variableDeclaration declaration)) next
  | declarationRejected {state} (declined : Declining permits state DeclarationStart.ofToken?) :
      Derivation .declaration state none (state.reject "declaration")
  | declarationsEnd {state} (ends : state.rest = []) : Derivation .declarations state [] state
  | declarationsNext {state item afterItem skipped resumed more next}
      (goesOn : state.rest ≠ []) (readsItem : Derivation .declaration state item afterItem)
      (resumes : Resumes .topLevel state afterItem skipped resumed)
      (readsMore : Derivation .declarations resumed more next) :
      Derivation .declarations state
        (item.toList ++ (skipped.map Declaration.error).toList ++ more) next

end

/-- A property holds of everything that was read inside of a derivation. -/
def Derivation.EachPart {permits : State → Prop} {production : Production} {state next : State}
    {value : production.Value}
    (property : (production : Production) → State → production.Value → State → Prop)
    (reads : Derivation permits production state value next) : Prop :=
  reads.below (motive := fun production state value next _ => property production state value next)

/-- A property holds of what a production reads if it holds of all that is read inside of it. -/
def Production.Inherits (permits : State → Prop)
    (property : (production : Production) → State → production.Value → State → Prop)
    (production : Production) : Prop :=
  ∀ ⦃state : State⦄ ⦃value : production.Value⦄ ⦃next : State⦄
    (reads : Derivation permits production state value next),
    reads.EachPart property → property production state value next

/-- What all productions inherit from their parts holds of everything that is read. -/
theorem Derivation.of_inherits {permits : State → Prop}
    {property : (production : Production) → State → production.Value → State → Prop}
    (inherits : ∀ production : Production, production.Inherits permits property)
    {production : Production} {state next : State} {value : production.Value}
    (reads : Derivation permits production state value next) :
    property production state value next :=
  reads.brecOn fun production _ _ _ reads parts => inherits production reads parts

/-- What the grammar reads.  Lexemes are taken in the normal mode only. -/
abbrev Reads (production : Production) (state : State) (value : production.Value)
    (next : State) : Prop :=
  Derivation State.Normal production state value next

section

variable {state next : State}

/-- In the normal mode it makes no difference whether a name asks for the mode. -/
theorem Derivation.identifier_of_directName {name : Identifier}
    (reads : Reads .directName state name next) (normal : state.recovering = false) :
    Reads .identifier state name next := by
  cases reads with
  | nameTaken taken => exact .identifierTaken taken
  | nameMissing declined => exact .identifierMissing (declined.misses normal)

end

end ScriptTree.Grammar
