import Mathlib.Logic.Relation
import ScriptTree.Proofs.Grammar.Derivation

/-!
# How a parse moves

Whatever a production does, it does by a few acts: it takes the first lexeme in
the normal mode, it reports something, it skips to a boundary, or it skips one
lexeme.  Where the boundary does not matter, a skip is a move that passes over
some lexemes.  So what every move keeps, every production keeps.
-/

namespace ScriptTree.Grammar

/-- One act of a parse. -/
inductive Act : State → State → Prop
  | take {state lexeme rest} (normal : state.recovering = false)
      (front : state.rest = lexeme :: rest) : Act state (state.advance lexeme rest)
  | report {state range expected} : Act state (state.report range expected)
  | fail {state expected} : Act state (state.fail expected)
  | reject {state production} : Act state (state.reject production)
  | rejectTarget {state target} : Act state (state.rejectTarget target)
  | synchronize {state level} : Act state (state.synchronize level).2
  | skipOne {state lexeme rest} (front : state.rest = lexeme :: rest) :
      Act state (state.skipOne lexeme rest).2

/-- Any number of acts. -/
def Acts (state next : State) : Prop :=
  Relation.ReflTransGen Act state next

namespace Acts

variable {first second third : State}

theorem refl (state : State) : Acts state state :=
  Relation.ReflTransGen.refl

theorem trans (early : Acts first second) (late : Acts second third) : Acts first third :=
  Relation.ReflTransGen.trans early late

theorem of_act (act : Act first second) : Acts first second :=
  Relation.ReflTransGen.single act

end Acts

/-- One move of a parse. -/
inductive Move : State → State → Prop
  | take {state lexeme rest} (normal : state.recovering = false)
      (front : state.rest = lexeme :: rest) : Move state (state.advance lexeme rest)
  | report {state range expected} : Move state (state.report range expected)
  | fail {state expected} : Move state (state.fail expected)
  | reject {state production} : Move state (state.reject production)
  | rejectTarget {state target} : Move state (state.rejectTarget target)
  | passOver {state skipped rest} (front : state.rest = skipped ++ rest) :
      Move state (state.passOver skipped rest)

/-- Any number of moves. -/
def Moves (state next : State) : Prop :=
  Relation.ReflTransGen Move state next

namespace Moves

variable {first second : State}

/-- What every move keeps is kept by any number of moves. -/
theorem keeps {motive : State → Prop}
    (kept : ∀ {state next}, Move state next → motive state → motive next)
    (moves : Moves first second) (before : motive first) : motive second := by
  induction moves with
  | refl => exact before
  | tail _ move ih => exact kept move ih

end Moves

/-- An act is a move. -/
theorem Act.move {state next : State} (act : Act state next) : Move state next := by
  cases act with
  | take normal front => exact .take normal front
  | report => exact .report
  | fail => exact .fail
  | reject => exact .reject
  | rejectTarget => exact .rejectTarget
  | synchronize => exact .passOver (SyncLevel.skip_append _ 0 state.rest).symm
  | skipOne front => exact .passOver front

theorem Acts.moves {state next : State} (acts : Acts state next) : Moves state next :=
  Relation.ReflTransGen.mono (fun _ _ (act : Act _ _) => act.move) _ _ acts

/-! ## The acts of the productions -/

/-- To take a token is to act. -/
theorem Taking.acts {α : Type} {state next : State} {recognize : Token → Option α} {value : α}
    {lexeme : Lexeme} (taken : Takes state recognize value lexeme next) : Acts state next := by
  rw [taken.moved]
  exact .of_act (.take taken.normal taken.front)

theorem acts_reportMissing (state : State) (token : Token) :
    Acts state (state.reportMissing token) :=
  .of_act .report

theorem acts_fail (state : State) (expected : Expectation) : Acts state (state.fail expected) :=
  .of_act .fail

theorem acts_reject (state : State) (production : String) :
    Acts state (state.reject production) :=
  .of_act .reject

theorem acts_checkTarget (state : State) (target : Expression) :
    Acts state (state.checkTarget target) := by
  unfold State.checkTarget
  split
  · exact .refl state
  · exact .of_act .rejectTarget

@[simp]
theorem State.rest_checkTarget (state : State) (target : Expression) :
    (state.checkTarget target).rest = state.rest := by
  unfold State.checkTarget
  split <;> rfl

@[simp]
theorem State.anchor_checkTarget (state : State) (target : Expression) :
    (state.checkTarget target).anchor = state.anchor := by
  unfold State.checkTarget
  split <;> rfl

@[simp]
theorem State.recovering_checkTarget (state : State) (target : Expression) :
    (state.checkTarget target).recovering = state.recovering := by
  unfold State.checkTarget
  split <;> rfl

theorem Resumes.acts {level : SyncLevel} {start state next : State} {skipped : Option ErrorNode}
    (resumes : Resumes level start state skipped next) : Acts state next := by
  cases resumes with
  | onward => exact .refl state
  | synchronized => exact .of_act .synchronize
  | skippedOne _ _ front => exact .of_act (.skipOne front)

/-- A skip ends the recovering. -/
theorem Resumes.normal {level : SyncLevel} {start state next : State}
    {skipped : Option ErrorNode} (resumes : Resumes level start state skipped next) :
    next.recovering = false := by
  cases resumes with
  | onward _ normal => exact normal
  | synchronized => rfl
  | skippedOne => rfl

/-- Whether a production is a list that gets back on track by itself. -/
def Production.isList : Production → Bool
  | .statements | .classItems | .declarations => true
  | _ => false

/-- A list that is begun in the normal mode ends in it. -/
theorem Derivation.normal_of_isList {permits : State → Prop} {production : Production}
    {state next : State} {value : production.Value}
    (reads : Derivation permits production state value next)
    (list : production.isList = true) (normal : state.recovering = false) :
    next.recovering = false := by
  induction reads with
  | statementsEnd | classItemsEnd | declarationsEnd => exact normal
  | statementsNext _ _ resumes _ _ later | classItemsNext _ _ resumes _ _ later
  | declarationsNext _ _ resumes _ _ later => exact later rfl resumes.normal
  | _ => cases list

/-- Whether a production reads no statement and no declaration but one of a variable. -/
def Production.isPhrase : Production → Bool
  | .block | .statements | .statement | .branch | .instanceBody _ | .declarationBody
  | .classItem | .classItems | .classBody | .declaration | .declarations => false
  | _ => true

/-- A property of states that is kept by the steps of a phrase. -/
structure State.KeptByPhrases (motive : State → Prop) : Prop where
  take : ∀ {α : Type} {recognize : Token → Option α} {value : α} {lexeme : Lexeme}
    {state next : State}, Takes state recognize value lexeme next → motive state → motive next
  fail : ∀ {state : State} (expected : Expectation), motive state → motive (state.fail expected)
  reportMissing : ∀ {state : State} (token : Token),
    motive state → motive (state.reportMissing token)

/-- A property of states that is kept by the further steps of what is no phrase.  What is known of
the target of an assignment may be used where it is checked. -/
structure State.KeptByItems (motive : State → Prop) : Prop where
  reject : ∀ {state : State} (production : String), motive state → motive (state.reject production)
  checkTarget : ∀ {state after : State} {target : Expression},
    Reads (.operation lowestPower) state target after →
      motive state → motive after → motive (after.checkTarget target)
  resume : ∀ {level : SyncLevel} {start state next : State} {skipped : Option ErrorNode},
    Resumes level start state skipped next → motive state → motive next

/-- What each step keeps, a production keeps.  A production is a sequence of steps and of smaller
productions, and so is each case here; inside of a phrase there are phrases only. -/
theorem Derivation.keeps {motive : State → Prop} {production : Production} {state next : State}
    {value : production.Value} (reads : Reads production state value next)
    (kept : State.KeptByPhrases motive)
    (items : production.isPhrase = false → State.KeptByItems motive) :
    motive state → motive next := by
  induction reads with
  -- Nothing happens.
  | optionalAbsent | expectedIdle | terminatorIdle | identifierIdle | operatorsEnd | accessesEnd
  | elementsEnd | arraySizeAbsent | initializerAbsent | statementsEnd | branchRecovering
  | parentAbsent | instanceIdle | bodyIdle | qualifierAbsent | parameterListIdle | classItemsEnd
  | declarationsEnd => exact id
  -- One lexeme is taken, or something is reported in its place.
  | optionalTaken taken | expectedTaken taken | closingBraceTaken taken | terminatorTaken taken
  | identifierTaken taken | nameTaken taken | typeTaken taken | primaryLiteral taken
  | qualifierWritten taken => exact kept.take taken
  | expectedMissing | closingBraceMissing | terminatorMissing | identifierMissing | nameMissing
  | typeMissing | primaryMissing | blockMissing | statementAbsent | instanceBare
  | parameterListMissing | classBodyMissing => exact kept.fail _
  | terminatorGranted => exact kept.reportMissing _
  | statementRejected | classRejected | declarationRejected => exact (items rfl).reject _
  | instanceForward taken =>
    intro before
    refine kept.take taken ?_
    split
    · exact before
    · exact kept.reportMissing _ before
  -- Expressions
  | operation _ _ operand operators => exact operators nofun ∘ operand nofun
  | operatorsNext taken _ _ operand more => exact more nofun ∘ operand nofun ∘ kept.take taken
  | operandSigned taken _ operand => exact operand nofun ∘ kept.take taken
  | operandPlain _ _ _ primary accesses => exact accesses nofun ∘ primary nofun
  | primaryParenthesized taken _ _ inner closing =>
    exact closing nofun ∘ inner nofun ∘ kept.take taken
  | accessesIndex taken _ _ _ inner closing more =>
    exact more nofun ∘ closing nofun ∘ inner nofun ∘ kept.take taken
  | accessesMember taken _ _ name more => exact more nofun ∘ name nofun ∘ kept.take taken
  | accessesEmptyCall taken closes _ more => exact more nofun ∘ kept.take closes ∘ kept.take taken
  | accessesCall taken _ _ _ arguments more => exact more nofun ∘ arguments nofun ∘ kept.take taken
  | argumentsLast _ _ _ argument closing => exact closing nofun ∘ argument nofun
  | argumentsTrailing _ taken closes argument =>
    exact kept.take closes ∘ kept.fail _ ∘ kept.take taken ∘ argument nofun
  | argumentsNext _ taken _ _ argument more => exact more nofun ∘ kept.take taken ∘ argument nofun
  | elementsMissing _ _ _ element | elementsLast _ _ _ _ element => exact element nofun
  | elementsNext _ _ _ taken _ element more => exact more nofun ∘ kept.take taken ∘ element nofun
  | initialElements taken _ _ elements closing =>
    exact closing nofun ∘ elements nofun ∘ kept.take taken
  | initialExpression _ _ expression => exact expression nofun
  -- Variables and assignments
  | arraySizeWritten taken _ _ size closing => exact closing nofun ∘ size nofun ∘ kept.take taken
  | initializerWritten taken _ initial => exact initial nofun ∘ kept.take taken
  | variableDeclaration taken _ _ _ _ _ type name size initializer ending =>
    exact ending nofun ∘ initializer nofun ∘ size nofun ∘ name nofun ∘ type nofun ∘ kept.take taken
  | assignmentSigned taken _ _ right ending => exact ending nofun ∘ right nofun ∘ kept.take taken
  | assignmentUnsigned _ _ ending => exact ending nofun ∘ kept.fail _
  -- Statements
  | conditionBare _ _ _ condition => exact condition nofun ∘ kept.reportMissing _
  | conditionPlain _ _ condition => exact condition nofun
  | blockWritten taken _ _ content closing => exact closing nofun ∘ content items ∘ kept.take taken
  | statementsNext _ _ resumes _ item more =>
    exact more items ∘ (items rfl).resume resumes ∘ item items
  | statementIf taken _ _ _ condition consequence =>
    exact consequence items ∘ condition nofun ∘ kept.take taken
  | statementIfElse taken _ _ otherwise _ condition consequence alternative =>
    exact alternative items ∘ kept.take otherwise ∘ consequence items ∘ condition nofun ∘
      kept.take taken
  | statementReturn taken _ _ ending => exact ending nofun ∘ kept.take taken
  | statementReturnValue taken _ _ _ result ending =>
    exact ending nofun ∘ result nofun ∘ kept.take taken
  | statementVariable _ declaration => exact declaration nofun
  | statementBlock _ _ block => exact block items
  | statementExpression _ _ _ _ expression ending => exact ending nofun ∘ expression nofun
  | statementAssignment _ readsTarget _ _ target tail =>
    exact fun before =>
      tail nofun ((items rfl).checkTarget readsTarget before (target nofun before))
  | branchBlock _ _ _ _ block semicolon => exact semicolon nofun ∘ block items
  | branchStatement _ _ _ statement | branchMissing _ _ _ statement => exact statement items
  -- Declarations
  | parentWritten taken _ _ name closing => exact closing nofun ∘ name nofun ∘ kept.take taken
  | instanceBlock _ _ _ _ body semicolon => exact semicolon nofun ∘ body items
  | bodyMissing _ _ _ body => exact body items
  | bodyWritten _ _ _ _ body semicolon => exact semicolon nofun ∘ body items
  | parameter _ _ _ qualifier type name => exact name nofun ∘ type nofun ∘ qualifier nofun
  | parametersLast _ _ _ item closing => exact closing nofun ∘ item nofun
  | parametersTrailing _ taken closes item =>
    exact kept.take closes ∘ kept.fail _ ∘ kept.take taken ∘ item nofun
  | parametersNext _ taken _ _ item more => exact more nofun ∘ kept.take taken ∘ item nofun
  | parameterListEmpty taken closes => exact kept.take closes ∘ kept.take taken
  | parameterListFilled taken _ _ parameters => exact parameters nofun ∘ kept.take taken
  | classVariable _ declaration => exact declaration nofun
  | classAbandoned _ _ _ target => exact target nofun
  | classAssignment _ readsTarget _ _ target tail =>
    exact fun before =>
      tail nofun ((items rfl).checkTarget readsTarget before (target nofun before))
  | classItemsNext _ _ resumes _ item more =>
    exact more items ∘ (items rfl).resume resumes ∘ item items
  | classBodyWritten taken _ _ content closing =>
    exact closing nofun ∘ content items ∘ kept.take taken
  | declarationInstance taken _ _ _ name parent body =>
    exact body items ∘ parent nofun ∘ name nofun ∘ kept.take taken
  | declarationPrototype taken _ _ _ _ _ name opening parent closing body =>
    exact body items ∘ closing nofun ∘ parent nofun ∘ opening nofun ∘ name nofun ∘ kept.take taken
  | declarationFunction taken _ _ _ _ type name parameters body =>
    exact body items ∘ parameters nofun ∘ name nofun ∘ type nofun ∘ kept.take taken
  | declarationNamelessClass taken _ _ name => exact name nofun ∘ kept.take taken
  | declarationUnfinishedClass taken _ _ _ _ name body =>
    exact body items ∘ name nofun ∘ kept.take taken
  | declarationClass taken _ _ _ _ _ name body semicolon =>
    exact semicolon nofun ∘ body items ∘ name nofun ∘ kept.take taken
  | declarationVariable _ declaration => exact declaration nofun
  | declarationsNext _ _ resumes _ item more =>
    exact more items ∘ (items rfl).resume resumes ∘ item items

/-- What the steps of a phrase keep, a phrase keeps. -/
theorem Derivation.keeps_of_isPhrase {motive : State → Prop} {production : Production}
    {state next : State} {value : production.Value} (reads : Reads production state value next)
    (phrase : production.isPhrase = true) (kept : State.KeptByPhrases motive) :
    motive state → motive next :=
  reads.keeps kept fun other => absurd (phrase.symm.trans other) nofun

/-- A production does nothing but act. -/
theorem Derivation.acts {production : Production} {state next : State} {value : production.Value}
    (reads : Reads production state value next) : Acts state next :=
  reads.keeps (motive := Acts state)
    { take := fun taken acts => acts.trans taken.acts
      fail := fun expected acts => acts.trans (acts_fail _ expected)
      reportMissing := fun token acts => acts.trans (acts_reportMissing _ token) }
    (fun _ =>
      { reject := fun production acts => acts.trans (acts_reject _ production)
        checkTarget := fun _ _ acts => acts.trans (acts_checkTarget ..)
        resume := fun resumes acts => acts.trans resumes.acts })
    (.refl state)

/-! ## The moves of the productions -/

theorem Taking.moves {α : Type} {state next : State} {recognize : Token → Option α} {value : α}
    {lexeme : Lexeme} (taken : Takes state recognize value lexeme next) : Moves state next :=
  taken.acts.moves

theorem moves_reportMissing (state : State) (token : Token) :
    Moves state (state.reportMissing token) :=
  (acts_reportMissing ..).moves

theorem moves_fail (state : State) (expected : Expectation) : Moves state (state.fail expected) :=
  (acts_fail ..).moves

theorem moves_checkTarget (state : State) (target : Expression) :
    Moves state (state.checkTarget target) :=
  (acts_checkTarget ..).moves

theorem Resumes.moves {level : SyncLevel} {start state next : State} {skipped : Option ErrorNode}
    (resumes : Resumes level start state skipped next) : Moves state next :=
  resumes.acts.moves

/-- What a production does to a parse is made of moves. -/
theorem Derivation.moves {production : Production} {state next : State} {value : production.Value}
    (reads : Reads production state value next) : Moves state next :=
  reads.acts.moves

/-! ## What is left only gets less -/

/-- A move leaves an end of what was ahead. -/
theorem Move.rest_suffix {state next : State} (move : Move state next) :
    next.rest <:+ state.rest := by
  cases move with
  | take normal front => exact front ▸ List.suffix_cons ..
  | report => simp
  | fail => simp
  | reject => simp
  | rejectTarget => simp
  | passOver front => exact front ▸ List.suffix_append ..

theorem Moves.rest_suffix {state next : State} (moves : Moves state next) :
    next.rest <:+ state.rest :=
  moves.keeps (motive := fun state' => state'.rest <:+ state.rest)
    (fun move before => move.rest_suffix.trans before) List.suffix_rfl

theorem Derivation.rest_suffix {production : Production} {state next : State}
    {value : production.Value} (reads : Reads production state value next) :
    next.rest <:+ state.rest :=
  reads.moves.rest_suffix

theorem Derivation.length_rest_le {production : Production} {state next : State}
    {value : production.Value} (reads : Reads production state value next) :
    next.rest.length ≤ state.rest.length :=
  reads.rest_suffix.length_le

theorem Taking.length_rest {α : Type} {state next : State} {recognize : Token → Option α}
    {value : α} {lexeme : Lexeme} (taken : Takes state recognize value lexeme next) :
    state.rest.length = next.rest.length + 1 := by
  rw [taken.front, List.length_cons]

/-- A skip without an error node takes nothing. -/
theorem State.skip_eq_nil_of_stuck {state : State} {level : SyncLevel}
    (stuck : (state.synchronize level).1 = none) : (level.skip 0 state.rest).1 = [] := by
  cases skipped : (level.skip 0 state.rest).1 with
  | nil => rfl
  | cons => simp [State.synchronize, skipped, ErrorNode.ofTokens?] at stuck

/-- A skip without an error node leaves everything. -/
theorem State.skip_of_stuck {state : State} {level : SyncLevel}
    (stuck : (state.synchronize level).1 = none) :
    (level.skip 0 state.rest).2 = state.rest := by
  have whole := level.skip_append 0 state.rest
  rwa [skip_eq_nil_of_stuck stuck, List.nil_append] at whole

theorem Resumes.fewer {level : SyncLevel} {start state next : State}
    {skipped : Option ErrorNode} (resumes : Resumes level start state skipped next)
    (fewer : state.rest.length ≤ start.rest.length) :
    next.rest.length < start.rest.length := by
  cases resumes with
  | onward progress => exact progress
  | synchronized cause =>
    rcases cause with ⟨progress, _⟩ | ⟨_, found⟩
    · exact Nat.lt_of_le_of_lt (State.length_rest_synchronize_le state level) progress
    · exact Nat.lt_of_lt_of_le (State.length_rest_synchronize_lt_of_isSome found) fewer
  | skippedOne _ _ front =>
    rw [front] at fewer
    exact fewer

/-- Where an expression can start, one is read from at least one lexeme. -/
theorem Derivation.length_rest_lt {power : Nat} {state next : State} {value : Expression}
    (reads : Reads (.operation power) state value next) (normal : state.recovering = false)
    (opens : state.peek.any startsExpression = true) :
    next.rest.length < state.rest.length := by
  cases reads with
  | operation readsOperand readsOperators =>
    apply Nat.lt_of_le_of_lt readsOperators.length_rest_le
    cases readsOperand with
    | operandSigned taken readsOperand =>
      exact Nat.lt_of_le_of_lt readsOperand.length_rest_le taken.fewer
    | operandPlain declined readsPrimary readsAccesses =>
      apply Nat.lt_of_le_of_lt readsAccesses.length_rest_le
      cases readsPrimary with
      | primaryParenthesized taken readsInner closes =>
        exact Nat.lt_of_le_of_lt closes.length_rest_le
          (Nat.lt_of_le_of_lt readsInner.length_rest_le taken.fewer)
      | primaryLiteral taken => exact taken.fewer
      | primaryMissing noOpening noLiteral =>
        obtain ⟨lexeme, first, starts⟩ := exists_head_of_any_peek opens
        have refused :
            UnaryOperator.ofToken? lexeme.token = none ∧
              State.only .lParen lexeme.token = none ∧ Literal.ofToken? lexeme.token = none :=
          ⟨declined normal lexeme first, noOpening normal lexeme first,
            noLiteral normal lexeme first⟩
        cases found : lexeme.token <;> rw [found] at starts refused <;>
          simp [startsExpression, Token.isError, UnaryOperator.ofToken?, State.only,
            Literal.ofToken?] at starts refused

/-! ## Noted errors -/

@[simp]
theorem State.noted_advance (state : State) (lexeme : Lexeme) (rest : List Lexeme) :
    (state.advance lexeme rest).noted = state.noted :=
  rfl

/-- A report is noted even where nothing is added to the diagnostics. -/
@[simp]
theorem State.noted_report (state : State) (range : Range) (expected : Expectation) :
    (state.report range expected).noted = some state.index :=
  rfl

/-- What a report adds to the diagnostics, unless it is silent. -/
theorem State.diagnostics_report (state : State) (range : Range) (expected : Expectation) :
    (state.report range expected).diagnostics =
      if state.recovering || state.noted = some state.index || state.peek.any Token.isError then
        state.diagnostics
      else
        state.diagnostics ++ [{ range, problem := .unmet expected state.peek }] :=
  rfl

@[simp]
theorem State.recovering_report (state : State) (range : Range) (expected : Expectation) :
    (state.report range expected).recovering = state.recovering :=
  rfl

@[simp]
theorem State.recovering_reportMissing (state : State) (token : Token) :
    (state.reportMissing token).recovering = state.recovering :=
  rfl

theorem State.recovering_fail (state : State) (expected : Expectation) :
    (state.fail expected).recovering = (state.recovering || !state.admitsInsertion) := by
  unfold State.fail
  split <;> simp_all

@[simp]
theorem State.recovering_reject (state : State) (production : String) :
    (state.reject production).recovering = true :=
  rfl

@[simp]
theorem State.anchor_report (state : State) (range : Range) (expected : Expectation) :
    (state.report range expected).anchor = state.anchor :=
  rfl

@[simp]
theorem State.anchor_fail (state : State) (expected : Expectation) :
    (state.fail expected).anchor = state.anchor := by
  unfold State.fail
  split <;> rfl

@[simp]
theorem State.anchor_reject (state : State) (production : String) :
    (state.reject production).anchor = state.anchor :=
  rfl

@[simp]
theorem State.noted_fail (state : State) (expected : Expectation) :
    (state.fail expected).noted = some state.index := by
  unfold State.fail
  split <;> rfl

@[simp]
theorem State.noted_reject (state : State) (production : String) :
    (state.reject production).noted = some state.index :=
  rfl

@[simp]
theorem State.index_report (state : State) (range : Range) (expected : Expectation) :
    (state.report range expected).index = state.index :=
  rfl

@[simp]
theorem State.index_fail (state : State) (expected : Expectation) :
    (state.fail expected).index = state.index := by
  unfold State.fail
  split <;> rfl

@[simp]
theorem State.index_reject (state : State) (production : String) :
    (state.reject production).index = state.index :=
  rfl

/-- A parse recovers only from an error that it noted. -/
def State.Accounted (state : State) : Prop :=
  state.recovering = true → state.noted.isSome = true

theorem Move.noted {state next : State} (move : Move state next)
    (before : state.noted.isSome = true) : next.noted.isSome = true := by
  cases move with
  | take | rejectTarget | passOver => exact before
  | report => simp
  | fail => simp
  | reject => simp

theorem Move.accounted {state next : State} (move : Move state next)
    (before : state.Accounted) : next.Accounted := by
  intro recovering
  cases move with
  | take | rejectTarget => exact before recovering
  | passOver => cases recovering
  | report => simp
  | fail => simp
  | reject => simp

/-- Where nothing is noted at the end, nothing was noted before. -/
theorem Moves.noted_eq_none {state next : State} (moves : Moves state next)
    (clean : next.noted = none) : state.noted = none := by
  cases found : state.noted with
  | none => rfl
  | some index =>
    have later := moves.keeps (motive := fun state => state.noted.isSome = true)
      (fun move => move.noted) (by simp [found])
    rw [clean] at later
    cases later

theorem Moves.accounted {state next : State} (moves : Moves state next)
    (before : state.Accounted) : next.Accounted :=
  moves.keeps (fun move => move.accounted) before

end ScriptTree.Grammar
