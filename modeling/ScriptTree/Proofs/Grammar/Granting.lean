import ScriptTree.Proofs.Grammar.Braces
import ScriptTree.Proofs.Grammar.Omission
import ScriptTree.Proofs.Grammar.Phrase
import ScriptTree.Proofs.Node.Endings

/-!
# Going on without a semicolon

Where a semicolon that ends a statement is left out, the parse takes it for
granted: it reports that the semicolon is missing, and goes on as if it were
there.  From then on it reads the same, so all in all it yields the same tree but
for that semicolon.
-/

namespace ScriptTree.Grammar

variable {omission : Omission} {state next other : State}

/-! ## At the place of the semicolon -/

/-- Where the omitted semicolon stood, it may be taken for granted. -/
theorem Omission.IsHarmless.admitsInsertion (harmless : omission.IsHarmless)
    (front : state.rest = omission.left) (anchor : state.anchor = omission.place)
    (plain : State.opensNextStatement omission.next.token = false) :
    state.admitsInsertion = true := by
  unfold State.admitsInsertion
  rw [front, anchor, Omission.left, List.head?_cons]
  dsimp only
  rcases harmless.granted with listed | below
  · simp only [List.mem_cons, List.not_mem_nil, or_false] at listed
    rcases listed with same | same | same | same | same | same | same <;>
      rw [same] at plain ⊢ <;> first | rfl | cases plain
  · have line : omission.place.start.line < omission.next.range.start.line := below
    rw [decide_eq_true line]
    simp only [Bool.or_true]
    split <;> rfl

namespace Lacks

/-- In a normal state that noted nothing the missing semicolon is reported. -/
theorem Due.report_eq (due : Due omission state other) (harmless : omission.IsHarmless)
    (clean : state.Clean) :
    other.report other.anchor (.tokens [.semicolon]) =
      { other with noted := some other.index, diagnostics := [omission.report] } := by
  have readable : omission.next.token.isError = false := harmless.refuses.2.2.2.1
  rcases due with ⟨-, rfl, anchor⟩
  simp [State.report, State.peek, Omission.left, readable, clean.normal, clean.unnoted,
    clean.unreported, anchor, Omission.report]

/-- Where the semicolon is due, one parse takes it, and the other one takes it for granted. -/
theorem Due.granted {α : Type} {recognize : Token → Option α} {value : α} {lexeme : Lexeme}
    (due : Due omission state other) (harmless : omission.IsHarmless) (clean : state.Clean)
    (taken : Takes state recognize value lexeme next) :
    lexeme = omission.semicolon ∧
      ∃ after, Reads .terminator other none after ∧ Lacks omission next after := by
  have front := taken.front
  rw [due.rest, List.cons.injEq] at front
  have missed : Misses other (State.only .semicolon) := by
    refine ⟨by rw [due.same]; exact clean.normal, ?_⟩
    intro first member
    rw [due.same] at member
    cases member
    exact harmless.refuses_only (by decide)
  have behind : Lacks omission next (other.report other.anchor (.tokens [.semicolon])) := by
    rw [due.report_eq harmless clean, due.same]
    exact .behind front.2 (by rw [front.2]) clean.normal rfl
  have first : other.peek = some omission.next.token := by
    rw [due.same]
    rfl
  refine ⟨front.1.symm, _, ?_, behind⟩
  cases opens : State.opensNextStatement omission.next.token with
  | true => exact .terminatorGranted missed (by rw [first]; exact opens)
  | false =>
    have admitted : other.admitsInsertion = true :=
      harmless.admitsInsertion (by rw [due.same]) (by rw [due.same]; exact due.anchor) opens
    have missing : Reads .terminator other none (other.fail (.tokens [.semicolon])) :=
      .terminatorMissing missed (by rw [first]; exact opens)
    rwa [State.fail, if_pos admitted] at missing

end Lacks

/-- A terminator is read without the omitted semicolon. -/
theorem Lacks.reads_terminator (harmless : omission.IsHarmless) {terminator : Option Range}
    (reads : Reads .terminator state terminator next) (sound : state.Sound) (clean : next.Clean)
    (lacks : Lacks omission state other) :
    ∃ after, Reads .terminator other (withoutPlace omission.semicolon.range terminator) after ∧
      Lacks omission next after := by
  cases reads with
  | terminatorTaken taken =>
    rcases lacks.due_or_elsewhere harmless taken with due | elsewhere
    · rcases due.granted harmless (taken.clean sound clean) taken with ⟨rfl, granted⟩
      rwa [withoutPlace_self]
    · have different : _ ≠ omission.semicolon := fun same => elsewhere (same ▸ rfl)
      rcases lacks.takes_of_ne taken different with ⟨after, taken, lacks⟩
      rw [withoutPlace_of_ne elsewhere]
      exact ⟨after, .terminatorTaken taken, lacks⟩
  | terminatorGranted => exact absurd clean (not_clean_reportMissing _ _)
  | terminatorMissing => exact absurd clean (not_clean_fail _ _)
  | terminatorIdle recovering =>
    rw [clean.normal] at recovering
    cases recovering

/-- A semicolon that ends nothing is another one, and it is taken in both parses. -/
theorem Lacks.reads_optional (harmless : omission.IsHarmless) {semicolon : Option Range}
    (reads : Reads (.optional .semicolon) state semicolon next) (clean : state.Clean)
    (kept : semicolon ≠ some omission.semicolon.range) (lacks : Lacks omission state other) :
    ∃ after, Reads (.optional .semicolon) other semicolon after ∧ Lacks omission next after := by
  cases reads with
  | optionalTaken taken =>
    have different : _ ≠ omission.semicolon := fun same => kept (same ▸ rfl)
    rcases lacks.takes_of_ne taken different with ⟨after, taken, lacks⟩
    exact ⟨after, .optionalTaken taken, lacks⟩
  | optionalAbsent declined =>
    exact ⟨other, .optionalAbsent (lacks.declines clean declined
      (harmless.refuses_only (by decide))), lacks⟩

/-! ## Variables and assignments -/

/-- A variable declaration is read without the omitted semicolon. -/
theorem Lacks.reads_variableDeclaration (harmless : omission.IsHarmless)
    {declaration : VariableDeclaration}
    (reads : Reads .variableDeclaration state declaration next) (sound : state.Sound)
    (clean : next.Clean) (lacks : Lacks omission state other) :
    ∃ after, Reads .variableDeclaration other
        (declaration.without omission.semicolon.range) after ∧ Lacks omission next after := by
  cases reads with
  | variableDeclaration taken readsType readsName readsSize readsInitializer ends =>
    have soundType := taken.sound sound
    have soundName := readsType.sound soundType
    have soundSize := readsName.sound soundName
    have soundInitializer := readsSize.sound soundSize
    have soundEnd := readsInitializer.sound soundInitializer
    have cleanInitializer := ends.clean soundEnd clean
    have cleanSize := readsInitializer.clean soundInitializer cleanInitializer
    have cleanName := readsSize.clean soundSize cleanSize
    have cleanType := readsName.clean soundName cleanName
    rcases lacks.takes harmless taken rfl with ⟨_, taken, lacks⟩
    rcases lacks.reads_fragment harmless readsType rfl soundType cleanType
      with ⟨_, readsType, lacks⟩
    rcases lacks.reads_fragment harmless readsName rfl soundName cleanName
      with ⟨_, readsName, lacks⟩
    rcases lacks.reads_fragment harmless readsSize rfl soundSize cleanSize
      with ⟨_, readsSize, lacks⟩
    rcases lacks.reads_fragment harmless readsInitializer rfl soundInitializer cleanInitializer
      with ⟨_, readsInitializer, lacks⟩
    rcases lacks.reads_terminator harmless ends soundEnd clean with ⟨after, ends, lacks⟩
    exact ⟨after,
      .variableDeclaration taken readsType readsName readsSize readsInitializer ends, lacks⟩

/-- A target and the rest of its assignment are read alike in both parses. -/
theorem Lacks.reads_assignment (harmless : omission.IsHarmless) {afterTarget : State}
    {target : Expression} {tail : AssignmentTail}
    (readsTarget : Reads (.operation lowestPower) state target afterTarget)
    (readsTail : Reads .assignmentTail (afterTarget.checkTarget target) tail next)
    (sound : state.Sound) (clean : next.Clean) (lacks : Lacks omission state other) :
    ∃ between rest after, Reads (.operation lowestPower) other target between ∧
      afterTarget.Clean ∧ Lacks omission afterTarget between ∧
      Reads .assignmentTail (between.checkTarget target) rest after ∧
      rest.onto target = (tail.onto target).without omission.semicolon.range ∧
      Lacks omission next after := by
  have soundTarget := readsTarget.sound sound
  have soundTail := (moves_checkTarget afterTarget target).sound soundTarget
  have cleanTail := readsTail.clean soundTail clean
  have cleanTarget := (moves_checkTarget afterTarget target).clean soundTarget cleanTail
  have acceptable := isAcceptableTarget_of_clean cleanTail
  rcases lacks.reads_fragment harmless readsTarget rfl sound cleanTarget
    with ⟨between, readsTarget, lacksTarget⟩
  refine ⟨between, ?_⟩
  simp only [State.checkTarget, acceptable, if_true] at readsTail ⊢
  cases readsTail with
  | assignmentSigned taken readsRight ends =>
    have soundRight := taken.sound soundTarget
    have soundEnd := readsRight.sound soundRight
    have cleanRight := ends.clean soundEnd clean
    rcases lacksTarget.takes harmless taken rfl with ⟨_, taken, lacks⟩
    rcases lacks.reads_fragment harmless readsRight rfl soundRight cleanRight
      with ⟨_, readsRight, lacks⟩
    rcases lacks.reads_terminator harmless ends soundEnd clean with ⟨after, ends, lacks⟩
    exact ⟨_, after, readsTarget, cleanTarget, lacksTarget,
      .assignmentSigned taken readsRight ends, rfl, lacks⟩
  | assignmentUnsigned _ ends =>
    have before := ends.clean ((moves_fail ..).sound soundTarget) clean
    exact absurd before (not_clean_fail _ _)

/-! ## Lists -/

theorem State.peek_ne_semicolon_of_endsList (ends : endsList state = true) :
    state.peek ≠ some .semicolon := by
  intro found
  rw [endsList, found] at ends
  cases ends

/-- A statement does not start with a semicolon, and takes a token. -/
theorem Derivation.apart_statement {item : Option Statement}
    (reads : Reads .statement state item next) (sound : state.Sound) (clean : next.Clean) :
    state.peek ≠ some .semicolon ∧ next.rest.length < state.rest.length := by
  refine @Derivation.apart _ _ _ _ reads trivial sound clean startsStatement rfl fun complete => ?_
  rcases (Option.any_eq_true _ _).mp complete with ⟨statement, rfl, whole⟩
  exact Statement.exists_firstToken? whole

theorem Derivation.apart_statements {items : List Statement}
    (reads : Reads .statements state items next) (sound : state.Sound) (clean : next.Clean) :
    state.peek ≠ some .semicolon := by
  cases reads with
  | statementsEnd ends => exact State.peek_ne_semicolon_of_endsList ends
  | statementsNext _ readsItem resumes readsMore =>
    have cleanItem := resumes.clean_before readsMore (readsItem.sound sound) clean
    exact (readsItem.apart_statement sound cleanItem).1

theorem Derivation.apart_classItem {item : Option ClassItem}
    (reads : Reads .classItem state item next) (sound : state.Sound) (clean : next.Clean) :
    state.peek ≠ some .semicolon ∧ next.rest.length < state.rest.length := by
  refine @Derivation.apart _ _ _ _ reads trivial sound clean startsStatement rfl fun complete => ?_
  rcases (Option.any_eq_true _ _).mp complete with ⟨item, rfl, whole⟩
  exact ClassItem.exists_firstToken? whole

theorem Derivation.apart_declaration {item : Option Declaration}
    (reads : Reads .declaration state item next) (sound : state.Sound) (clean : next.Clean) :
    state.peek ≠ some .semicolon ∧ next.rest.length < state.rest.length := by
  refine @Derivation.apart _ _ _ _ reads trivial sound clean Token.isDeclarationKeyword rfl
    fun complete => ?_
  rcases (Option.any_eq_true _ _).mp complete with ⟨declaration, rfl, whole⟩
  exact Declaration.exists_firstToken? whole

namespace Lacks

/-- What moves one parse on moves the other one on. -/
theorem shorter {after : State} (lacks : Lacks omission state other)
    (later : Lacks omission next after) (harmless : omission.IsHarmless)
    (apart : state.peek ≠ some .semicolon) (progress : next.rest.length < state.rest.length) :
    after.rest.length < other.rest.length := by
  cases lacks with
  | @ahead front rest =>
    have nonempty : front ≠ [] := by
      rintro rfl
      rw [State.peek, rest, List.nil_append, List.head?_cons, Option.map_some,
        harmless.isSemicolon] at apart
      exact apart rfl
    have positive := List.length_pos_iff.mpr nonempty
    rw [rest] at progress
    cases later with
    | ahead restLater =>
      rw [restLater] at progress
      simp only [List.length_append, List.length_cons] at progress ⊢
      omega
    | behind restLater part =>
      have bound := part.length_le
      rw [restLater]
      simp only [List.length_append]
      omega
  | behind rest part =>
    have bound := part.length_le
    rw [rest]
    cases later with
    | ahead restLater =>
      rw [restLater] at progress
      simp only [List.length_append, List.length_cons] at progress ⊢
      omega
    | behind restLater => rwa [restLater]

/-- A list ends without the omitted semicolon where it ended with it. -/
theorem endsList_eq (lacks : Lacks omission state other) (harmless : omission.IsHarmless)
    (apart : state.peek ≠ some .semicolon) : endsList other = endsList state := by
  rw [endsList, endsList, lacks.peek_eq harmless apart]

/-- A list goes right on in both parses. -/
theorem resumes {level : SyncLevel} {after : State} (lacks : Lacks omission state other)
    (later : Lacks omission next after) (harmless : omission.IsHarmless)
    (apart : state.peek ≠ some .semicolon) (progress : next.rest.length < state.rest.length)
    (clean : next.Clean) : Resumes level other after none after :=
  .onward (lacks.shorter later harmless apart progress) (later.normal clean)

end Lacks

/-! ## Who owns the semicolon -/

/-- The semicolon that a production takes for the node around it. -/
def Production.loose : (production : Production) → production.Value → Option Range
  | .branch, value => value.semicolon
  | .instanceBody _, (_, semicolon) | .declarationBody, (_, semicolon) => semicolon
  | _, _ => none

/-- The semicolon that is left out, if a production yields it, ends a statement or a variable. -/
structure Omission.Spares (omission : Omission) (production : Production)
    (value : production.Value) : Prop where
  loose : production.loose value ≠ some omission.semicolon.range
  nodes : Node.Every (Node.EndsAt omission.semicolon.range
    (startsExpression omission.next.token = false)) (production.nodes value)

namespace Omission.Spares

/-- An omission that spares a block spares its statements. -/
theorem statements {opening : Range} {items : List Statement} {closing : Option Range}
    (spares : omission.Spares .block (.written opening items closing)) :
    omission.Spares .statements items := by
  refine ⟨nofun, ?_⟩
  have below := (Node.every_singleton.mp spares.nodes).2
  rwa [Block.children_written] at below

theorem statementsNext {statement : Statement} {more : List Statement}
    (spares : omission.Spares .statements (statement :: more)) :
    omission.Spares .statement (some statement) ∧ omission.Spares .statements more :=
  ⟨⟨nofun, (Node.every_cons.mp spares.nodes).1⟩, ⟨nofun, (Node.every_cons.mp spares.nodes).2⟩⟩

theorem consequence {keyword : Range} {condition : Expression} {consequence : Branch}
    {otherwise : Option (Range × Branch)}
    (spares : omission.Spares .statement
      (some (.ifStatement keyword condition consequence otherwise))) :
    omission.Spares .branch consequence := by
  rcases Node.every_singleton.mp spares.nodes with ⟨ends, below⟩
  rw [Statement.children_ifStatement, Node.every_cons, Node.every_append] at below
  exact ⟨Statement.semicolon_consequence_ne ends, below.2.1⟩

theorem alternative {keyword elseKeyword : Range} {condition : Expression}
    {consequence alternative : Branch}
    (spares : omission.Spares .statement
      (some (.ifStatement keyword condition consequence (some (elseKeyword, alternative))))) :
    omission.Spares .branch alternative := by
  rcases Node.every_singleton.mp spares.nodes with ⟨ends, below⟩
  rw [Statement.children_ifStatement, Node.every_cons, Node.every_append] at below
  refine ⟨Statement.semicolon_alternative_ne ends, ?_⟩
  simpa [Production.nodes] using below.2.2

theorem block {block : Block} (spares : omission.Spares .statement (some (.block block))) :
    omission.Spares .block block := by
  have nodes := spares.nodes
  rw [Production.nodes, Option.toList_some, List.map_singleton, Statement.toNode,
    Statement.assembly] at nodes
  exact ⟨by rintro ⟨⟩, nodes⟩

theorem branch {statement : Statement} {semicolon : Option Range}
    (spares : omission.Spares .branch (.written statement semicolon)) :
    omission.Spares .statement (some statement) :=
  ⟨nofun, spares.nodes⟩

theorem declarationsNext {declaration : Declaration} {more : List Declaration}
    (spares : omission.Spares .declarations (declaration :: more)) :
    omission.Spares .declaration (some declaration) ∧ omission.Spares .declarations more :=
  ⟨⟨nofun, (Node.every_cons.mp spares.nodes).1⟩, ⟨nofun, (Node.every_cons.mp spares.nodes).2⟩⟩

theorem instanceBody {declaration : InstanceDeclaration}
    (spares : omission.Spares .declaration (some (.instanceDeclaration declaration)))
    (hasParent : Bool) :
    omission.Spares (.instanceBody hasParent) (declaration.body, declaration.semicolon) := by
  rcases Node.every_singleton.mp spares.nodes with ⟨ends, below⟩
  have children := declaration.children_toNode
  rw [show (Declaration.instanceDeclaration declaration).toNode.children = _ from children,
    Node.every_cons, Node.every_append] at below
  exact ⟨declaration.semicolon_ne ends, below.2.2⟩

theorem prototypeBody {declaration : PrototypeDeclaration}
    (spares : omission.Spares .declaration (some (.prototypeDeclaration declaration))) :
    omission.Spares .declarationBody (declaration.body, declaration.semicolon) := by
  rcases Node.every_singleton.mp spares.nodes with ⟨ends, below⟩
  have children := declaration.children_toNode
  rw [show (Declaration.prototypeDeclaration declaration).toNode.children = _ from children]
    at below
  have nodes := (Node.every_cons.mp (Node.every_cons.mp below).2).2
  exact ⟨declaration.semicolon_ne ends, nodes⟩

theorem functionBody {declaration : FunctionDeclaration}
    (spares : omission.Spares .declaration (some (.functionDeclaration declaration))) :
    omission.Spares .declarationBody (declaration.body, declaration.semicolon) := by
  rcases Node.every_singleton.mp spares.nodes with ⟨ends, below⟩
  have children := declaration.children_toNode
  rw [show (Declaration.functionDeclaration declaration).toNode.children = _ from children]
    at below
  have nodes := (Node.every_cons.mp (Node.every_cons.mp (Node.every_cons.mp below).2).2).2
  exact ⟨declaration.semicolon_ne ends, nodes⟩

theorem classSemicolon {declaration : ClassDeclaration}
    (spares : omission.Spares .declaration (some (.classDeclaration declaration))) :
    declaration.semicolon ≠ some omission.semicolon.range :=
  declaration.semicolon_ne (Node.every_singleton.mp spares.nodes).1

end Omission.Spares

/-! ## Statements and blocks -/

/-- What a production yields without the semicolon at some place. -/
def Production.without (place : Range) :
    (production : Production) → production.Value → production.Value
  | .block, value => value.without place
  | .statements, items => Statement.listWithout place items
  | .statement, item => item.map (Statement.without place)
  | .branch, value => value.without place
  | .classItems, items => items.map (ClassItem.without place)
  | .declarations, items => items.map (Declaration.without place)
  | _, value => value

/-- In another state a production reads the same but for the semicolon, and goes on without it. -/
def Omission.Rereads (omission : Omission) (production : Production) (value : production.Value)
    (next other : State) : Prop :=
  ∃ after, Reads production other (production.without omission.semicolon.range value) after ∧
    Lacks omission next after

/-- From a sound state to a clean one, what reads statements reads them without the semicolon
too.  The semicolon must not come right after a single statement or a branch, since behind it there
could be an `else`. -/
def Production.RereadStatement (omission : Omission) (production : Production) (state : State)
    (value : production.Value) (next : State) : Prop :=
  production.isStatement = true → state.Sound → next.Clean → omission.Spares production value →
    (production = .statement ∨ production = .branch → next.peek ≠ some .semicolon) →
      ∀ {other : State}, Lacks omission state other → omission.Rereads production value next other

section

variable (harmless : omission.IsHarmless)

include harmless

theorem Production.reread_block :
    Production.block.Inherits State.Normal (RereadStatement omission) := by
  intro state value next reads parts _ sound clean spares apart other lacks
  cases parts with
  | blockMissing => exact absurd clean (not_clean_fail _ _)
  | blockWritten taken readsItems closes _ items =>
    have soundItems := taken.sound sound
    have soundClosing := readsItems.sound soundItems
    have cleanItems := closes.clean soundClosing clean
    rcases lacks.takes harmless taken rfl with ⟨_, taken, lacks⟩
    rcases items rfl soundItems cleanItems spares.statements (by simp) lacks
      with ⟨_, readsItems, lacks⟩
    rcases lacks.reads_fragment harmless closes rfl soundClosing clean with ⟨after, closes, lacks⟩
    refine ⟨after, ?_, lacks⟩
    rw [Production.without, Block.without]
    exact .blockWritten taken readsItems closes

theorem Production.reread_statements :
    Production.statements.Inherits State.Normal (RereadStatement omission) := by
  intro state value next reads parts _ sound clean spares apart other lacks
  cases parts with
  | statementsEnd ends =>
    rw [← lacks.endsList_eq harmless (State.peek_ne_semicolon_of_endsList ends)] at ends
    refine ⟨other, ?_, lacks⟩
    rw [Production.without, Statement.listWithout]
    exact .statementsEnd ends
  | @statementsNext state item _ _ _ _ _ goesOn readsItem resumes readsMore _ first _ later =>
    have soundItem := readsItem.sound sound
    have cleanItem := resumes.clean_before readsMore soundItem clean
    rcases readsItem.apart_statement sound cleanItem with ⟨apartHere, progress⟩
    -- Nothing is skipped between the statements of a parse without errors.
    rcases resumes.of_clean cleanItem progress with ⟨rfl, rfl⟩
    cases item with
    | none => exact absurd (readsItem.isComplete_of_clean trivial sound cleanItem) (by rintro ⟨⟩)
    | some statement =>
      have apartMore := readsMore.apart_statements soundItem clean
      rcases first rfl sound cleanItem spares.statementsNext.1 (fun _ => apartMore) lacks
        with ⟨_, rereadsItem, lacksMore⟩
      rcases later rfl soundItem clean spares.statementsNext.2 (by simp) lacksMore
        with ⟨after, rereadsMore, lacksLast⟩
      rw [← lacks.endsList_eq harmless apartHere] at goesOn
      refine ⟨after, ?_, lacksLast⟩
      exact .statementsNext goesOn rereadsItem
        (lacks.resumes lacksMore harmless apartHere progress cleanItem) rereadsMore

theorem Production.reread_statement :
    Production.statement.Inherits State.Normal (RereadStatement omission) := by
  intro state value next reads parts _ sound clean spares apart other lacks
  cases parts with
  | statementIf taken readsCondition readsConsequence noElse _ _ _ branch =>
    have soundCondition := taken.sound sound
    have soundBranch := readsCondition.sound soundCondition
    have cleanBranch := readsConsequence.clean soundBranch clean
    have apartNext := apart (.inl rfl)
    rcases lacks.takes harmless taken rfl with ⟨_, taken, lacks⟩
    rcases lacks.reads_fragment harmless readsCondition rfl soundCondition cleanBranch
      with ⟨_, readsCondition, lacks⟩
    rcases branch rfl soundBranch clean spares.consequence (fun _ => apartNext) lacks
      with ⟨after, readsConsequence, lacks⟩
    have noElse := lacks.declines_of_apart harmless clean noElse apartNext
    refine ⟨after, ?_, lacks⟩
    rw [Production.without, Option.map_some, Statement.without]
    exact .statementIf taken readsCondition readsConsequence noElse
  | statementIfElse taken readsCondition readsConsequence otherwise readsAlternative _ _ _ branch _
    last =>
    have soundCondition := taken.sound sound
    have soundBranch := readsCondition.sound soundCondition
    have soundElse := readsConsequence.sound soundBranch
    have soundLast := otherwise.sound soundElse
    have cleanElse := otherwise.clean soundElse (readsAlternative.clean soundLast clean)
    have cleanBranch := readsConsequence.clean soundBranch cleanElse
    have apartElse := @State.peek_ne_of_isAt _ _ .semicolon otherwise.isAt (by simp)
    rcases lacks.takes harmless taken rfl with ⟨_, taken, lacks⟩
    rcases lacks.reads_fragment harmless readsCondition rfl soundCondition cleanBranch
      with ⟨_, readsCondition, lacks⟩
    rcases branch rfl soundBranch cleanElse spares.consequence (fun _ => apartElse) lacks
      with ⟨_, readsConsequence, lacks⟩
    rcases lacks.takes harmless otherwise rfl with ⟨_, otherwise, lacks⟩
    rcases last rfl soundLast clean spares.alternative (fun _ => apart (.inl rfl)) lacks
      with ⟨after, readsAlternative, lacks⟩
    refine ⟨after, ?_, lacks⟩
    rw [Production.without, Option.map_some, Statement.without]
    exact .statementIfElse taken readsCondition readsConsequence otherwise readsAlternative
  | statementReturn taken bare ends =>
    have soundEnd := taken.sound sound
    have cleanEnd := ends.clean soundEnd clean
    rcases lacks.takes harmless taken rfl with ⟨_, taken, lacks⟩
    -- Without the semicolon, what comes after it must not be taken for a value.
    have bare := lacks.any_peek_eq_false bare fun due => by
      cases ends with
      | terminatorTaken ending =>
        rcases due.granted harmless cleanEnd ending with ⟨rfl, -⟩
        exact Statement.granted_of_bareReturn (Node.every_singleton.mp spares.nodes).1 rfl
      | terminatorGranted => exact absurd clean (not_clean_reportMissing _ _)
      | terminatorMissing => exact absurd clean (not_clean_fail _ _)
      | terminatorIdle recovering =>
        rw [clean.normal] at recovering
        cases recovering
    rcases lacks.reads_terminator harmless ends soundEnd clean with ⟨after, ends, lacks⟩
    refine ⟨after, ?_, lacks⟩
    rw [Production.without, Option.map_some, Statement.without]
    exact .statementReturn taken bare ends
  | statementReturnValue taken opens readsValue ends =>
    have soundValue := taken.sound sound
    have soundEnd := readsValue.sound soundValue
    have cleanValue := ends.clean soundEnd clean
    rcases lacks.takes harmless taken rfl with ⟨_, taken, lacks⟩
    have opens := lacks.any_peek_eq_true harmless opens rfl
    rcases lacks.reads_fragment harmless readsValue rfl soundValue cleanValue
      with ⟨_, readsValue, lacks⟩
    rcases lacks.reads_terminator harmless ends soundEnd clean with ⟨after, ends, lacks⟩
    refine ⟨after, ?_, lacks⟩
    rw [Production.without, Option.map_some, Statement.without]
    exact .statementReturnValue taken opens readsValue ends
  | statementVariable readsDeclaration =>
    rcases lacks.reads_variableDeclaration harmless readsDeclaration sound clean
      with ⟨after, readsDeclaration, lacks⟩
    refine ⟨after, ?_, lacks⟩
    rw [Production.without, Option.map_some, Statement.without]
    exact .statementVariable readsDeclaration
  | statementBlock opens readsBlock _ block =>
    have same := lacks.isAt_eq harmless (State.peek_ne_of_isAt opens (by simp)) .lBrace
    rcases block rfl sound clean spares.block (by simp) lacks with ⟨after, readsBlock, lacks⟩
    refine ⟨after, ?_, lacks⟩
    rw [Production.without, Option.map_some, Statement.without]
    exact .statementBlock (same ▸ opens) readsBlock
  | statementExpression opens readsExpression unsigned ends =>
    have soundEnd := readsExpression.sound sound
    have cleanEnd := ends.clean soundEnd clean
    have opens := lacks.any_peek_eq_true harmless opens rfl
    rcases lacks.reads_fragment harmless readsExpression rfl sound cleanEnd
      with ⟨_, readsExpression, lacks⟩
    rw [cleanEnd.normal] at unsigned
    have unsigned := lacks.any_peek_eq_false unsigned fun _ => harmless.refuses.2.2.1
    rcases lacks.reads_terminator harmless ends soundEnd clean with ⟨after, ends, lacks⟩
    refine ⟨after, ?_, lacks⟩
    rw [Production.without, Option.map_some, Statement.without]
    exact .statementExpression opens readsExpression (by rw [unsigned, Bool.and_false]) ends
  | statementAssignment opens readsTarget signed readsTail =>
    have opens := lacks.any_peek_eq_true harmless opens rfl
    rcases lacks.reads_assignment harmless readsTarget readsTail sound clean
      with ⟨_, rest, after, readsTarget, cleanTarget, lacksTarget, readsTail, same, lacks⟩
    rw [Bool.and_eq_true] at signed
    have signed := lacksTarget.any_peek_eq_true harmless signed.2 rfl
    have normal := lacksTarget.normal cleanTarget
    refine ⟨after, ?_, lacks⟩
    rw [Production.without, Option.map_some, Statement.without, ← same]
    exact .statementAssignment opens readsTarget (by rw [normal, signed]; rfl) readsTail
  | statementAbsent => exact absurd clean (not_clean_fail _ _)
  | statementRejected => exact absurd clean (not_clean_reject _ _)

theorem Production.reread_branch :
    Production.branch.Inherits State.Normal (RereadStatement omission) := by
  intro state value next reads parts _ sound clean spares apart other lacks
  cases parts with
  | branchRecovering recovering =>
    rw [clean.normal] at recovering
    cases recovering
  | branchBlock normal opens readsBlock readsSemicolon _ block =>
    have soundSemicolon := readsBlock.sound sound
    have cleanBlock := readsSemicolon.clean soundSemicolon clean
    have normal := lacks.normal (readsBlock.clean sound cleanBlock)
    have same := lacks.isAt_eq harmless (State.peek_ne_of_isAt opens (by simp)) .lBrace
    rcases block rfl sound cleanBlock spares.branch.block (by simp) lacks
      with ⟨_, readsBlock, lacks⟩
    rcases lacks.reads_optional harmless readsSemicolon cleanBlock spares.loose
      with ⟨after, readsSemicolon, lacks⟩
    refine ⟨after, ?_, lacks⟩
    rw [Production.without, Branch.without, Statement.without]
    exact .branchBlock normal (same ▸ opens) readsBlock readsSemicolon
  | branchStatement normal plain readsStatement _ statement =>
    have normal := lacks.normal (readsStatement.clean sound clean)
    have same := lacks.isAt_eq harmless (readsStatement.apart_statement sound clean).1 .lBrace
    rcases statement rfl sound clean spares.branch (fun _ => apart (.inr rfl)) lacks
      with ⟨after, readsStatement, lacks⟩
    refine ⟨after, ?_, lacks⟩
    rw [Production.without, Branch.without]
    exact .branchStatement normal (same ▸ plain) readsStatement
  | branchMissing _ _ readsStatement =>
    exact absurd (readsStatement.isComplete_of_clean trivial sound clean) (by rintro ⟨⟩)

theorem Production.inherits_rereadStatement (production : Production) :
    production.Inherits State.Normal (RereadStatement omission) := by
  cases production with
  | block => exact reread_block harmless
  | statements => exact reread_statements harmless
  | statement => exact reread_statement harmless
  | branch => exact reread_branch harmless
  | optional | expected | closingBrace | terminator | identifier | directName | typeReference
  | operation | operators | operand | primary | accesses | arguments | elements | initialValue
  | arraySize | initializer | variableDeclaration | assignmentTail | condition | parentClause
  | instanceBody | declarationBody | qualifier | parameter | parameters | parameterList
  | classItem | classItems | classBody | declaration | declarations =>
    exact fun _ _ _ _ _ => nofun

end

/-- In blocks and statements the semicolon may be left out. -/
theorem Lacks.rereads_statement (harmless : omission.IsHarmless) {production : Production}
    {value : production.Value} (reads : Reads production state value next)
    (within : production.isStatement = true) (sound : state.Sound) (clean : next.Clean)
    (spares : omission.Spares production value)
    (apart : production = .statement ∨ production = .branch → next.peek ≠ some .semicolon)
    (lacks : Lacks omission state other) : omission.Rereads production value next other :=
  reads.of_inherits (Production.inherits_rereadStatement harmless) within sound clean spares apart
    lacks

/-! ## Classes -/

/-- A class item is read without the omitted semicolon. -/
theorem Lacks.reads_classItem (harmless : omission.IsHarmless) {item : Option ClassItem}
    (reads : Reads .classItem state item next) (sound : state.Sound) (clean : next.Clean)
    (lacks : Lacks omission state other) :
    ∃ after, Reads .classItem other (item.map (ClassItem.without omission.semicolon.range)) after ∧
      Lacks omission next after := by
  cases reads with
  | classVariable readsDeclaration =>
    rcases lacks.reads_variableDeclaration harmless readsDeclaration sound clean
      with ⟨after, readsDeclaration, lacks⟩
    exact ⟨after, .classVariable readsDeclaration, lacks⟩
  | classAbandoned _ _ recovering =>
    rw [clean.normal] at recovering
    cases recovering
  | classAssignment opens readsTarget _ readsTail =>
    have same := lacks.isAt_eq harmless (State.peek_ne_of_isAt opens nofun) .identifier
    rcases lacks.reads_assignment harmless readsTarget readsTail sound clean
      with ⟨_, rest, after, readsTarget, cleanTarget, lacksTarget, readsTail, joined, lacks⟩
    refine ⟨after, ?_, lacks⟩
    rw [Option.map_some, ClassItem.without, ClassMember.without, ← joined]
    exact .classAssignment (same ▸ opens) readsTarget (lacksTarget.normal cleanTarget) readsTail
  | classRejected => exact absurd clean (not_clean_reject _ _)

theorem Lacks.rereads_classItems (harmless : omission.IsHarmless) {production : Production}
    {value : production.Value} (reads : Reads production state value next)
    (within : production = .classItems) (sound : state.Sound) (clean : next.Clean)
    (lacks : Lacks omission state other) : omission.Rereads production value next other := by
  induction reads generalizing other with
  | classItemsEnd ends =>
    rw [← lacks.endsList_eq harmless (State.peek_ne_semicolon_of_endsList ends)] at ends
    exact ⟨other, .classItemsEnd ends, lacks⟩
  | @classItemsNext state item _ _ _ _ _ goesOn readsItem resumes readsMore _ later =>
    have soundItem := readsItem.sound sound
    have cleanItem := resumes.clean_before readsMore soundItem clean
    rcases readsItem.apart_classItem sound cleanItem with ⟨apartHere, progress⟩
    rcases resumes.of_clean cleanItem progress with ⟨rfl, rfl⟩
    rcases lacks.reads_classItem harmless readsItem sound cleanItem
      with ⟨_, rereadsItem, lacksMore⟩
    rcases later rfl soundItem clean lacksMore with ⟨after, rereadsMore, lacksLast⟩
    rw [← lacks.endsList_eq harmless apartHere] at goesOn
    refine ⟨after, ?_, lacksLast⟩
    cases item <;> exact .classItemsNext goesOn rereadsItem
      (lacks.resumes lacksMore harmless apartHere progress cleanItem) rereadsMore
  | _ => cases within

theorem Lacks.reads_classBody (harmless : omission.IsHarmless) {body : ClassBody}
    (reads : Reads .classBody state body next) (sound : state.Sound) (clean : next.Clean)
    (lacks : Lacks omission state other) :
    ∃ after, Reads .classBody other (body.without omission.semicolon.range) after ∧
      Lacks omission next after := by
  cases reads with
  | classBodyMissing => exact absurd clean (not_clean_fail _ _)
  | classBodyWritten taken readsItems closes =>
    have soundItems := taken.sound sound
    have soundClosing := readsItems.sound soundItems
    have cleanItems := closes.clean soundClosing clean
    rcases lacks.takes harmless taken rfl with ⟨_, taken, lacks⟩
    rcases lacks.rereads_classItems harmless readsItems rfl soundItems cleanItems
      with ⟨_, readsItems, lacks⟩
    rcases lacks.reads_fragment harmless closes rfl soundClosing clean with ⟨after, closes, lacks⟩
    exact ⟨after, .classBodyWritten taken readsItems closes, lacks⟩

/-! ## Declarations -/

/-- A block is read without the omitted semicolon. -/
theorem Lacks.reads_block (harmless : omission.IsHarmless) {block : Block}
    (reads : Reads .block state block next) (sound : state.Sound) (clean : next.Clean)
    (spares : omission.Spares .block block) (lacks : Lacks omission state other) :
    ∃ after, Reads .block other (block.without omission.semicolon.range) after ∧
      Lacks omission next after :=
  lacks.rereads_statement harmless reads rfl sound clean spares (by simp)

theorem Lacks.reads_declarationBody (harmless : omission.IsHarmless) {body : Block}
    {semicolon : Option Range} (reads : Reads .declarationBody state (body, semicolon) next)
    (sound : state.Sound) (clean : next.Clean)
    (spares : omission.Spares .declarationBody (body, semicolon))
    (lacks : Lacks omission state other) :
    ∃ after, Reads .declarationBody other
        (body.without omission.semicolon.range, semicolon) after ∧ Lacks omission next after := by
  cases reads with
  | bodyIdle recovering =>
    rw [clean.normal] at recovering
    cases recovering
  | bodyMissing _ readsBody missing =>
    have complete := (readsBody.isComplete_of_clean trivial sound clean)
    cases body with
    | missing => cases complete
    | written => cases missing
  | bodyWritten _ readsBody written readsSemicolon =>
    have soundSemicolon := readsBody.sound sound
    have cleanBody := readsSemicolon.clean soundSemicolon clean
    have normal := lacks.normal (readsBody.clean sound cleanBody)
    rcases lacks.reads_block harmless readsBody sound cleanBody ⟨nofun, spares.nodes⟩
      with ⟨_, readsBody, lacks⟩
    rcases lacks.reads_optional harmless readsSemicolon cleanBody spares.loose
      with ⟨after, readsSemicolon, lacks⟩
    rw [← Block.isMissing_without omission.semicolon.range] at written
    exact ⟨after, .bodyWritten normal readsBody written readsSemicolon, lacks⟩

theorem Lacks.reads_instanceBody (harmless : omission.IsHarmless) {hasParent : Bool}
    {body : Option Block} {semicolon : Option Range}
    (reads : Reads (.instanceBody hasParent) state (body, semicolon) next) (sound : state.Sound)
    (clean : next.Clean) (spares : omission.Spares (.instanceBody hasParent) (body, semicolon))
    (lacks : Lacks omission state other) :
    ∃ after, Reads (.instanceBody hasParent) other
        (body.map (Block.without omission.semicolon.range), semicolon) after ∧
      Lacks omission next after := by
  cases reads with
  | instanceIdle recovering =>
    rw [clean.normal] at recovering
    cases recovering
  | instanceBlock normal opens readsBody readsSemicolon =>
    have soundSemicolon := readsBody.sound sound
    have cleanBody := readsSemicolon.clean soundSemicolon clean
    have normal := lacks.normal (readsBody.clean sound cleanBody)
    have same := lacks.isAt_eq harmless (State.peek_ne_of_isAt opens (by simp)) .lBrace
    rcases lacks.reads_block harmless readsBody sound cleanBody ⟨by rintro ⟨⟩, spares.nodes⟩
      with ⟨_, readsBody, lacks⟩
    rcases lacks.reads_optional harmless readsSemicolon cleanBody spares.loose
      with ⟨after, readsSemicolon, lacks⟩
    exact ⟨after, .instanceBlock normal (same ▸ opens) readsBody readsSemicolon, lacks⟩
  | instanceForward taken =>
    cases hasParent with
    | true =>
      have different : _ ≠ omission.semicolon := fun same => spares.loose (same ▸ rfl)
      rcases lacks.takes_of_ne taken different with ⟨after, taken, lacks⟩
      exact ⟨after, .instanceForward taken, lacks⟩
    | false =>
      have before := taken.clean ((moves_reportMissing ..).sound sound) clean
      exact absurd before (not_clean_reportMissing _ _)
  | instanceBare => exact absurd clean (not_clean_fail _ _)

/-- A declaration is read without the omitted semicolon. -/
theorem Lacks.reads_declaration (harmless : omission.IsHarmless) {item : Option Declaration}
    (reads : Reads .declaration state item next) (sound : state.Sound) (clean : next.Clean)
    (spares : omission.Spares .declaration item) (lacks : Lacks omission state other) :
    ∃ after, Reads .declaration other
        (item.map (Declaration.without omission.semicolon.range)) after ∧
      Lacks omission next after := by
  cases reads with
  | declarationInstance taken readsName readsParent readsBody =>
    have soundName := taken.sound sound
    have soundParent := readsName.sound soundName
    have soundBody := readsParent.sound soundParent
    have cleanBody := readsBody.clean soundBody clean
    have cleanParent := readsParent.clean soundParent cleanBody
    rcases lacks.takes harmless taken rfl with ⟨_, taken, lacks⟩
    rcases lacks.reads_fragment harmless readsName rfl soundName cleanParent
      with ⟨_, readsName, lacks⟩
    rcases lacks.reads_fragment harmless readsParent rfl soundParent cleanBody
      with ⟨_, readsParent, lacks⟩
    rcases lacks.reads_instanceBody harmless readsBody soundBody clean (spares.instanceBody _)
      with ⟨after, readsBody, lacks⟩
    exact ⟨after, .declarationInstance taken readsName readsParent readsBody, lacks⟩
  | declarationPrototype taken readsName opens readsParent closes readsBody =>
    have soundName := taken.sound sound
    have soundOpening := readsName.sound soundName
    have soundParent := opens.sound soundOpening
    have soundClosing := readsParent.sound soundParent
    have soundBody := closes.sound soundClosing
    have cleanBody := readsBody.clean soundBody clean
    have cleanClosing := closes.clean soundClosing cleanBody
    have cleanParent := readsParent.clean soundParent cleanClosing
    have cleanOpening := opens.clean soundOpening cleanParent
    rcases lacks.takes harmless taken rfl with ⟨_, taken, lacks⟩
    rcases lacks.reads_fragment harmless readsName rfl soundName cleanOpening
      with ⟨_, readsName, lacks⟩
    rcases lacks.reads_fragment harmless opens rfl soundOpening cleanParent with ⟨_, opens, lacks⟩
    rcases lacks.reads_fragment harmless readsParent rfl soundParent cleanClosing
      with ⟨_, readsParent, lacks⟩
    rcases lacks.reads_fragment harmless closes rfl soundClosing cleanBody with ⟨_, closes, lacks⟩
    rcases lacks.reads_declarationBody harmless readsBody soundBody clean spares.prototypeBody
      with ⟨after, readsBody, lacks⟩
    exact ⟨after, .declarationPrototype taken readsName opens readsParent closes readsBody, lacks⟩
  | declarationFunction taken readsType readsName readsParameters readsBody =>
    have soundType := taken.sound sound
    have soundName := readsType.sound soundType
    have soundParameters := readsName.sound soundName
    have soundBody := readsParameters.sound soundParameters
    have cleanBody := readsBody.clean soundBody clean
    have cleanParameters := readsParameters.clean soundParameters cleanBody
    have cleanName := readsName.clean soundName cleanParameters
    rcases lacks.takes harmless taken rfl with ⟨_, taken, lacks⟩
    rcases lacks.reads_fragment harmless readsType rfl soundType cleanName
      with ⟨_, readsType, lacks⟩
    rcases lacks.reads_fragment harmless readsName rfl soundName cleanParameters
      with ⟨_, readsName, lacks⟩
    rcases lacks.reads_fragment harmless readsParameters rfl soundParameters cleanBody
      with ⟨_, readsParameters, lacks⟩
    rcases lacks.reads_declarationBody harmless readsBody soundBody clean spares.functionBody
      with ⟨after, readsBody, lacks⟩
    exact ⟨after, .declarationFunction taken readsType readsName readsParameters readsBody, lacks⟩
  | declarationNamelessClass _ _ recovering =>
    rw [clean.normal] at recovering
    cases recovering
  | @declarationUnfinishedClass _ _ _ _ _ body _ taken readsName _ readsBody missing =>
    have soundBody := readsName.sound (taken.sound sound)
    have complete := (readsBody.isComplete_of_clean trivial soundBody clean)
    cases body with
    | missing => cases complete
    | written => cases missing
  | declarationClass taken readsName _ readsBody written readsSemicolon =>
    have soundName := taken.sound sound
    have soundBody := readsName.sound soundName
    have soundSemicolon := readsBody.sound soundBody
    have cleanSemicolon := readsSemicolon.clean soundSemicolon clean
    have cleanBody := readsBody.clean soundBody cleanSemicolon
    rcases lacks.takes harmless taken rfl with ⟨_, taken, lacks⟩
    rcases lacks.reads_fragment harmless readsName rfl soundName cleanBody
      with ⟨_, readsName, lacks⟩
    have normal := lacks.normal cleanBody
    rcases lacks.reads_classBody harmless readsBody soundBody cleanSemicolon
      with ⟨_, readsBody, lacks⟩
    rcases lacks.reads_optional harmless readsSemicolon cleanSemicolon spares.classSemicolon
      with ⟨after, readsSemicolon, lacks⟩
    refine ⟨after, .declarationClass taken readsName normal readsBody ?_ readsSemicolon, lacks⟩
    rwa [ClassBody.isMissing_without]
  | declarationVariable readsDeclaration =>
    rcases lacks.reads_variableDeclaration harmless readsDeclaration sound clean
      with ⟨after, readsDeclaration, lacks⟩
    exact ⟨after, .declarationVariable readsDeclaration, lacks⟩
  | declarationRejected => exact absurd clean (not_clean_reject _ _)

/-- Without a semicolon that ends a statement or a variable, a program is read the same but for that
semicolon. -/
theorem Lacks.rereads_declarations (harmless : omission.IsHarmless) {production : Production}
    {value : production.Value} (reads : Reads production state value next)
    (within : production = .declarations) (sound : state.Sound) (clean : next.Clean)
    (spares : omission.Spares production value) (lacks : Lacks omission state other) :
    omission.Rereads production value next other := by
  induction reads generalizing other with
  | declarationsEnd ends =>
    refine ⟨other, .declarationsEnd ?_, lacks⟩
    rcases lacks.due_or_same with due | same
    · rw [due.rest] at ends
      cases ends
    · rw [ends] at same
      exact List.head?_eq_none_iff.mp same
  | @declarationsNext state item _ _ _ _ _ goesOn readsItem resumes readsMore _ later =>
    have soundItem := readsItem.sound sound
    have cleanItem := resumes.clean_before readsMore soundItem clean
    rcases readsItem.apart_declaration sound cleanItem with ⟨apartHere, progress⟩
    rcases resumes.of_clean cleanItem progress with ⟨rfl, rfl⟩
    cases item with
    | none => exact absurd (readsItem.isComplete_of_clean trivial sound cleanItem) nofun
    | some declaration =>
      rcases lacks.reads_declaration harmless readsItem sound cleanItem spares.declarationsNext.1
        with ⟨_, rereadsItem, lacksMore⟩
      rcases later rfl soundItem clean spares.declarationsNext.2 lacksMore
        with ⟨after, rereadsMore, lacksLast⟩
      have shorter := lacks.shorter lacksMore harmless apartHere progress
      have nonempty : other.rest ≠ [] := List.ne_nil_of_length_pos (Nat.zero_lt_of_lt shorter)
      exact ⟨after, .declarationsNext nonempty rereadsItem
        (lacks.resumes lacksMore harmless apartHere progress cleanItem) rereadsMore, lacksLast⟩
  | _ => cases within

end ScriptTree.Grammar
