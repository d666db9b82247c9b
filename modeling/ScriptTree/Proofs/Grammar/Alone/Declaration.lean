import ScriptTree.Proofs.Grammar.Alone.Statement

/-!
# Declarations read alone

A declaration starts with a keyword that is taken in any case.  From there on it
repeats itself, part by part.
-/

/-!
## Classes read alone

A member of a class is abandoned if the parse recovers after its target, and at
the end of the lexemes it would not be.  But a target stalls where the parse
recovers.  The members of a class go on there, so what follows them is somewhere
else.
-/

namespace ScriptTree.Grammar

variable {lines : Nat} {tail : List Lexeme} {state next alone : State}

theorem Derivation.repeats_classItem {value : Option ClassItem}
    (reads : Reads .classItem state value next) : reads.Repeats lines tail := by
  cases reads with refine .of_unfinished fun alone unfinished echo left admits => ?_
  | classVariable readsDeclaration =>
    rcases readsDeclaration.repeats_variableDeclaration echo left trivial with
      ⟨declaration, _, declarationAlone, declarationAlike, echo⟩
    refine ⟨_, _, .classVariable declarationAlone, ?_, echo⟩
    simp only [Production.unplaced] at declarationAlike
    simp [Production.unplaced, ClassItem.unplaced, ClassMember.unplaced, declarationAlike]
  | classAbandoned opens readsTarget recovering =>
    rcases readsTarget.repeats_operation echo left trivial with
      ⟨target, after, targetAlone, targetAlike, echoTarget⟩
    have unfinishedTarget : after.rest ≠ [] := by
      intro ended
      rw [admits.2.2 (echoTarget.rest_eq_tail ended)] at recovering
      cases recovering
    rw [← echo.isAt_eq unfinished] at opens
    refine ⟨_, _, .classAbandoned opens targetAlone
      ((echoTarget.mode unfinishedTarget).trans recovering), ?_, echoTarget⟩
    simp only [Production.unplaced] at targetAlike
    simp [Production.unplaced, ClassItem.unplaced, targetAlike]
  | classAssignment opens readsTarget normal readsTail =>
    have leftTarget := left.trans readsTail.rest_suffix
    rw [State.rest_checkTarget] at leftTarget
    rcases readsTarget.repeats_operation echo leftTarget trivial with
      ⟨target, after, targetAlone, targetAlike, echoTarget⟩
    have normalAlone : after.recovering = false := by
      by_cases ended : after.rest = []
      · have stalls := targetAlone.stalls rfl
          (State.stalls_of_normal ((echo.mode unfinished).trans admits.1))
        cases mode : after.recovering with
        | false => rfl
        | true =>
          have refused := stalls mode
          simp [State.admitsInsertion, ended] at refused
      · exact (echoTarget.mode ended).trans normal
    rcases readsTail.repeats_assignmentTail (echoTarget.checkTarget _ target) left trivial with
      ⟨rest, _, tailAlone, tailAlike, echoNext⟩
    rw [← echo.isAt_eq unfinished] at opens
    refine ⟨_, _, .classAssignment opens targetAlone normalAlone tailAlone, ?_, echoNext⟩
    simp only [Production.unplaced] at targetAlike tailAlike
    simp [Production.unplaced, ClassItem.unplaced, ClassMember.unplaced,
      AssignmentTail.unplaced_onto, -AssignmentTail.unplaced, targetAlike, tailAlike]
  | classRejected noKind noTarget =>
    exact ⟨_, _, .classRejected (echo.declines noKind) (echo.isAt_eq_false noTarget), rfl,
      echo.reject _⟩

/-- The members of a class go on after one that leaves the parse recovering. -/
theorem Resumes.normal_of_members {item : Option ClassItem} {more : List ClassItem}
    {node : Option ErrorNode} {afterItem resumed : State}
    (readsItem : Reads .classItem state item afterItem) (normal : state.recovering = false)
    (moved : state.rest ≠ tail)
    (resumes : Resumes .statement state afterItem node resumed)
    (readsMore : Reads .classItems resumed more next) (left : tail <:+ next.rest)
    (ended : afterItem.rest = tail) : afterItem.recovering = false := by
  have leftResumed := left.trans readsMore.rest_suffix
  have same : resumed.rest = tail :=
    (ended ▸ resumes.moves.rest_suffix).eq_of_length
      (Nat.le_antisymm (ended ▸ resumes.moves.rest_suffix.length_le) leftResumed.length_le)
  have ends : endsList resumed = true := by
    cases goesOn : endsList resumed with
    | true => rfl
    | false =>
      have fewer := readsMore.fewer_classItems goesOn
      rw [same] at fewer
      exact absurd fewer (Nat.not_lt.mpr left.length_le)
  have granted : afterItem.admitsInsertion = true := by
    apply State.admitsInsertion_of_endsList
    rw [← ends, endsList, endsList, State.peek, State.peek, same, ended]
  cases mode : afterItem.recovering with
  | false => rfl
  | true =>
    have stalls := readsItem.stalls_classItem normal (by rw [ended]; exact moved.symm)
    rw [stalls mode] at granted
    cases granted

theorem Derivation.repeats_classItems_of_eq {production : Production} {state next : State}
    {value : production.Value} (reads : Reads production state value next)
    (same : production = .classItems) : reads.Repeats lines tail := by
  induction reads with refine .of_unfinished fun alone unfinished echo left admits => ?_
  | classItemsEnd ends =>
    rw [← echo.endsList_eq unfinished] at ends
    exact ⟨_, _, .classItemsEnd ends, rfl, echo⟩
  | classItemsNext goesOn readsItem resumes readsMore _ more =>
    have leftResumed := left.trans readsMore.rest_suffix
    have moved := echo.rest_ne_tail unfinished
    rw [← echo.endsList_eq unfinished] at goesOn
    rcases readsItem.repeats_classItem echo (leftResumed.trans resumes.moves.rest_suffix)
        ⟨admits, moved, resumes.normal_of_members readsItem admits moved readsMore left⟩ with
      ⟨first, _, itemAlone, itemAlike, echoItem⟩
    rcases echo.resumes echoItem resumes leftResumed with
      ⟨node, _, resumesAlone, nodeAlike, echoResumed⟩
    rcases more rfl echoResumed left resumes.normal with
      ⟨members, _, moreAlone, moreAlike, echoNext⟩
    refine ⟨_, _, .classItemsNext goesOn itemAlone resumesAlone moreAlone, ?_, echoNext⟩
    simp only [Production.unplaced] at itemAlike moreAlike ⊢
    refine map_resumed ?_ ?_ itemAlike nodeAlike moreAlike <;> exact fun _ => rfl
  | _ => cases same

theorem Derivation.repeats_classBody {value : ClassBody}
    (reads : Reads .classBody state value next) : reads.Repeats lines tail := by
  cases reads with refine .of_unfinished fun alone unfinished echo left admits => ?_
  | classBodyMissing declined =>
    exact ⟨_, _, .classBodyMissing (echo.declines declined), rfl, echo.fail _⟩
  | classBodyWritten taken readsItems closes =>
    have leftItems := left.trans closes.rest_suffix
    rcases echo.takes taken (leftItems.trans readsItems.rest_suffix) with
      ⟨_, _, takenAlone, _, echo⟩
    rcases readsItems.repeats_classItems_of_eq rfl echo leftItems taken.normal_next with
      ⟨items, _, itemsAlone, itemsAlike, echo⟩
    rcases closes.repeats_closingBrace echo left trivial with
      ⟨place, _, closesAlone, placeAlike, echo⟩
    refine ⟨_, _, .classBodyWritten takenAlone itemsAlone closesAlone, ?_, echo⟩
    simp only [Production.unplaced] at itemsAlike placeAlike
    simp [Production.unplaced, ClassBody.unplaced, itemsAlike, placeAlike]

/-- A class body that is not missing has taken its opening brace. -/
theorem Derivation.fewer_classBody {value : ClassBody}
    (reads : Reads .classBody state value next) (written : value.isMissing = false) :
    next.rest.length < state.rest.length := by
  cases reads with
  | classBodyMissing => cases written
  | classBodyWritten taken readsItems closes =>
    exact Nat.lt_of_le_of_lt closes.length_rest_le
      (Nat.lt_of_le_of_lt readsItems.length_rest_le taken.fewer)

end ScriptTree.Grammar

/-! ## Other declarations -/

namespace ScriptTree.Grammar

variable {lines : Nat} {tail : List Lexeme} {state next : State}

/-! ## Bodies -/

theorem Derivation.repeats_block {value : Block} (reads : Reads .block state value next) :
    reads.Repeats lines tail :=
  reads.repeats_statement rfl

theorem Derivation.repeats_instanceBody {hasParent : Bool} {value : Option Block × Option Range}
    (reads : Reads (.instanceBody hasParent) state value next) : reads.Repeats lines tail := by
  cases reads with refine .of_unfinished fun alone unfinished echo left admits => ?_
  | instanceIdle recovering =>
    exact ⟨_, _, .instanceIdle ((echo.mode unfinished).trans recovering), rfl, echo⟩
  | instanceBlock normal opens readsBody readsSemicolon =>
    rcases readsBody.repeats_block echo (left.trans readsSemicolon.rest_suffix) trivial with
      ⟨body, _, bodyAlone, bodyAlike, echoBody⟩
    rcases readsSemicolon.repeats_optional echoBody left trivial with
      ⟨place, _, semicolonAlone, placeAlike, echoNext⟩
    rw [← echo.isAt_eq unfinished] at opens
    refine ⟨_, _, .instanceBlock ((echo.mode unfinished).trans normal) opens bodyAlone
      semicolonAlone, ?_, echoNext⟩
    simp only [Production.unplaced] at bodyAlike placeAlike
    simp [Production.unplaced, bodyAlike, placeAlike]
  | instanceForward taken =>
    have reported : Echo lines tail (if hasParent then state else state.reportMissing .lParen)
        (if hasParent then alone else alone.reportMissing .lParen) := by
      cases hasParent with
      | true => exact echo
      | false => exact echo.reportMissing _
    rcases reported.takes taken left with ⟨_, _, takenAlone, _, echoNext⟩
    exact ⟨_, _, .instanceForward takenAlone, rfl, echoNext⟩
  | instanceBare normal noBlock noSemicolon =>
    exact ⟨_, _, .instanceBare ((echo.mode unfinished).trans normal)
      (echo.isAt_eq_false noBlock) (echo.isAt_eq_false noSemicolon), rfl, echo.fail _⟩

theorem Derivation.repeats_declarationBody {value : Block × Option Range}
    (reads : Reads .declarationBody state value next) : reads.Repeats lines tail := by
  cases reads with refine .of_unfinished fun alone unfinished echo left admits => ?_
  | bodyIdle recovering =>
    exact ⟨_, _, .bodyIdle ((echo.mode unfinished).trans recovering), rfl, echo⟩
  | bodyMissing normal readsBody missing =>
    have normalAlone := (echo.mode unfinished).trans normal
    rcases readsBody.repeats_block echo left trivial with ⟨body, _, bodyAlone, bodyAlike, echo⟩
    simp only [Production.unplaced] at bodyAlike
    rw [← Block.isMissing_unplaced, ← bodyAlike, Block.isMissing_unplaced] at missing
    refine ⟨_, _, .bodyMissing normalAlone bodyAlone missing, ?_, echo⟩
    simp [Production.unplaced, bodyAlike]
  | bodyWritten normal readsBody written readsSemicolon =>
    have normalAlone := (echo.mode unfinished).trans normal
    rcases readsBody.repeats_block echo (left.trans readsSemicolon.rest_suffix) trivial with
      ⟨body, _, bodyAlone, bodyAlike, echo⟩
    rcases readsSemicolon.repeats_optional echo left trivial with
      ⟨place, _, semicolonAlone, placeAlike, echo⟩
    simp only [Production.unplaced] at bodyAlike placeAlike
    rw [← Block.isMissing_unplaced, ← bodyAlike, Block.isMissing_unplaced] at written
    refine ⟨_, _, .bodyWritten normalAlone bodyAlone written semicolonAlone, ?_, echo⟩
    simp [Production.unplaced, bodyAlike, placeAlike]

/-! ## Declarations -/

/-- An instance is read alone as well. -/
theorem Derivation.repeats_instance {keyword : Lexeme} {name : Identifier}
    {parent : Option ParentClause} {body : Option Block} {semicolon : Option Range}
    {afterKeyword afterName afterParent : State}
    (taken : Takes state DeclarationStart.ofToken? .instanceKeyword keyword afterKeyword)
    (readsName : Reads .directName afterKeyword name afterName)
    (readsParent : Reads .parentClause afterName parent afterParent)
    (readsBody : Reads (.instanceBody parent.isSome) afterParent (body, semicolon) next) :
    Repeats lines tail (.declarationInstance taken readsName readsParent readsBody) := by
  refine .of_unfinished fun alone unfinished echo left admits => ?_
  have leftParent := left.trans readsBody.rest_suffix
  have leftName := leftParent.trans readsParent.rest_suffix
  rcases echo.takes taken (leftName.trans readsName.rest_suffix) with ⟨_, _, takenAlone, _, echo⟩
  rcases readsName.repeats_directName echo leftName trivial with
    ⟨name, _, nameAlone, nameAlike, echo⟩
  rcases readsParent.repeats_parentClause echo leftParent trivial with
    ⟨parent, _, parentAlone, parentAlike, echo⟩
  rcases readsBody.repeats_instanceBody echo left trivial with
    ⟨⟨body, semicolon⟩, final, bodyAlone, bodyAlike, echo⟩
  simp only [Production.unplaced, Prod.mk.injEq] at nameAlike parentAlike bodyAlike
  have sameParent := congrArg Option.isSome parentAlike
  rw [Option.isSome_map, Option.isSome_map] at sameParent
  rw [← sameParent] at bodyAlone
  refine ⟨_, _, .declarationInstance takenAlone nameAlone parentAlone bodyAlone, ?_, echo⟩
  simp [Production.unplaced, Declaration.unplaced, InstanceDeclaration.unplaced, nameAlike,
    parentAlike, bodyAlike]

/-- A prototype is read alone as well. -/
theorem Derivation.repeats_prototype {keyword : Lexeme} {name parent : Identifier}
    {opening closing semicolon : Option Range} {body : Block}
    {afterKeyword afterName afterOpening afterParent afterClosing : State}
    (taken : Takes state DeclarationStart.ofToken? .prototypeKeyword keyword afterKeyword)
    (readsName : Reads .directName afterKeyword name afterName)
    (opens : Reads (.expected .lParen) afterName opening afterOpening)
    (readsParent : Reads .identifier afterOpening parent afterParent)
    (closes : Reads (.expected .rParen) afterParent closing afterClosing)
    (readsBody : Reads .declarationBody afterClosing (body, semicolon) next) :
    Repeats lines tail
      (.declarationPrototype taken readsName opens readsParent closes readsBody) := by
  refine .of_unfinished fun alone unfinished echo left admits => ?_
  have leftClosing := left.trans readsBody.rest_suffix
  have leftParent := leftClosing.trans closes.rest_suffix
  have leftOpening := leftParent.trans readsParent.rest_suffix
  have leftName := leftOpening.trans opens.rest_suffix
  rcases echo.takes taken (leftName.trans readsName.rest_suffix) with ⟨_, _, takenAlone, _, echo⟩
  rcases readsName.repeats_directName echo leftName trivial with
    ⟨name, _, nameAlone, nameAlike, echo⟩
  rcases opens.repeats_expected echo leftOpening trivial with
    ⟨opening, _, opensAlone, openingAlike, echo⟩
  rcases readsParent.repeats_identifier echo leftParent trivial with
    ⟨parent, _, parentAlone, parentAlike, echo⟩
  rcases closes.repeats_expected echo leftClosing trivial with
    ⟨closing, _, closesAlone, closingAlike, echo⟩
  rcases readsBody.repeats_declarationBody echo left trivial with
    ⟨⟨body, semicolon⟩, _, bodyAlone, bodyAlike, echo⟩
  refine ⟨_, _, .declarationPrototype takenAlone nameAlone opensAlone parentAlone closesAlone
    bodyAlone, ?_, echo⟩
  simp only [Production.unplaced] at nameAlike openingAlike parentAlike closingAlike
  simp only [Production.unplaced, Prod.mk.injEq] at bodyAlike
  simp [Production.unplaced, Declaration.unplaced, PrototypeDeclaration.unplaced, nameAlike,
    openingAlike, parentAlike, closingAlike, bodyAlike]

/-- A function is read alone as well. -/
theorem Derivation.repeats_function {keyword : Lexeme} {type : TypeReference} {name : Identifier}
    {parameters : ParameterList} {body : Block} {semicolon : Option Range}
    {afterKeyword afterType afterName afterParameters : State}
    (taken : Takes state DeclarationStart.ofToken? .functionKeyword keyword afterKeyword)
    (readsType : Reads .typeReference afterKeyword type afterType)
    (readsName : Reads .identifier afterType name afterName)
    (readsParameters : Reads .parameterList afterName parameters afterParameters)
    (readsBody : Reads .declarationBody afterParameters (body, semicolon) next) :
    Repeats lines tail
      (.declarationFunction taken readsType readsName readsParameters readsBody) := by
  refine .of_unfinished fun alone unfinished echo left admits => ?_
  have leftParameters := left.trans readsBody.rest_suffix
  have leftName := leftParameters.trans readsParameters.rest_suffix
  have leftType := leftName.trans readsName.rest_suffix
  rcases echo.takes taken (leftType.trans readsType.rest_suffix) with ⟨_, _, takenAlone, _, echo⟩
  rcases readsType.repeats_typeReference echo leftType trivial with
    ⟨type, _, typeAlone, typeAlike, echo⟩
  rcases readsName.repeats_identifier echo leftName trivial with
    ⟨name, _, nameAlone, nameAlike, echo⟩
  rcases readsParameters.repeats_parameterList echo leftParameters trivial with
    ⟨parameters, _, parametersAlone, parametersAlike, echo⟩
  rcases readsBody.repeats_declarationBody echo left trivial with
    ⟨⟨body, semicolon⟩, _, bodyAlone, bodyAlike, echo⟩
  refine ⟨_, _, .declarationFunction takenAlone typeAlone nameAlone parametersAlone bodyAlone, ?_,
    echo⟩
  simp only [Production.unplaced, Prod.mk.injEq] at typeAlike nameAlike parametersAlike bodyAlike
  simp [Production.unplaced, Declaration.unplaced, FunctionDeclaration.unplaced, typeAlike,
    nameAlike, parametersAlike, bodyAlike]

/-! ## Classes -/

section

variable {afterKeyword afterName : State} {keyword : Lexeme} {name : Identifier}

/-- At the end of the input a class has no body, whatever the mode is. -/
theorem exists_bare_class
    (taken : Takes state DeclarationStart.ofToken? .classKeyword keyword afterKeyword)
    (readsName : Reads .directName afterKeyword name afterName) (ended : afterName.rest = []) :
    ∃ anchor after,
      Reads .declaration state
        (some (.classDeclaration ⟨keyword.range, name, .missing anchor, none⟩)) after ∧
      after.rest = [] := by
  cases mode : afterName.recovering with
  | true => exact ⟨_, _, .declarationNamelessClass taken readsName mode, ended⟩
  | false =>
    exact ⟨_, _, .declarationUnfinishedClass taken readsName mode
      (.classBodyMissing (declines_of_empty ended)) rfl, by rw [State.rest_fail, ended]⟩

/-- A class whose name leaves the parse recovering is read alone as well. -/
theorem Derivation.repeats_namelessClass
    (taken : Takes state DeclarationStart.ofToken? .classKeyword keyword afterKeyword)
    (readsName : Reads .directName afterKeyword name next) (recovering : next.recovering = true) :
    Repeats lines tail (.declarationNamelessClass taken readsName recovering) := by
  refine .of_unfinished fun alone unfinished echo left admits => ?_
  rcases echo.takes taken (left.trans readsName.rest_suffix) with ⟨_, _, takenAlone, _, echo⟩
  rcases readsName.repeats_directName echo left trivial with
    ⟨name, named, nameAlone, nameAlike, echo⟩
  simp only [Production.unplaced] at nameAlike
  by_cases ended : named.rest = []
  · rcases exists_bare_class takenAlone nameAlone ended with ⟨anchor, _, readsAlone, emptied⟩
    refine ⟨_, _, readsAlone, ?_, .of_rest_eq_tail (echo.rest_eq_tail ended) emptied⟩
    simp [Production.unplaced, Declaration.unplaced, ClassDeclaration.unplaced,
      ClassBody.unplaced, nameAlike]
  · refine ⟨_, _, .declarationNamelessClass takenAlone nameAlone
      ((echo.mode ended).trans recovering), ?_, echo⟩
    simp [Production.unplaced, Declaration.unplaced, ClassDeclaration.unplaced,
      ClassBody.unplaced, nameAlike]

/-- A class without a body is read alone as well. -/
theorem Derivation.repeats_unfinishedClass {body : ClassBody}
    (taken : Takes state DeclarationStart.ofToken? .classKeyword keyword afterKeyword)
    (readsName : Reads .directName afterKeyword name afterName)
    (normal : afterName.recovering = false) (readsBody : Reads .classBody afterName body next)
    (missing : body.isMissing = true) :
    Repeats lines tail
      (.declarationUnfinishedClass taken readsName normal readsBody missing) := by
  refine .of_unfinished fun alone unfinished echo left admits => ?_
  have leftName := left.trans readsBody.rest_suffix
  rcases echo.takes taken (leftName.trans readsName.rest_suffix) with ⟨_, _, takenAlone, _, echo⟩
  rcases readsName.repeats_directName echo leftName trivial with
    ⟨name, named, nameAlone, nameAlike, echo⟩
  simp only [Production.unplaced] at nameAlike
  by_cases ended : named.rest = []
  · rcases exists_bare_class takenAlone nameAlone ended with ⟨anchor, _, readsAlone, emptied⟩
    have stays : next.rest = tail :=
      (echo.rest_eq_tail ended ▸ readsBody.rest_suffix).sublist.antisymm left.sublist
    refine ⟨_, _, readsAlone, ?_, .of_rest_eq_tail stays emptied⟩
    cases body with
    | missing =>
      simp [Production.unplaced, Declaration.unplaced, ClassDeclaration.unplaced,
        ClassBody.unplaced, nameAlike]
    | written => cases missing
  · rcases readsBody.repeats_classBody echo left trivial with
      ⟨body, _, bodyAlone, bodyAlike, echoBody⟩
    simp only [Production.unplaced] at bodyAlike
    rw [← ClassBody.isMissing_unplaced, ← bodyAlike, ClassBody.isMissing_unplaced] at missing
    refine ⟨_, _, .declarationUnfinishedClass takenAlone nameAlone
      ((echo.mode ended).trans normal) bodyAlone missing, ?_, echoBody⟩
    simp [Production.unplaced, Declaration.unplaced, ClassDeclaration.unplaced, nameAlike,
      bodyAlike]

/-- A class with a body is read alone as well. -/
theorem Derivation.repeats_class {body : ClassBody} {afterBody : State} {semicolon : Option Range}
    (taken : Takes state DeclarationStart.ofToken? .classKeyword keyword afterKeyword)
    (readsName : Reads .directName afterKeyword name afterName)
    (normal : afterName.recovering = false) (readsBody : Reads .classBody afterName body afterBody)
    (written : body.isMissing = false)
    (readsSemicolon : Reads (.optional .semicolon) afterBody semicolon next) :
    Repeats lines tail
      (.declarationClass taken readsName normal readsBody written readsSemicolon) := by
  refine .of_unfinished fun alone unfinished echo left admits => ?_
  have leftBody := left.trans readsSemicolon.rest_suffix
  have leftName := leftBody.trans readsBody.rest_suffix
  rcases echo.takes taken (leftName.trans readsName.rest_suffix) with ⟨_, _, takenAlone, _, echo⟩
  rcases readsName.repeats_directName echo leftName trivial with
    ⟨name, named, nameAlone, nameAlike, echo⟩
  -- The body takes its brace, so there is a lexeme left after the name.
  have unfinishedName := echo.unfinished leftBody (readsBody.fewer_classBody written)
  have normalAlone := (echo.mode unfinishedName).trans normal
  rcases readsBody.repeats_classBody echo leftBody trivial with
    ⟨body, _, bodyAlone, bodyAlike, echo⟩
  rcases readsSemicolon.repeats_optional echo left trivial with
    ⟨place, _, semicolonAlone, placeAlike, echo⟩
  simp only [Production.unplaced] at nameAlike bodyAlike placeAlike
  rw [← ClassBody.isMissing_unplaced, ← bodyAlike, ClassBody.isMissing_unplaced] at written
  refine ⟨_, _, .declarationClass takenAlone nameAlone normalAlone bodyAlone written
    semicolonAlone, ?_, echo⟩
  simp [Production.unplaced, Declaration.unplaced, ClassDeclaration.unplaced, nameAlike,
    bodyAlike, placeAlike]

end

/-- What reads a declaration reads it alone as well. -/
theorem Derivation.repeats_declaration {value : Option Declaration}
    (reads : Reads .declaration state value next) : reads.Repeats lines tail := by
  cases reads with
  | declarationInstance taken readsName readsParent readsBody =>
    exact repeats_instance taken readsName readsParent readsBody
  | declarationPrototype taken readsName opens readsParent closes readsBody =>
    exact repeats_prototype taken readsName opens readsParent closes readsBody
  | declarationFunction taken readsType readsName readsParameters readsBody =>
    exact repeats_function taken readsType readsName readsParameters readsBody
  | declarationNamelessClass taken readsName recovering =>
    exact repeats_namelessClass taken readsName recovering
  | declarationUnfinishedClass taken readsName normal readsBody missing =>
    exact repeats_unfinishedClass taken readsName normal readsBody missing
  | declarationClass taken readsName normal readsBody written readsSemicolon =>
    exact repeats_class taken readsName normal readsBody written readsSemicolon
  | declarationVariable readsDeclaration =>
    refine .of_unfinished fun alone unfinished echo left admits => ?_
    rcases readsDeclaration.repeats_variableDeclaration echo left trivial with
      ⟨declaration, _, declarationAlone, declarationAlike, echo⟩
    refine ⟨_, _, .declarationVariable declarationAlone, ?_, echo⟩
    simp only [Production.unplaced] at declarationAlike
    simp [Production.unplaced, Declaration.unplaced, declarationAlike]
  | declarationRejected declined =>
    refine .of_unfinished fun alone unfinished echo left admits => ?_
    exact ⟨_, _, .declarationRejected (echo.declines declined), rfl, echo.reject _⟩

end ScriptTree.Grammar
