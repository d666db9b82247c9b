import ScriptTree.Proofs.Grammar.ReadingBack.Statement

/-!
# Reading declarations back

A declaration may end in a semicolon that nothing requires.  It is read back
where no semicolon follows, and the next declaration starts with a keyword.
-/

namespace ScriptTree

open Grammar Slot

theorem Block.isMissing_of_unplaced_eq {block other : Block}
    (alike : block.unplaced = other.unplaced)
    (written : other.isMissing = false) : block.isMissing = false := by
  cases block with
  | written => rfl
  | missing =>
    cases other with
    | missing => cases written
    | written => simp [unplaced] at alike

theorem Block.isMissing_of_isComplete {block : Block} (complete : block.isComplete = true) :
    block.isMissing = false := by
  cases block with
  | written => rfl
  | missing => simp [isComplete] at complete

theorem ClassBody.isMissing_of_unplaced_eq {body other : ClassBody}
    (alike : body.unplaced = other.unplaced) (complete : other.isComplete = true) :
    body.isMissing = false := by
  cases body with
  | written => rfl
  | missing =>
    cases other with
    | missing => cases complete
    | written => simp [unplaced] at alike

namespace Grammar

variable {state : State} {lexemes tail : List Lexeme}

/-! ## Headers and bodies -/

theorem readsBack_parentClause {parent : Option ParentClause}
    (complete : parent.all ParentClause.isComplete = true) (faces : state.Faces lexemes)
    (spells : Spells (parent.elim [] ParentClause.slots) lexemes tail)
    (avoids : Avoids (State.only .lParen) tail) :
    ReadsBack .parentClause state
      (fun found => found.map ParentClause.unplaced = parent.map ParentClause.unplaced) tail := by
  cases parent with
  | none =>
    cases spells_nil.mp spells
    exact ⟨none, state, .parentAbsent (faces.declines avoids), rfl, faces⟩
  | some parent =>
    simp only [Option.all_some, ParentClause.isComplete, Bool.and_eq_true] at complete
    rw [Option.elim_some, ParentClause.slots] at spells
    rcases spells_append.mp spells with ⟨beforeClosing, spellsFront, spellsClosing⟩
    rcases spells_append.mp spellsFront with ⟨afterOpening, spellsOpening, spellsName⟩
    rcases faces.takes_only spellsOpening with ⟨lexeme, between, taken, -, facesName⟩
    rcases readsBack_directName facesName spellsName
      with ⟨name, afterName, readsName, alike, facesClosing⟩
    rcases readsBack_expected facesClosing spellsClosing complete.2
      with ⟨place, next, closes, alikeClosing, facesNext⟩
    refine ⟨_, next, .parentWritten taken readsName closes, ?_, facesNext⟩
    simp only [Option.map_some, ParentClause.unplaced, alike, alikeClosing]

/-- A body in braces, and the semicolon that may follow it. -/
theorem readsBack_declarationBody {body : Block} {semicolon : Option Range}
    {between : List Lexeme} (complete : body.isComplete = true) (grouped : body.isGrouped = true)
    (faces : state.Faces lexemes) (spellsBody : Spells body.slots lexemes between)
    (spellsSemicolon : Spells (allowed .semicolon semicolon) between tail)
    (ends : Avoids (State.only .semicolon) tail) :
    ReadsBack .declarationBody state
      (fun found => found.1.unplaced = body.unplaced ∧ unplaced? found.2 = unplaced? semicolon)
      tail := by
  rcases isBlockReadBack_of_isComplete body complete grouped faces spellsBody
    with ⟨found, afterBody, readsBody, alike, facesSemicolon⟩
  rcases readsBack_optional facesSemicolon spellsSemicolon ends
    with ⟨place, next, readsSemicolon, alikeSemicolon, facesNext⟩
  have written : found.isMissing = false :=
    Block.isMissing_of_unplaced_eq alike (Block.isMissing_of_isComplete complete)
  exact ⟨(found, place), next, .bodyWritten faces.clean.normal readsBody written readsSemicolon,
    ⟨alike, alikeSemicolon⟩, facesNext⟩

/-- The body of an instance, or the semicolon in its place. -/
theorem readsBack_instanceBody {body : Option Block} {semicolon : Option Range} {hasParent : Bool}
    (complete : body.all Block.isComplete = true) (grouped : body.all Block.isGrouped = true)
    (forward : body = none → hasParent = true ∧ semicolon.isSome = true)
    (faces : state.Faces lexemes)
    (spells : Spells (InstanceDeclaration.bodySlots body semicolon) lexemes tail)
    (ends : Avoids (State.only .semicolon) tail) :
    ReadsBack (.instanceBody hasParent) state
      (fun found => found.1.map Block.unplaced = body.map Block.unplaced ∧
        unplaced? found.2 = unplaced? semicolon) tail := by
  cases body with
  | none =>
    rcases forward rfl with ⟨rfl, present⟩
    rcases faces.takes_only spells with ⟨lexeme, next, taken, -, facesNext⟩
    exact ⟨(none, some lexeme.range), next, .instanceForward taken,
      ⟨rfl, (unplaced?_of_isSome present).symm⟩, facesNext⟩
  | some body =>
    rcases spells_append.mp spells with ⟨afterBody, spellsBody, spellsSemicolon⟩
    have opens : state.isAt .lBrace = true := faces.isAt_eq_true spellsBody body.firstToken?_slots
    rcases isBlockReadBack_of_isComplete body complete grouped faces spellsBody
      with ⟨found, between, readsBody, alike, facesSemicolon⟩
    rcases readsBack_optional facesSemicolon spellsSemicolon ends
      with ⟨place, next, readsSemicolon, alikeSemicolon, facesNext⟩
    refine ⟨(some found, place), next,
      .instanceBlock faces.clean.normal opens readsBody readsSemicolon, ⟨?_, alikeSemicolon⟩,
      facesNext⟩
    rw [Option.map_some, Option.map_some, alike]

/-! ## Parameters -/

theorem readsBack_qualifier {qualifier : Option (VariableKind × Range)}
    (faces : state.Faces lexemes)
    (spells : Spells (qualifier.elim [] fun (kind, range) => required kind.token (some range))
      lexemes tail)
    (avoids : Avoids VariableKind.ofToken? tail) :
    ReadsBack .qualifier state (fun found => (found.map fun written => (written.1, default)) =
      (qualifier.map fun written => (written.1, (default : Range)))) tail := by
  cases qualifier with
  | none =>
    cases spells_nil.mp spells
    exact ⟨none, state, .qualifierAbsent (faces.declines avoids), rfl, faces⟩
  | some qualifier =>
    rcases qualifier with ⟨kind, range⟩
    rcases faces.takes_required spells (VariableKind.ofToken?_eq_some_iff.mpr rfl)
      with ⟨lexeme, next, taken, -, facesNext⟩
    exact ⟨_, next, .qualifierWritten taken, rfl, facesNext⟩

theorem readsBack_parameter {parameter : Parameter} (complete : parameter.isComplete = true)
    (faces : state.Faces lexemes) (spells : Spells parameter.slots lexemes tail) :
    ReadsBack .parameter state (fun found => found.unplaced = parameter.unplaced) tail := by
  rw [Parameter.slots] at spells
  rw [Parameter.isComplete, Bool.and_eq_true] at complete
  rcases spells_append.mp spells with ⟨beforeName, spellsFront, spellsName⟩
  rcases spells_append.mp spellsFront with ⟨beforeType, spellsQualifier, spellsType⟩
  rcases TypeReference.exists_firstToken? complete.1 with ⟨token, found, recognized⟩
  have noKind : VariableKind.ofToken? token = none := by
    rcases recognizeType_eq_some_iff.mp recognized with builtin | rfl
    · cases token <;> first | rfl | cases builtin
    · rfl
  rcases readsBack_qualifier faces spellsQualifier (spellsType.avoids found noKind)
    with ⟨qualifier, facingType, readsQualifier, alikeQualifier, facesType⟩
  rcases readsBack_typeReference facesType spellsType complete.1
    with ⟨type, facingName, readsType, alikeType, facesName⟩
  rcases readsBack_identifier facesName spellsName
    with ⟨name, next, readsName, alikeName, facesNext⟩
  refine ⟨_, next, .parameter readsQualifier readsType readsName, ?_, facesNext⟩
  simp only [Parameter.unplaced, alikeQualifier, alikeType, alikeName]

theorem exists_firstToken?_parameter {parameter : Parameter}
    (complete : parameter.isComplete = true) :
    ∃ token, firstToken? parameter.slots = some token ∧ token ≠ .rParen := by
  rcases parameter with ⟨qualifier, type, name⟩
  rw [Parameter.isComplete, Bool.and_eq_true] at complete
  rw [Parameter.slots, List.append_assoc]
  cases qualifier with
  | none =>
    rcases TypeReference.exists_firstToken? complete.1 with ⟨token, found, recognized⟩
    refine ⟨token, firstToken?_append found _, ?_⟩
    rintro rfl
    cases recognized
  | some qualifier =>
    rcases qualifier with ⟨kind, range⟩
    refine ⟨kind.token, rfl, ?_⟩
    cases kind <;> nofun

/-- Parameters after the opening parenthesis are read back, up to the closing one. -/
theorem readsBack_parameters {items : List (Parameter × Option Range)} {closing : Option Range}
    (nonempty : items ≠ []) (complete : ParameterList.areComplete items = true)
    (noTrailing : hasTrailingComma items = false) (closed : closing.isSome = true)
    (faces : state.Faces lexemes)
    (spells : Spells (ParameterList.itemSlots items ++ required .rParen closing) lexemes tail) :
    ReadsBack .parameters state
      (fun found => unplacedItems Parameter.unplaced found.1 =
        unplacedItems Parameter.unplaced items ∧ unplaced? found.2 = unplaced? closing) tail := by
  induction items generalizing state lexemes with
  | nil => exact absurd rfl nonempty
  | cons item rest ih =>
    rcases item with ⟨parameter, place⟩
    rw [ParameterList.areComplete, Bool.and_eq_true, Bool.and_eq_true] at complete
    rw [ParameterList.itemSlots, List.append_assoc] at spells
    rcases spells_append.mp spells with ⟨afterComma, spellsItem, spellsRest⟩
    rcases spells_append.mp spellsItem with ⟨afterItem, spellsParameter, spellsComma⟩
    rcases readsBack_parameter complete.1.1 faces spellsParameter
      with ⟨value, between, readsValue, alike, facesComma⟩
    cases rest with
    | nil =>
      cases place with
      | some => cases noTrailing
      | none =>
        cases spells_nil.mp spellsComma
        rw [ParameterList.itemSlots, List.nil_append] at spellsRest
        rcases readsBack_expected facesComma spellsRest closed
          with ⟨found, next, closes, alikeClosing, facesNext⟩
        have noComma : Declines between (State.only .comma) :=
          facesComma.declines (spellsRest.avoids rfl rfl)
        refine ⟨([(value, none)], found), next, .parametersLast readsValue noComma closes,
          ⟨?_, alikeClosing⟩, facesNext⟩
        simp only [unplacedItems, List.map_cons, List.map_nil, alike]
    | cons item rest =>
      rw [hasTrailingComma_cons (List.cons_ne_nil item rest)] at noTrailing
      rcases facesComma.takes_only spellsComma with ⟨lexeme, afterTaken, taken, -, facesRest⟩
      rcases ih (List.cons_ne_nil item rest) complete.2 noTrailing facesRest spellsRest
        with ⟨⟨more, found⟩, next, readsMore, ⟨alikeMore, alikeClosing⟩, facesNext⟩
      have completeRest := complete.2
      rw [ParameterList.areComplete, Bool.and_eq_true, Bool.and_eq_true] at completeRest
      rcases exists_firstToken?_parameter completeRest.1.1 with ⟨token, first, different⟩
      have goesOn : afterTaken.isAt .rParen = false := by
        rw [ParameterList.itemSlots, List.append_assoc, List.append_assoc] at spellsRest
        exact facesRest.isAt_eq_false spellsRest (firstToken?_append first _) different
      refine ⟨((value, some lexeme.range) :: more, found), next,
        .parametersNext readsValue taken goesOn readsMore, ⟨?_, alikeClosing⟩, facesNext⟩
      rw [unplacedItems] at alikeMore ⊢
      rw [List.map_cons, List.map_cons, alikeMore, alike, unplaced?_some,
        unplaced?_of_isSome complete.1.2]

theorem readsBack_parameterList {parameters : ParameterList}
    (complete : parameters.isComplete = true) (faces : state.Faces lexemes)
    (spells : Spells parameters.slots lexemes tail) :
    ReadsBack .parameterList state (fun found => found.unplaced = parameters.unplaced) tail := by
  cases parameters with
  | missing => cases complete
  | written opening items closing =>
    simp only [ParameterList.isComplete, Bool.and_eq_true, Bool.not_eq_true'] at complete
    rcases complete with ⟨⟨completeItems, noTrailing⟩, closed⟩
    rw [ParameterList.slots, List.append_assoc] at spells
    rcases spells_append.mp spells with ⟨afterOpening, spellsOpening, spellsItems⟩
    rcases faces.takes_only spellsOpening with ⟨lexeme, between, taken, -, facesItems⟩
    cases items with
    | nil =>
      rw [ParameterList.itemSlots, List.nil_append] at spellsItems
      rcases facesItems.takes_only spellsItems with ⟨closingLexeme, next, closes, -, facesNext⟩
      refine ⟨_, next, .parameterListEmpty taken closes, ?_, facesNext⟩
      simp only [ParameterList.unplaced, unplaced?_some, unplaced?_of_isSome closed]
    | cons item rest =>
      rcases readsBack_parameters (List.cons_ne_nil item rest) completeItems noTrailing closed
          facesItems spellsItems
        with ⟨⟨found, place⟩, next, readsItems, ⟨alike, alikeClosing⟩, facesNext⟩
      rw [ParameterList.areComplete, Bool.and_eq_true, Bool.and_eq_true] at completeItems
      rcases exists_firstToken?_parameter completeItems.1.1 with ⟨token, first, different⟩
      have filled : between.isAt .rParen = false := by
        rw [ParameterList.itemSlots, List.append_assoc, List.append_assoc] at spellsItems
        exact facesItems.isAt_eq_false spellsItems (firstToken?_append first _) different
      refine ⟨_, next, .parameterListFilled taken filled readsItems, ?_, facesNext⟩
      simp only [ParameterList.unplaced, alike, alikeClosing]

/-! ## Class bodies -/

theorem readsBack_classItem {item : ClassItem} (complete : item.isComplete = true)
    (grouped : item.isGrouped = true) (faces : state.Faces lexemes)
    (spells : Spells item.slots lexemes tail) :
    ReadsBack .classItem state
      (fun found => found.map ClassItem.unplaced = some item.unplaced) tail := by
  match item with
  | .member (.variableDeclaration declaration) =>
    rcases readsBack_variableDeclaration complete grouped faces spells
      with ⟨found, next, readsDeclaration, alike, facesNext⟩
    refine ⟨_, next, .classVariable readsDeclaration, ?_, facesNext⟩
    simp only [Option.map_some, ClassItem.unplaced, ClassMember.unplaced, alike]
  | .member (.assignmentStatement assignment) =>
    rw [ClassItem.isGrouped, Bool.and_eq_true] at grouped
    have opens : state.isAt .identifier = true := by
      have named := of_decide_eq_true grouped.2
      rw [ClassItem.slots, ClassMember.slots, AssignmentStatement.slots, List.append_assoc,
        List.append_assoc] at spells
      exact faces.isAt_eq_true spells (firstToken?_append named _)
    rcases readsBack_assignment complete grouped.1 faces spells
      with ⟨target, between, rest, next, readsTarget, normal, -, readsTail, alike, facesNext⟩
    refine ⟨_, next, .classAssignment opens readsTarget normal readsTail, ?_, facesNext⟩
    simp only [Option.map_some, ClassItem.unplaced, ClassMember.unplaced, alike]
  | .member (.error _) | .abandoned _ => cases complete

theorem readsBack_classItems {items : List ClassItem} {closing : Option Range}
    {beyond : List Lexeme} (complete : items.all ClassItem.isComplete = true)
    (grouped : items.all ClassItem.isGrouped = true) (faces : state.Faces lexemes)
    (spells : Spells (items.flatMap ClassItem.slots) lexemes tail)
    (closes : Spells (required .rBrace closing) tail beyond) :
    ReadsBack .classItems state
      (fun found => found.map ClassItem.unplaced = items.map ClassItem.unplaced) tail := by
  induction items generalizing state lexemes with
  | nil =>
    cases spells_nil.mp spells
    have ends : endsList state = true := by
      rw [endsList, faces.peek_eq closes rfl]
      rfl
    exact ⟨[], state, .classItemsEnd ends, rfl, faces⟩
  | cons item rest ih =>
    rw [List.all_cons, Bool.and_eq_true] at complete grouped
    rw [List.flatMap_cons] at spells
    rcases spells_append.mp spells with ⟨afterFirst, spellsFirst, spellsRest⟩
    rcases ClassItem.exists_firstToken? complete.1 with ⟨token, found, starts⟩
    have goesOn : endsList state = false :=
      endsList_of_startsStatement starts (faces.peek_eq spellsFirst found)
    rcases readsBack_classItem complete.1 grouped.1 faces spellsFirst
      with ⟨first, between, readsItem, alike, facesRest⟩
    rcases Option.map_eq_some_iff.mp alike with ⟨read, rfl, alikeFirst⟩
    rcases ih complete.2 grouped.2 facesRest spellsRest
      with ⟨more, next, readsMore, alikeMore, facesNext⟩
    have onward := facesRest.resumes faces spellsFirst (ne_nil_of_firstToken? found) .statement
    refine ⟨_, next, .classItemsNext goesOn readsItem onward readsMore, ?_, facesNext⟩
    show (read :: more).map ClassItem.unplaced = (item :: rest).map ClassItem.unplaced
    rw [List.map_cons, List.map_cons, alikeFirst, alikeMore]

theorem readsBack_classBody {body : ClassBody} (complete : body.isComplete = true)
    (grouped : body.isGrouped = true) (faces : state.Faces lexemes)
    (spells : Spells body.slots lexemes tail) :
    ReadsBack .classBody state (fun found => found.unplaced = body.unplaced) tail := by
  cases body with
  | missing => cases complete
  | written opening items closing =>
    rw [ClassBody.isComplete, Bool.and_eq_true] at complete
    rw [ClassBody.isGrouped] at grouped
    rw [ClassBody.slots] at spells
    rcases spells_append.mp spells with ⟨beforeClosing, spellsFront, spellsClosing⟩
    rcases spells_append.mp spellsFront with ⟨afterOpening, spellsOpening, spellsItems⟩
    rcases faces.takes_only spellsOpening with ⟨lexeme, between, taken, -, facesItems⟩
    rcases readsBack_classItems complete.1 grouped facesItems spellsItems spellsClosing
      with ⟨found, afterItems, readsItems, alike, facesClosing⟩
    rcases readsBack_closingBrace facesClosing spellsClosing complete.2
      with ⟨place, next, closes, alikeClosing, facesNext⟩
    refine ⟨_, next, .classBodyWritten taken readsItems closes, ?_, facesNext⟩
    simp only [ClassBody.unplaced, alike, alikeClosing]

/-! ## Declarations -/

theorem readsBack_instanceDeclaration {declaration : InstanceDeclaration}
    (complete : declaration.isComplete = true)
    (grouped : declaration.body.all Block.isGrouped = true) (faces : state.Faces lexemes)
    (spells : Spells declaration.slots lexemes tail)
    (ends : Avoids (State.only .semicolon) tail) :
    ReadsBack .declaration state (fun found => found.map Declaration.unplaced =
      some (Declaration.instanceDeclaration declaration).unplaced) tail := by
  rcases declaration with ⟨keyword, name, parent, body, semicolon⟩
  rw [InstanceDeclaration.slots] at spells
  rw [InstanceDeclaration.isComplete, Bool.and_eq_true, Bool.and_eq_true] at complete
  rcases complete with ⟨⟨-, completeParent⟩, completeBody⟩
  rcases spells_append.mp spells with ⟨afterParent, spellsFront, spellsBody⟩
  rcases spells_append.mp spellsFront with ⟨afterName, spellsFront, spellsParent⟩
  rcases spells_append.mp spellsFront with ⟨afterKeyword, spellsKeyword, spellsName⟩
  rcases faces.takes_required spellsKeyword
      (rfl : DeclarationStart.ofToken? .kwInstance = some .instanceKeyword)
    with ⟨lexeme, facingName, taken, -, facesName⟩
  rcases readsBack_directName facesName spellsName
    with ⟨foundName, facingParent, readsName, alikeName, facesParent⟩
  have noOpening : Avoids (State.only .lParen) afterParent := by
    cases body with
    | none => exact spellsBody.avoids rfl rfl
    | some body => exact spellsBody.avoids (firstToken?_append body.firstToken?_slots _) rfl
  rcases readsBack_parentClause completeParent facesParent spellsParent noOpening
    with ⟨foundParent, facingBody, readsParent, alikeParent, facesBody⟩
  have sameParent : foundParent.isSome = parent.isSome := by
    rw [← Option.isSome_map, alikeParent, Option.isSome_map]
  have completeSome : body.all Block.isComplete = true := by
    cases body with
    | none => rfl
    | some body => exact completeBody
  have forward : body = none → foundParent.isSome = true ∧ semicolon.isSome = true := by
    rintro rfl
    rw [sameParent]
    exact (Bool.and_eq_true ..).mp completeBody
  rcases readsBack_instanceBody completeSome grouped forward facesBody spellsBody ends
    with ⟨⟨foundBody, place⟩, next, readsBody, ⟨alikeBody, alikeEnd⟩, facesNext⟩
  refine ⟨_, next, .declarationInstance taken readsName readsParent readsBody, ?_, facesNext⟩
  simp only [Option.map_some, Declaration.unplaced, InstanceDeclaration.unplaced, alikeName,
    alikeParent, alikeBody, alikeEnd]

theorem readsBack_prototypeDeclaration {declaration : PrototypeDeclaration}
    (complete : declaration.isComplete = true) (grouped : declaration.body.isGrouped = true)
    (faces : state.Faces lexemes) (spells : Spells declaration.slots lexemes tail)
    (ends : Avoids (State.only .semicolon) tail) :
    ReadsBack .declaration state (fun found => found.map Declaration.unplaced =
      some (Declaration.prototypeDeclaration declaration).unplaced) tail := by
  rw [PrototypeDeclaration.slots] at spells
  simp only [PrototypeDeclaration.isComplete, Bool.and_eq_true] at complete
  rcases complete with ⟨⟨⟨⟨-, opened⟩, -⟩, closed⟩, completeBody⟩
  rcases spells_append.mp spells with ⟨afterBody, spellsFront, spellsSemicolon⟩
  rcases spells_append.mp spellsFront with ⟨afterClosing, spellsFront, spellsBody⟩
  rcases spells_append.mp spellsFront with ⟨afterParent, spellsFront, spellsClosing⟩
  rcases spells_append.mp spellsFront with ⟨afterOpening, spellsFront, spellsParent⟩
  rcases spells_append.mp spellsFront with ⟨afterName, spellsFront, spellsOpening⟩
  rcases spells_append.mp spellsFront with ⟨afterKeyword, spellsKeyword, spellsName⟩
  rcases faces.takes_required spellsKeyword
      (rfl : DeclarationStart.ofToken? .kwPrototype = some .prototypeKeyword)
    with ⟨lexeme, facingName, taken, -, facesName⟩
  rcases readsBack_directName facesName spellsName
    with ⟨name, facingOpening, readsName, alikeName, facesOpening⟩
  rcases readsBack_expected facesOpening spellsOpening opened
    with ⟨opening, facingParent, opens, alikeOpening, facesParent⟩
  rcases readsBack_identifier facesParent spellsParent
    with ⟨parent, facingClosing, readsParent, alikeParent, facesClosing⟩
  rcases readsBack_expected facesClosing spellsClosing closed
    with ⟨closing, facingBody, closes, alikeClosing, facesBody⟩
  rcases readsBack_declarationBody completeBody grouped facesBody spellsBody spellsSemicolon ends
    with ⟨⟨body, place⟩, next, readsBody, ⟨alikeBody, alikeEnd⟩, facesNext⟩
  refine ⟨_, next, .declarationPrototype taken readsName opens readsParent closes readsBody, ?_,
    facesNext⟩
  simp only [Option.map_some, Declaration.unplaced, PrototypeDeclaration.unplaced, alikeName,
    alikeOpening, alikeParent, alikeClosing, alikeBody, alikeEnd]

theorem readsBack_functionDeclaration {declaration : FunctionDeclaration}
    (complete : declaration.isComplete = true) (grouped : declaration.body.isGrouped = true)
    (faces : state.Faces lexemes) (spells : Spells declaration.slots lexemes tail)
    (ends : Avoids (State.only .semicolon) tail) :
    ReadsBack .declaration state (fun found => found.map Declaration.unplaced =
      some (Declaration.functionDeclaration declaration).unplaced) tail := by
  rw [FunctionDeclaration.slots] at spells
  simp only [FunctionDeclaration.isComplete, Bool.and_eq_true] at complete
  rcases complete with ⟨⟨⟨completeType, -⟩, completeParameters⟩, completeBody⟩
  rcases spells_append.mp spells with ⟨afterBody, spellsFront, spellsSemicolon⟩
  rcases spells_append.mp spellsFront with ⟨afterParameters, spellsFront, spellsBody⟩
  rcases spells_append.mp spellsFront with ⟨afterName, spellsFront, spellsParameters⟩
  rcases spells_append.mp spellsFront with ⟨afterType, spellsFront, spellsName⟩
  rcases spells_append.mp spellsFront with ⟨afterKeyword, spellsKeyword, spellsType⟩
  rcases faces.takes_required spellsKeyword
      (rfl : DeclarationStart.ofToken? .kwFunc = some .functionKeyword)
    with ⟨lexeme, facingType, taken, -, facesType⟩
  rcases readsBack_typeReference facesType spellsType completeType
    with ⟨type, facingName, readsType, alikeType, facesName⟩
  rcases readsBack_identifier facesName spellsName
    with ⟨name, facingParameters, readsName, alikeName, facesParameters⟩
  rcases readsBack_parameterList completeParameters facesParameters spellsParameters
    with ⟨parameters, facingBody, readsParameters, alikeParameters, facesBody⟩
  rcases readsBack_declarationBody completeBody grouped facesBody spellsBody spellsSemicolon ends
    with ⟨⟨body, place⟩, next, readsBody, ⟨alikeBody, alikeEnd⟩, facesNext⟩
  refine ⟨_, next, .declarationFunction taken readsType readsName readsParameters readsBody, ?_,
    facesNext⟩
  simp only [Option.map_some, Declaration.unplaced, FunctionDeclaration.unplaced, alikeType,
    alikeName, alikeParameters, alikeBody, alikeEnd]

theorem readsBack_classDeclaration {declaration : ClassDeclaration}
    (complete : declaration.isComplete = true) (grouped : declaration.body.isGrouped = true)
    (faces : state.Faces lexemes) (spells : Spells declaration.slots lexemes tail)
    (ends : Avoids (State.only .semicolon) tail) :
    ReadsBack .declaration state (fun found => found.map Declaration.unplaced =
      some (Declaration.classDeclaration declaration).unplaced) tail := by
  rw [ClassDeclaration.slots] at spells
  rw [ClassDeclaration.isComplete, Bool.and_eq_true] at complete
  rcases spells_append.mp spells with ⟨afterBody, spellsFront, spellsSemicolon⟩
  rcases spells_append.mp spellsFront with ⟨afterName, spellsFront, spellsBody⟩
  rcases spells_append.mp spellsFront with ⟨afterKeyword, spellsKeyword, spellsName⟩
  rcases faces.takes_required spellsKeyword
      (rfl : DeclarationStart.ofToken? .kwClass = some .classKeyword)
    with ⟨lexeme, facingName, taken, -, facesName⟩
  rcases readsBack_directName facesName spellsName
    with ⟨name, facingBody, readsName, alikeName, facesBody⟩
  rcases readsBack_classBody complete.2 grouped facesBody spellsBody
    with ⟨body, facingSemicolon, readsBody, alikeBody, facesSemicolon⟩
  rcases readsBack_optional facesSemicolon spellsSemicolon ends
    with ⟨place, next, readsSemicolon, alikeEnd, facesNext⟩
  have written : body.isMissing = false := ClassBody.isMissing_of_unplaced_eq alikeBody complete.2
  refine ⟨_, next, .declarationClass taken readsName facesBody.clean.normal readsBody written
    readsSemicolon, ?_,
    facesNext⟩
  simp only [Option.map_some, Declaration.unplaced, ClassDeclaration.unplaced, alikeName,
    alikeBody, alikeEnd]

theorem readsBack_declaration {declaration : Declaration}
    (wellFormed : declaration.isWellFormed = true) (faces : state.Faces lexemes)
    (spells : Spells declaration.slots lexemes tail)
    (ends : Avoids (State.only .semicolon) tail) :
    ReadsBack .declaration state
      (fun found => found.map Declaration.unplaced = some declaration.unplaced) tail := by
  rw [Declaration.isWellFormed, Bool.and_eq_true] at wellFormed
  rcases wellFormed with ⟨complete, grouped⟩
  cases declaration with
  | instanceDeclaration => exact readsBack_instanceDeclaration complete grouped faces spells ends
  | prototypeDeclaration => exact readsBack_prototypeDeclaration complete grouped faces spells ends
  | functionDeclaration => exact readsBack_functionDeclaration complete grouped faces spells ends
  | classDeclaration => exact readsBack_classDeclaration complete grouped faces spells ends
  | variableDeclaration =>
    rcases readsBack_variableDeclaration complete grouped faces spells
      with ⟨found, next, readsDeclaration, alike, facesNext⟩
    refine ⟨_, next, .declarationVariable readsDeclaration, ?_, facesNext⟩
    simp only [Option.map_some, Declaration.unplaced, alike]
  | error => cases complete

/-- The next declaration, or the end of the source, is no semicolon. -/
theorem avoids_semicolon_of_declarations {declarations : List Declaration}
    (wellFormed : declarations.all Declaration.isWellFormed = true)
    (spells : Spells (declarations.flatMap Declaration.slots) lexemes []) :
    Avoids (State.only .semicolon) lexemes := by
  cases declarations with
  | nil =>
    cases spells_nil.mp spells
    nofun
  | cons declaration rest =>
    rw [List.all_cons, Bool.and_eq_true, Declaration.isWellFormed, Bool.and_eq_true] at wellFormed
    rw [List.flatMap_cons] at spells
    rcases Declaration.exists_firstToken? wellFormed.1.1 with ⟨token, found, keyword⟩
    refine spells.avoids (firstToken?_append found _) (only_eq_none ?_)
    rintro rfl
    cases keyword

/-- Declarations up to the end of the source. -/
theorem readsBack_declarations {declarations : List Declaration}
    (wellFormed : declarations.all Declaration.isWellFormed = true) (faces : state.Faces lexemes)
    (spells : Spells (declarations.flatMap Declaration.slots) lexemes []) :
    ReadsBack .declarations state
      (fun found => found.map Declaration.unplaced = declarations.map Declaration.unplaced)
      [] := by
  induction declarations generalizing state lexemes with
  | nil =>
    cases spells_nil.mp spells
    exact ⟨[], state, .declarationsEnd faces.rest, rfl, faces⟩
  | cons declaration rest ih =>
    rw [List.all_cons, Bool.and_eq_true] at wellFormed
    rw [List.flatMap_cons] at spells
    rcases spells_append.mp spells with ⟨afterFirst, spellsFirst, spellsRest⟩
    have complete := ((Bool.and_eq_true ..).mp wellFormed.1).1
    rcases Declaration.exists_firstToken? complete with ⟨token, found, -⟩
    have goesOn : state.rest ≠ [] := by
      rcases spellsFirst.exists_head found with ⟨lexeme, member, -⟩
      rw [faces.rest]
      rintro rfl
      cases member
    have ends : Avoids (State.only .semicolon) afterFirst :=
      avoids_semicolon_of_declarations wellFormed.2 spellsRest
    rcases readsBack_declaration wellFormed.1 faces spellsFirst ends
      with ⟨first, between, readsItem, alike, facesRest⟩
    rcases Option.map_eq_some_iff.mp alike with ⟨read, rfl, alikeFirst⟩
    rcases ih wellFormed.2 facesRest spellsRest
      with ⟨more, next, readsMore, alikeMore, facesNext⟩
    have onward := facesRest.resumes faces spellsFirst (ne_nil_of_firstToken? found) .topLevel
    refine ⟨_, next, .declarationsNext goesOn readsItem onward readsMore, ?_, facesNext⟩
    show (read :: more).map Declaration.unplaced =
      (declaration :: rest).map Declaration.unplaced
    rw [List.map_cons, List.map_cons, alikeFirst, alikeMore]

end Grammar

end ScriptTree
