import ScriptTree.Proofs.Grammar.Parallel.Program

/-!
# A seam between two programs

A declaration that is read without a report ends with a token that it takes.  What
comes after it is looked at in one case only, to see whether it is a semicolon.  So
in front of anything else the declarations of a program are read as they are read
in front of nothing, and they leave the parse as it was when it began, but for the
place and for the number of lexemes taken.
-/

namespace ScriptTree.Grammar

variable {state next : State}

theorem Taking.left {α : Type} {recognize : Token → Option α} {value : α} {lexeme : Lexeme}
    (taken : Takes state recognize value lexeme next) : state.rest ≠ [] := by
  rw [taken.front]
  exact List.cons_ne_nil _ _

/-- Where lexemes are left in the end, some were left before. -/
theorem Derivation.left {production : Production} {value : production.Value}
    (reads : Reads production state value next) (left : next.rest ≠ []) : state.rest ≠ [] :=
  fun empty => left (List.suffix_nil.mp (empty ▸ reads.rest_suffix))

namespace Comparison

variable (comparison : Comparison)

/-- What a production reads ends with a lexeme, and it is carried over whatever follows. -/
structure Closes (production : Production) (state : State)
    (value : production.Value) (next : State) : Prop where
  left : state.rest ≠ []
  carries : comparison.Carries production state value next

/-- Where lexemes are left, what is read without a report is carried over. -/
theorem carries_of_left {production : Production} {value : production.Value}
    (reads : Reads production state value next) (clean : next.Clean) (left : next.rest ≠ []) :
    comparison.Carries production state value next :=
  fun _ parallel => parallel.follows reads ⟨.inr left, .inr fun _ => clean⟩

theorem closes_closingBrace {value : Option Range} (reads : Reads .closingBrace state value next)
    (clean : next.Clean) : comparison.Closes .closingBrace state value next := by
  cases reads with
  | closingBraceTaken taken =>
    refine ⟨taken.left, fun other parallel => ?_⟩
    rcases parallel.takes taken with ⟨_, _, takenOther, same, after⟩
    exact ⟨_, _, .closingBraceTaken takenOther, after, congrArg some same.range⟩
  | closingBraceMissing => exact absurd clean (not_clean_fail _ _)

theorem closes_terminator {value : Option Range} (reads : Reads .terminator state value next)
    (clean : next.Clean) : comparison.Closes .terminator state value next := by
  cases reads with
  | terminatorTaken taken =>
    refine ⟨taken.left, fun other parallel => ?_⟩
    rcases parallel.takes taken with ⟨_, _, takenOther, same, after⟩
    exact ⟨_, _, .terminatorTaken takenOther, after, congrArg some same.range⟩
  | terminatorGranted => exact absurd clean (not_clean_reportMissing _ _)
  | terminatorMissing => exact absurd clean (not_clean_fail _ _)
  | terminatorIdle recovering =>
    rw [clean.normal] at recovering
    cases recovering

/-- A block that is read cleanly is written, and is carried over whatever follows. -/
theorem closes_block {body : Block} (reads : Reads .block state body next)
    (sound : state.Sound) (clean : next.Clean) :
    body.isMissing = false ∧ comparison.Closes .block state body next := by
  cases reads with
  | blockMissing => exact absurd clean (not_clean_fail _ _)
  | blockWritten taken readsItems closing =>
    have soundItems := readsItems.sound (taken.sound sound)
    have closes := closes_closingBrace comparison closing clean
    have items := carries_of_left comparison readsItems
      (closing.clean soundItems clean) closes.left
    exact ⟨rfl, taken.left, .blockWritten taken items closes.carries⟩

theorem closes_classBody {body : ClassBody} (reads : Reads .classBody state body next)
    (sound : state.Sound) (clean : next.Clean) :
    body.isMissing = false ∧ comparison.Closes .classBody state body next := by
  cases reads with
  | classBodyMissing => exact absurd clean (not_clean_fail _ _)
  | classBodyWritten taken readsItems closing =>
    have soundItems := readsItems.sound (taken.sound sound)
    have closes := closes_closingBrace comparison closing clean
    have items := carries_of_left comparison readsItems
      (closing.clean soundItems clean) closes.left
    exact ⟨rfl, taken.left, .classBodyWritten taken items closes.carries⟩

theorem closes_variableDeclaration {declaration : VariableDeclaration}
    (reads : Reads .variableDeclaration state declaration next) (sound : state.Sound)
    (clean : next.Clean) : comparison.Closes .variableDeclaration state declaration next := by
  cases reads with
  | variableDeclaration taken type name size initializer ends =>
    have soundType := type.sound (taken.sound sound)
    have soundName := name.sound soundType
    have soundSize := size.sound soundName
    have soundInitializer := initializer.sound soundSize
    have closes := closes_terminator comparison ends clean
    have cleanInitializer := ends.clean soundInitializer clean
    have cleanSize := initializer.clean soundSize cleanInitializer
    have cleanName := size.clean soundName cleanSize
    have leftSize := initializer.left closes.left
    have leftName := size.left leftSize
    have carriesType := carries_of_left comparison type (name.clean soundType cleanName)
      (name.left leftName)
    have carriesName := carries_of_left comparison name cleanName leftName
    have carriesSize := carries_of_left comparison size cleanSize leftSize
    have carriesInitializer :=
      carries_of_left comparison initializer cleanInitializer closes.left
    exact ⟨taken.left, .variableDeclaration taken carriesType carriesName carriesSize
      carriesInitializer closes.carries⟩

section

variable {comparison} (foreign : ∀ lexeme ∈ comparison.tail.head?, lexeme.token ≠ .semicolon)

include foreign

/-- A semicolon that is absent is absent in front of what follows, too. -/
theorem carries_semicolon {value : Option Range}
    (reads : Reads (.optional .semicolon) state value next) :
    comparison.Carries (.optional .semicolon) state value next := by
  intro other parallel
  cases reads with
  | optionalTaken taken =>
    rcases parallel.takes taken with ⟨_, _, takenOther, same, after⟩
    exact ⟨_, _, .optionalTaken takenOther, after, congrArg some same.range⟩
  | optionalAbsent declined =>
    refine ⟨_, _, .optionalAbsent fun normal lexeme first => ?_, parallel, rfl⟩
    rcases parallel.rest with ⟨front, whole, similar⟩
    rw [whole] at first
    cases front with
    | nil => exact only_eq_none (foreign lexeme first)
    | cons head others =>
      cases first
      generalize left : state.rest = rest at similar
      cases similar with
      | cons same _ =>
        rw [← same.token]
        exact declined (parallel.mode.trans normal) _ (by rw [left]; rfl)

theorem closes_declarationBody {body : Block} {semicolon : Option Range}
    (reads : Reads .declarationBody state (body, semicolon) next) (sound : state.Sound)
    (clean : next.Clean) : comparison.Closes .declarationBody state (body, semicolon) next := by
  cases reads with
  | bodyMissing _ readsBody missing =>
    have written := (closes_block comparison readsBody sound clean).1
    rw [missing] at written
    cases written
  | bodyIdle recovering =>
    rw [clean.normal] at recovering
    cases recovering
  | bodyWritten normal readsBody written readsSemicolon =>
    have cleanBody := readsSemicolon.clean (readsBody.sound sound) clean
    have closes := (closes_block comparison readsBody sound cleanBody).2
    exact ⟨closes.left,
      .bodyWritten normal written closes.carries (carries_semicolon foreign readsSemicolon)⟩

theorem closes_instanceBody {hasParent : Bool} {value : Option Block × Option Range}
    (reads : Reads (.instanceBody hasParent) state value next) (sound : state.Sound)
    (clean : next.Clean) : comparison.Closes (.instanceBody hasParent) state value next := by
  cases reads with
  | instanceIdle recovering =>
    rw [clean.normal] at recovering
    cases recovering
  | instanceBlock normal opens readsBody readsSemicolon =>
    have cleanBody := readsSemicolon.clean (readsBody.sound sound) clean
    have closes := (closes_block comparison readsBody sound cleanBody).2
    refine ⟨closes.left, .instanceBlock normal (fun other parallel => ?_) closes.carries
      (carries_semicolon foreign readsSemicolon)⟩
    rw [parallel.isAt_eq ⟨.inr closes.left, .inr fun _ => readsBody.clean sound cleanBody⟩, opens]
  | instanceForward taken =>
    cases hasParent with
    | true =>
      refine ⟨taken.left, fun other parallel => ?_⟩
      rcases parallel.takes taken with ⟨_, _, takenOther, same, after⟩
      exact ⟨_, _, .instanceForward takenOther, after,
        congrArg (fun place => (none, some place)) same.range⟩
    | false =>
      have reported := taken.clean ((moves_reportMissing state .lParen).sound sound) clean
      exact absurd reported (not_clean_reportMissing _ _)
  | instanceBare => exact absurd clean (not_clean_fail _ _)

/-- A declaration that is read without a report is carried over whatever follows. -/
theorem carries_declaration {item : Option Declaration}
    (reads : Reads .declaration state item next) (sound : state.Sound) (clean : next.Clean) :
    comparison.Carries .declaration state item next := by
  cases reads with
  | declarationInstance taken name parent body =>
    have soundName := name.sound (taken.sound sound)
    have soundParent := parent.sound soundName
    have closes := closes_instanceBody foreign body soundParent clean
    have cleanParent := body.clean soundParent clean
    have carriesParent := carries_of_left comparison parent cleanParent closes.left
    have carriesName := carries_of_left comparison name (parent.clean soundName cleanParent)
      (parent.left closes.left)
    exact .declarationInstance taken carriesName carriesParent closes.carries
  | declarationPrototype taken name opening parent closing body =>
    have soundName := name.sound (taken.sound sound)
    have soundOpening := opening.sound soundName
    have soundParent := parent.sound soundOpening
    have soundClosing := closing.sound soundParent
    have closes := closes_declarationBody foreign body soundClosing clean
    have cleanClosing := body.clean soundClosing clean
    have cleanParent := closing.clean soundParent cleanClosing
    have cleanOpening := parent.clean soundOpening cleanParent
    have leftParent := closing.left closes.left
    have leftOpening := parent.left leftParent
    have carriesName := carries_of_left comparison name (opening.clean soundName cleanOpening)
      (opening.left leftOpening)
    have carriesOpening := carries_of_left comparison opening cleanOpening leftOpening
    have carriesParent := carries_of_left comparison parent cleanParent leftParent
    have carriesClosing := carries_of_left comparison closing cleanClosing closes.left
    exact .declarationPrototype taken carriesName carriesOpening carriesParent carriesClosing
      closes.carries
  | declarationFunction taken type name parameters body =>
    have soundType := type.sound (taken.sound sound)
    have soundName := name.sound soundType
    have soundParameters := parameters.sound soundName
    have closes := closes_declarationBody foreign body soundParameters clean
    have cleanParameters := body.clean soundParameters clean
    have cleanName := parameters.clean soundName cleanParameters
    have leftName := parameters.left closes.left
    have carriesType := carries_of_left comparison type (name.clean soundType cleanName)
      (name.left leftName)
    have carriesName := carries_of_left comparison name cleanName leftName
    have carriesParameters :=
      carries_of_left comparison parameters cleanParameters closes.left
    exact .declarationFunction taken carriesType carriesName carriesParameters closes.carries
  | declarationNamelessClass _ _ recovering =>
    rw [clean.normal] at recovering
    cases recovering
  | declarationUnfinishedClass taken name _ body missing =>
    have soundName := name.sound (taken.sound sound)
    have written := (closes_classBody comparison body soundName clean).1
    rw [missing] at written
    cases written
  | declarationClass taken name normal body written semicolon =>
    have soundName := name.sound (taken.sound sound)
    have cleanBody := semicolon.clean (body.sound soundName) clean
    have closes := (closes_classBody comparison body soundName cleanBody).2
    have carriesName := carries_of_left comparison name (body.clean soundName cleanBody) closes.left
    exact .declarationClass normal written taken carriesName closes.carries
      (carries_semicolon foreign semicolon)
  | declarationVariable declaration =>
    exact .declarationVariable
      (closes_variableDeclaration comparison declaration sound clean).carries
  | declarationRejected => exact absurd clean (not_clean_reject _ _)

end

end Comparison

/-! ## Declarations one after the other -/

/-- After a declaration that was read without a report, a program goes on without a skip. -/
theorem Resumes.onward_of_clean {start : State} {item : Option Declaration}
    {node : Option ErrorNode} (resumes : Resumes .topLevel start state node next)
    (readsItem : Reads .declaration start item state) (clean : state.Clean) :
    node = none ∧ next = state ∧ state.rest.length < start.rest.length := by
  have progress : state.rest.length < start.rest.length := by
    cases item with
    | some declaration => exact readsItem.fewer_declaration
    | none =>
      cases readsItem with
      | declarationRejected => exact absurd clean (not_clean_reject _ _)
  cases resumes with
  | onward => exact ⟨rfl, rfl, progress⟩
  | synchronized cause =>
    rcases cause with ⟨-, recovering⟩ | ⟨idle, -⟩
    · rw [clean.normal] at recovering
      cases recovering
    · exact absurd progress idle
  | skippedOne idle => exact absurd progress idle

/-- Declarations that are read without a report are read in front of whatever follows, and what
follows is read from there on. -/
theorem Derivation.carries_declarations {comparison : Comparison} {other : State}
    {items : List Declaration} (reads : Reads .declarations state items next)
    (foreign : ∀ lexeme ∈ comparison.tail.head?, lexeme.token ≠ .semicolon)
    (sound : state.Sound) (clean : next.Clean) (parallel : comparison.Parallel state other) :
    ∃ others after, comparison.Parallel next after ∧
      items.map (Declaration.mapRanges comparison.move) =
        others.map (Declaration.mapRanges comparison.moveOther) ∧
      ∀ {more final}, Reads .declarations after more final →
        Reads .declarations other (others ++ more) final := by
  induction left : state.rest.length using Nat.strong_induction_on
    generalizing state items other with
  | h length ih =>
    cases reads with
    | declarationsEnd => exact ⟨[], other, parallel, rfl, id⟩
    | declarationsNext goesOn readsItem resumes readsMore =>
      have soundItem := readsItem.sound sound
      have cleanItem := resumes.clean_before readsMore soundItem clean
      rcases resumes.onward_of_clean readsItem cleanItem with ⟨rfl, rfl, progress⟩
      rcases Comparison.carries_declaration foreign readsItem sound cleanItem parallel
        with ⟨itemOther, afterOther, readsOther, parallelItem, same⟩
      rcases ih _ (left ▸ progress) readsMore soundItem parallelItem rfl
        with ⟨others, after, parallelAfter, alike, continues⟩
      have progressOther : afterOther.rest.length < other.rest.length := by
        rw [parallel.length_rest, parallelItem.length_rest]
        exact Nat.add_lt_add_right progress _
      have resumesOther : Resumes .topLevel other afterOther none afterOther :=
        .onward progressOther (parallelItem.mode ▸ cleanItem.normal)
      have skipsAlike : (none : Option ErrorNode).map (ErrorNode.mapRanges comparison.move) =
          (none : Option ErrorNode).map (ErrorNode.mapRanges comparison.moveOther) := rfl
      refine ⟨Option.toList itemOther ++ (Option.map Declaration.error none).toList ++ others,
        after, parallelAfter, ?_, fun readsAfter => ?_⟩
      · refine map_resumed ?_ ?_ same skipsAlike alike <;> exact fun _ => rfl
      · rw [List.append_assoc]
        exact .declarationsNext (parallel.rest_ne_nil goesOn) readsOther resumesOther
          (continues readsAfter)

/-! ## Programs one after the other -/

/-- A parse that reads a program is compared with one that has something else to read after it. -/
def Comparison.inFrontOf (tail : List Lexeme) : Comparison :=
  { Comparison.inPlace with tail, mindsLines := false }

/-- A parse is compared with the end of one that has taken other lexemes before. -/
def Comparison.after (ahead : Nat) {move : Range → Range} (relocates : Range.IsRelocation move) :
    Comparison :=
  { Comparison.inPlace with move, relocates, ahead }

variable {move : Range → Range} {lines : Nat}

/-- Lines that all move down alike have the same breaks. -/
theorem breaks_mapRange (below : ∀ range, (move range).start.line = lines + range.start.line ∧
      (move range).stop.line = lines + range.stop.line) (line : Nat) (lexemes : List Lexeme) :
    Lexeme.breaks (lines + line) (lexemes.map (Lexeme.mapRange move)) =
      Lexeme.breaks line lexemes := by
  induction lexemes generalizing line with
  | nil => rfl
  | cons lexeme rest ih =>
    rcases below lexeme.range with ⟨start, stop⟩
    have later : decide (lines + line < (move lexeme.range).start.line) =
        decide (line < lexeme.range.start.line) := by
      rw [start]
      exact decide_eq_decide.mpr Nat.add_lt_add_iff_left
    have rest := ih lexeme.range.stop.line
    rw [← stop] at rest
    rw [List.map_cons, Lexeme.breaks, Lexeme.breaks, ← rest, ← later]
    rfl

theorem forall₂_inFrontOf (tail lexemes : List Lexeme) :
    List.Forall₂ (Comparison.inFrontOf tail).Matches lexemes lexemes := by
  induction lexemes with
  | nil => exact .nil
  | cons lexeme rest ih => exact .cons ⟨rfl, rfl⟩ ih

theorem forall₂_after (ahead : Nat) (relocates : Range.IsRelocation move)
    (lexemes : List Lexeme) :
    List.Forall₂ (Comparison.after ahead relocates).Matches
      (lexemes.map (Lexeme.mapRange move)) lexemes := by
  induction lexemes with
  | nil => exact .nil
  | cons lexeme rest ih => exact .cons ⟨rfl, rfl⟩ ih

/-- After a program that is read without a report, another one is read as it is read alone. -/
theorem Derivation.append {first second : List Lexeme} {items more : List Declaration}
    {final last : State} (reads : Reads .declarations (.ofLexemes first) items final)
    (sound : (State.ofLexemes first).Sound) (clean : final.Clean)
    (readsMore : Reads .declarations (.ofLexemes second) more last)
    (foreign : ∀ lexeme ∈ second.head?, lexeme.token ≠ .semicolon)
    (relocates : Range.IsRelocation move)
    (below : ∀ range, (move range).start.line = lines + range.start.line ∧
      (move range).stop.line = lines + range.stop.line) :
    ∃ after, Reads .declarations (.ofLexemes (first ++ second.map (Lexeme.mapRange move)))
        (items ++ more.map (Declaration.mapRanges move)) after ∧
      after.diagnostics = last.diagnostics.map (Diagnostic.mapRange move) := by
  have stay : Declaration.mapRanges id = id := funext Declaration.mapRanges_id
  have stayReports : Diagnostic.mapRange id = id := rfl
  have foreignMoved : ∀ lexeme ∈ (second.map (Lexeme.mapRange move)).head?,
      lexeme.token ≠ .semicolon := by
    intro lexeme member
    rw [List.head?_map] at member
    rcases Option.map_eq_some_iff.mp member with ⟨original, first, rfl⟩
    exact foreign original first
  have begun : (Comparison.inFrontOf (second.map (Lexeme.mapRange move))).Parallel
      (.ofLexemes first) (.ofLexemes (first ++ second.map (Lexeme.mapRange move))) :=
    .of_matches rfl (forall₂_inFrontOf _ first) rfl rfl nofun (.inr sound)
  rcases reads.carries_declarations foreignMoved sound clean begun
    with ⟨others, between, parallel, alike, continues⟩
  have others_eq : items = others := by
    simpa [Comparison.inFrontOf, Comparison.inPlace, stay] using alike
  have rest : between.rest = second.map (Lexeme.mapRange move) := by
    rcases parallel.rest with ⟨front, whole, similar⟩
    rw [reads.rest_eq_nil, List.forall₂_nil_right_iff] at similar
    rw [whole, similar]
    rfl
  have normal : between.recovering = false := parallel.mode.symm.trans clean.normal
  have unreported : between.diagnostics = [] := by
    have reported := parallel.diagnostics
    rw [clean.unreported] at reported
    exact List.map_eq_nil_iff.mp reported.symm
  -- The second program does not look at the place in front of it, so that place may be moved, too.
  have begunAfter : (Comparison.after between.index relocates).Parallel (.ofLexemes second)
      { between with anchor := move (State.ofLexemes second).anchor } :=
    { rest := ⟨_, rest.trans (List.append_nil _).symm, forall₂_after _ relocates second⟩
      anchor := rfl
      mode := normal.symm
      index := rfl
      noted := by rw [parallel.noted, clean.unnoted]; rfl
      diagnostics := by rw [unreported]; rfl
      lines := fun _ => by
        rw [rest, (below _).1, breaks_mapRange below]
        exact List.prefix_rfl
      sound := .inl rfl }
  rcases begunAfter.follows readsMore ⟨.inl rfl, .inl rfl⟩
    with ⟨moreOther, after, readsOther, parallelAfter, alikeMore⟩
  rcases readsOther.declarations_at_anchor normal between.anchor with ⟨place, readsBetween⟩
  have moreOther_eq : more.map (Declaration.mapRanges move) = moreOther := by
    simpa [Production.mapRanges, Comparison.after, Comparison.inPlace, stay] using alikeMore
  refine ⟨{ after with anchor := place }, ?_, ?_⟩
  · rw [others_eq, moreOther_eq]
    exact continues readsBetween
  · have reported := parallelAfter.diagnostics
    simpa [Comparison.after, Comparison.inPlace, stayReports] using reported.symm

end ScriptTree.Grammar
