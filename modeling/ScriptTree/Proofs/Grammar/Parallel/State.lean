import ScriptTree.Proofs.Grammar.Clean
import ScriptTree.Proofs.Grammar.Division
import ScriptTree.Proofs.Node.MapRanges
import ScriptTree.Proofs.Syntax.Complete

/-!
# Two parses in parallel

Two parses run in parallel if their lexemes are the same apart from their places,
and if each place in one of them is found in the other one.  The second parse may
have taken more lexemes before, and it may have more of them left: then the
comparison ends where the first parse has none left.

A parse asks for lines at one point only, where it decides whether something
missing may be taken for granted.  So either the lexemes are divided into lines
alike, or nothing is said of parses that report something.
-/

namespace ScriptTree

/-- A diagnostic in another place.  Its message stays. -/
def Diagnostic.mapRange (move : Range → Range) (diagnostic : Diagnostic) : Diagnostic :=
  { diagnostic with range := move diagnostic.range }

/-- The error node of moved tokens is the moved error node. -/
theorem ErrorNode.ofTokens?_mapRanges {move : Range → Range}
    (relocates : Range.IsRelocation move) (tokens : List PlacedToken) :
    (ofTokens? tokens).map (mapRanges move) =
      ofTokens? (tokens.map (PlacedToken.mapRanges move)) := by
  cases tokens with
  | nil => rfl
  | cons first rest =>
    have last : ((rest.map (PlacedToken.mapRanges move)).getLast?).getD
        (first.mapRanges move) = ((rest.getLast?).getD first).mapRanges move := by
      rw [List.getLast?_map]
      cases rest.getLast? <;> rfl
    rw [List.map_cons, ofTokens?, ofTokens?, last, Option.map_some, mapRanges, List.map_cons,
      relocates.through]
    rfl

namespace Lexeme

/-- A lexeme in another place. -/
def mapRange (move : Range → Range) (lexeme : Lexeme) : Lexeme :=
  { lexeme with range := move lexeme.range }

/-- For each lexeme whether it starts on a later line than the one in front of it ends, the first
of them after something that ends on `line`. -/
def breaks (line : Nat) : List Lexeme → List Bool
  | [] => []
  | lexeme :: rest =>
    decide (line < lexeme.range.start.line) :: breaks lexeme.range.stop.line rest

/-- The line on which lexemes end that follow something on `line`. -/
def lastLine (line : Nat) (lexemes : List Lexeme) : Nat :=
  (lexemes.getLast?.map fun lexeme => lexeme.range.stop.line).getD line

theorem length_breaks (line : Nat) (lexemes : List Lexeme) :
    (breaks line lexemes).length = lexemes.length := by
  induction lexemes generalizing line with
  | nil => rfl
  | cons lexeme rest ih => rw [breaks, List.length_cons, ih, List.length_cons]

/-- The breaks of two rows of lexemes follow each other. -/
theorem breaks_append (line : Nat) (first second : List Lexeme) :
    breaks line (first ++ second) = breaks line first ++ breaks (lastLine line first) second := by
  induction first generalizing line with
  | nil => rfl
  | cons lexeme rest ih =>
    have last : lastLine line (lexeme :: rest) = lastLine lexeme.range.stop.line rest := by
      cases found : rest.getLast? <;> simp [lastLine, List.getLast?_cons, found]
    rw [List.cons_append, breaks, ih, breaks, last, List.cons_append]

end Lexeme

namespace Grammar

/-- How a parse is compared with another one. -/
structure Comparison where
  /-- The place of a range of the first parse. -/
  move : Range → Range
  /-- The place of a range of the second parse. -/
  moveOther : Range → Range
  relocates : Range.IsRelocation move
  relocatesOther : Range.IsRelocation moveOther
  /-- What the second parse has left where the first one has nothing left. -/
  tail : List Lexeme
  /-- How many lexemes the second parse had taken before the first one began. -/
  ahead : Nat
  /-- Whether the lexemes are divided into lines alike. -/
  mindsLines : Bool

/-- A lexeme of the second parse is the same as one of the first, at the same place. -/
structure Comparison.Matches (comparison : Comparison) (other lexeme : Lexeme) : Prop where
  mark : lexeme.mark = other.mark
  range : comparison.move lexeme.range = comparison.moveOther other.range

namespace Comparison.Matches

variable {comparison : Comparison} {lexeme other : Lexeme}

theorem token (same : comparison.Matches other lexeme) : lexeme.token = other.token :=
  congrArg Mark.token same.mark

/-- Where a text matters, it is the same. -/
theorem text (same : comparison.Matches other lexeme) (bears : lexeme.token.bearsText = true) :
    lexeme.text = other.text := by
  have texts := congrArg Mark.text same.mark
  rw [Lexeme.mark, Lexeme.mark, ← same.token, bears] at texts
  exact Option.some.inj texts

/-- What matches is placed alike. -/
theorem placed (same : comparison.Matches other lexeme) :
    lexeme.toPlacedToken.mapRanges comparison.move =
      other.toPlacedToken.mapRanges comparison.moveOther := by
  rw [PlacedToken.mapRanges, PlacedToken.mapRanges, same.token, same.range]

end Comparison.Matches

/-- Two parses that are at the same point. -/
structure Comparison.Parallel (comparison : Comparison) (state other : State) : Prop where
  rest : ∃ front, other.rest = front ++ comparison.tail ∧
    List.Forall₂ comparison.Matches front state.rest
  anchor : comparison.move state.anchor = comparison.moveOther other.anchor
  mode : state.recovering = other.recovering
  index : other.index = comparison.ahead + state.index
  noted : other.noted = state.noted.map fun index => comparison.ahead + index
  diagnostics : state.diagnostics.map (Diagnostic.mapRange comparison.move) =
    other.diagnostics.map (Diagnostic.mapRange comparison.moveOther)
  lines : comparison.mindsLines = true →
    Lexeme.breaks state.anchor.start.line state.rest <+:
      Lexeme.breaks other.anchor.start.line other.rest
  sound : comparison.mindsLines = true ∨ state.Sound

/-- A state up to which parses are compared: lexemes are left where the other parse has more of
them, and nothing is wrong where lines are not minded. -/
structure Comparison.Admits (comparison : Comparison) (state : State) : Prop where
  unfinished : comparison.tail = [] ∨ state.rest ≠ []
  quiet : comparison.mindsLines = true ∨ (state.Sound → state.Clean)

/-- No lexeme is taken or skipped between two states. -/
structure State.Stays (state after : State) : Prop where
  rest : after.rest = state.rest
  anchor : after.anchor = state.anchor
  index : after.index = state.index

theorem State.stays_report (state : State) (range : Range) (expected : Expectation) :
    state.Stays (state.report range expected) :=
  ⟨rest_report .., anchor_report .., index_report ..⟩

theorem State.stays_fail (state : State) (expected : Expectation) :
    state.Stays (state.fail expected) :=
  ⟨rest_fail .., anchor_fail .., index_fail ..⟩

theorem State.stays_reject (state : State) (production : String) :
    state.Stays (state.reject production) :=
  ⟨rest_reject .., anchor_reject .., index_reject ..⟩

theorem isAcceptableTarget_mapRanges (move : Range → Range) (target : Expression) :
    isAcceptableTarget (target.mapRanges move) = isAcceptableTarget target := by
  cases target <;> simp [isAcceptableTarget, Expression.isAssignable, Expression.isError]

section

variable {comparison : Comparison} {state next other : State}

/-- What a comparison admits it admitted before. -/
theorem Comparison.Admits.before (admits : comparison.Admits next) (moves : Moves state next) :
    comparison.Admits state where
  unfinished := admits.unfinished.imp id fun left empty =>
    left (List.suffix_nil.mp (empty ▸ moves.rest_suffix))
  quiet := admits.quiet.imp id fun clean sound => moves.clean sound (clean (moves.sound sound))

/-- A comparison that admits the state behind a production admits the one in front of it. -/
theorem Derivation.admits {production : Production} {value : production.Value}
    (reads : Reads production state value next) (admits : comparison.Admits next) :
    comparison.Admits state :=
  admits.before reads.moves

theorem Taking.admits {α : Type} {recognize : Token → Option α} {value : α} {lexeme : Lexeme}
    (taken : Takes state recognize value lexeme next) (admits : comparison.Admits next) :
    comparison.Admits state :=
  admits.before taken.moves

theorem Resumes.admits {level : SyncLevel} {start : State} {node : Option ErrorNode}
    (resumes : Resumes level start state node next) (admits : comparison.Admits next) :
    comparison.Admits state :=
  admits.before resumes.moves

namespace Comparison.Parallel

/-- The first lexemes of two parses, of which one has lexemes left. -/
theorem exists_first (parallel : comparison.Parallel state other) {lexeme : Lexeme}
    {rest : List Lexeme} (front : state.rest = lexeme :: rest) :
    ∃ otherLexeme others, other.rest = otherLexeme :: (others ++ comparison.tail) ∧
      comparison.Matches otherLexeme lexeme ∧ List.Forall₂ comparison.Matches others rest := by
  rcases parallel.rest with ⟨all, whole, similar⟩
  rw [front] at similar
  cases similar with
  | cons same others => exact ⟨_, _, whole, same, others⟩

theorem rest_eq_nil (parallel : comparison.Parallel state other)
    (admits : comparison.Admits state) (empty : state.rest = []) : other.rest = [] := by
  rcases parallel.rest with ⟨all, whole, similar⟩
  rw [empty, List.forall₂_nil_right_iff] at similar
  rw [whole, similar, admits.unfinished.resolve_right (not_not.mpr empty)]
  rfl

/-- The other parse has the tail left besides. -/
theorem length_rest (parallel : comparison.Parallel state other) :
    other.rest.length = state.rest.length + comparison.tail.length := by
  rcases parallel.rest with ⟨all, whole, similar⟩
  rw [whole, List.length_append, similar.length_eq]

/-- The next lexemes match. -/
theorem head?_rest (parallel : comparison.Parallel state other)
    (admits : comparison.Admits state) :
    state.rest = [] ∧ other.rest = [] ∨
      ∃ lexeme otherLexeme, state.rest.head? = some lexeme ∧
        other.rest.head? = some otherLexeme ∧ comparison.Matches otherLexeme lexeme := by
  cases front : state.rest with
  | nil => exact .inl ⟨rfl, parallel.rest_eq_nil admits front⟩
  | cons lexeme rest =>
    rcases parallel.exists_first front with ⟨otherLexeme, others, frontOther, same, -⟩
    exact .inr ⟨lexeme, otherLexeme, rfl, by rw [frontOther]; rfl, same⟩

/-- Parallel parses see the same token. -/
theorem peek_eq (parallel : comparison.Parallel state other) (admits : comparison.Admits state) :
    other.peek = state.peek := by
  rcases parallel.head?_rest admits with ⟨empty, emptyOther⟩ | ⟨_, _, head, headOther, same⟩
  · rw [State.peek, State.peek, empty, emptyOther]
  · rw [State.peek, State.peek, head, headOther, Option.map_some, Option.map_some, same.token]

theorem isAt_eq (parallel : comparison.Parallel state other) (admits : comparison.Admits state)
    (token : Token) : other.isAt token = state.isAt token := by
  rw [State.isAt, State.isAt, parallel.peek_eq admits]

/-- What one parse declines the other one declines. -/
theorem declines {α : Type} {recognize : Token → Option α}
    (parallel : comparison.Parallel state other) (admits : comparison.Admits state)
    (declined : Declines state recognize) : Declines other recognize := by
  intro normal lexeme member
  rcases parallel.head?_rest admits with ⟨-, emptyOther⟩ | ⟨first, _, head, headOther, same⟩
  · simp [emptyOther] at member
  · rw [headOther] at member
    cases member
    rw [← same.token]
    exact declined (parallel.mode.trans normal) first head

theorem misses {α : Type} {recognize : Token → Option α}
    (parallel : comparison.Parallel state other) (admits : comparison.Admits state)
    (missed : Misses state recognize) : Misses other recognize :=
  (parallel.declines admits missed.declines).misses (parallel.mode.symm.trans missed.normal)

theorem here_eq (parallel : comparison.Parallel state other) (admits : comparison.Admits state) :
    comparison.move state.here = comparison.moveOther other.here := by
  rcases parallel.head?_rest admits with ⟨empty, emptyOther⟩ | ⟨_, _, head, headOther, same⟩
  · simpa [State.here, empty, emptyOther] using parallel.anchor
  · simpa [State.here, head, headOther] using same.range

/-- A missing token is taken for granted in both parses or in neither. -/
theorem admitsInsertion_eq (parallel : comparison.Parallel state other)
    (admits : comparison.Admits state) (minds : comparison.mindsLines = true) :
    other.admitsInsertion = state.admitsInsertion := by
  cases front : state.rest with
  | nil =>
    have empty := parallel.rest_eq_nil admits front
    simp [State.admitsInsertion, front, empty]
  | cons lexeme rest =>
    rcases parallel.exists_first front with ⟨otherLexeme, others, frontOther, same, -⟩
    have lines := parallel.lines minds
    rw [front, frontOther, Lexeme.breaks, Lexeme.breaks, List.cons_prefix_cons] at lines
    have later : state.anchor.start.line < lexeme.range.start.line ↔
        other.anchor.start.line < otherLexeme.range.start.line :=
      decide_eq_decide.mp lines.1
    simp [State.admitsInsertion, front, frontOther, same.token, later]

/-! ## Moves without a lexeme -/

/-- What takes no lexeme, and has the same effect on both parses. -/
theorem of_stays {after otherAfter : State} (parallel : comparison.Parallel state other)
    (moves : Moves state after) (stays : state.Stays after) (staysOther : other.Stays otherAfter)
    (mode : after.recovering = otherAfter.recovering)
    (noted : otherAfter.noted = after.noted.map fun index => comparison.ahead + index)
    (diagnostics : after.diagnostics.map (Diagnostic.mapRange comparison.move) =
      otherAfter.diagnostics.map (Diagnostic.mapRange comparison.moveOther)) :
    comparison.Parallel after otherAfter where
  rest := by rw [stays.rest, staysOther.rest]; exact parallel.rest
  anchor := by rw [stays.anchor, staysOther.anchor]; exact parallel.anchor
  mode
  index := by rw [stays.index, staysOther.index]; exact parallel.index
  noted
  diagnostics
  lines := by
    rw [stays.rest, stays.anchor, staysOther.rest, staysOther.anchor]
    exact parallel.lines
  sound := parallel.sound.imp id moves.sound

/-- A report at the same place is silent in both parses or in none. -/
theorem diagnostics_report (parallel : comparison.Parallel state other)
    (admits : comparison.Admits state) {range otherRange : Range}
    (same : comparison.move range = comparison.moveOther otherRange) (expected : Expectation) :
    (state.report range expected).diagnostics.map (Diagnostic.mapRange comparison.move) =
      (other.report otherRange expected).diagnostics.map
        (Diagnostic.mapRange comparison.moveOther) := by
  have repeated : other.noted = some other.index ↔ state.noted = some state.index := by
    rw [parallel.noted, parallel.index]
    cases state.noted <;> simp
  rw [State.diagnostics_report, State.diagnostics_report, ← parallel.mode,
    parallel.peek_eq admits]
  simp only [repeated]
  split
  · exact parallel.diagnostics
  · rw [List.map_append, List.map_append, parallel.diagnostics, List.map_singleton,
      List.map_singleton, Diagnostic.mapRange, Diagnostic.mapRange, same]

theorem noted_report (parallel : comparison.Parallel state other) (range otherRange : Range)
    (expected : Expectation) :
    (other.report otherRange expected).noted =
      (state.report range expected).noted.map fun index => comparison.ahead + index := by
  rw [State.noted_report, State.noted_report, parallel.index]
  rfl

/-- A report of the same place keeps parses parallel. -/
theorem report (parallel : comparison.Parallel state other) (admits : comparison.Admits state)
    {range otherRange : Range} (same : comparison.move range = comparison.moveOther otherRange)
    (expected : Expectation) :
    comparison.Parallel (state.report range expected) (other.report otherRange expected) :=
  parallel.of_stays (.single .report) (State.stays_report ..) (State.stays_report ..)
    (by simpa using parallel.mode) (parallel.noted_report ..)
    (parallel.diagnostics_report admits same expected)

theorem reportMissing (parallel : comparison.Parallel state other)
    (admits : comparison.Admits state) (token : Token) :
    comparison.Parallel (state.reportMissing token) (other.reportMissing token) :=
  parallel.report admits parallel.anchor _

theorem reject (parallel : comparison.Parallel state other) (admits : comparison.Admits state)
    (production : String) :
    comparison.Parallel (state.reject production) (other.reject production) :=
  parallel.of_stays (.single .reject) (State.stays_reject ..) (State.stays_reject ..) rfl
    (parallel.noted_report state.here other.here (.production production))
    (parallel.diagnostics_report admits (parallel.here_eq admits) _)

/-- Where lines are minded, something missing is taken for granted in both parses or in none. -/
theorem fail (parallel : comparison.Parallel state other) {expected : Expectation}
    (admits : comparison.Admits (state.fail expected)) :
    comparison.Parallel (state.fail expected) (other.fail expected) := by
  have before := admits.before (moves_fail state expected)
  by_cases minds : comparison.mindsLines = true
  · have same := parallel.admitsInsertion_eq before minds
    refine parallel.of_stays (moves_fail state expected) (State.stays_fail ..)
      (State.stays_fail ..) ?_ ?_ ?_
    · rw [State.recovering_fail, State.recovering_fail, parallel.mode, same]
    · rw [State.noted_fail, State.noted_fail, ← State.noted_report state state.anchor expected,
        ← State.noted_report other other.anchor expected]
      exact parallel.noted_report ..
    · rw [State.fail, State.fail, same]
      split
      · exact parallel.diagnostics_report before parallel.anchor expected
      · exact parallel.diagnostics_report before (parallel.here_eq before) expected
  · have sound := parallel.sound.resolve_left minds
    have clean := admits.quiet.resolve_left minds ((moves_fail state expected).sound sound)
    exact absurd clean (not_clean_fail _ expected)

theorem checkTarget (parallel : comparison.Parallel state other) {target otherTarget : Expression}
    (same : target.mapRanges comparison.move = otherTarget.mapRanges comparison.moveOther) :
    comparison.Parallel (state.checkTarget target) (other.checkTarget otherTarget) := by
  have acceptable : isAcceptableTarget target = isAcceptableTarget otherTarget := by
    rw [← isAcceptableTarget_mapRanges comparison.move, same, isAcceptableTarget_mapRanges]
  have place : comparison.move target.range = comparison.moveOther otherTarget.range := by
    rw [← target.range_mapRanges comparison.relocates, same,
      otherTarget.range_mapRanges comparison.relocatesOther]
  rw [State.checkTarget, State.checkTarget, acceptable]
  split
  · exact parallel
  · refine parallel.of_stays (.single .rejectTarget) ⟨rfl, rfl, rfl⟩ ⟨rfl, rfl, rfl⟩
      parallel.mode parallel.noted ?_
    simp [State.rejectTarget, parallel.diagnostics, Diagnostic.mapRange, place]

/-! ## Moves over lexemes -/

/-- Lines stay alike behind lexemes that are left. -/
theorem lines_after (parallel : comparison.Parallel state other) (skipped others : List Lexeme)
    {rest otherRest : List Lexeme} (front : state.rest = skipped ++ rest)
    (frontOther : other.rest = others ++ otherRest) (length : skipped.length = others.length)
    (minds : comparison.mindsLines = true) :
    Lexeme.breaks (Lexeme.lastLine state.anchor.start.line skipped) rest <+:
      Lexeme.breaks (Lexeme.lastLine other.anchor.start.line others) otherRest := by
  have lines := parallel.lines minds
  rw [front, frontOther, Lexeme.breaks_append, Lexeme.breaks_append] at lines
  rcases lines with ⟨more, whole⟩
  rw [List.append_assoc] at whole
  have lengths := (Lexeme.length_breaks state.anchor.start.line skipped).trans
    (length.trans (Lexeme.length_breaks other.anchor.start.line others).symm)
  exact ⟨more, (List.append_inj whole lengths).2⟩

theorem advance (parallel : comparison.Parallel state other)
    {lexeme otherLexeme : Lexeme} {rest others : List Lexeme} (normal : state.recovering = false)
    (front : state.rest = lexeme :: rest)
    (frontOther : other.rest = otherLexeme :: (others ++ comparison.tail))
    (same : comparison.Matches otherLexeme lexeme)
    (similar : List.Forall₂ comparison.Matches others rest) :
    comparison.Parallel (state.advance lexeme rest)
      (other.advance otherLexeme (others ++ comparison.tail)) where
  rest := ⟨others, rfl, similar⟩
  anchor := by
    rw [State.advance, State.advance, comparison.relocates.after,
      comparison.relocatesOther.after, same.range]
  mode := parallel.mode
  index := by rw [State.advance, State.advance, parallel.index, Nat.add_assoc]
  noted := parallel.noted
  diagnostics := parallel.diagnostics
  lines := parallel.lines_after [lexeme] [otherLexeme] front frontOther rfl
  sound := parallel.sound.imp id (Moves.sound (.single (.take normal front)))

/-- What one parse takes the other one takes. -/
theorem takes {α : Type} {recognize : Token → Option α} {value : α} {lexeme : Lexeme}
    (parallel : comparison.Parallel state other)
    (taken : Takes state recognize value lexeme next) :
    ∃ otherLexeme after, Takes other recognize value otherLexeme after ∧
      comparison.Matches otherLexeme lexeme ∧ comparison.Parallel next after := by
  rcases parallel.exists_first taken.front with ⟨otherLexeme, others, frontOther, same, similar⟩
  refine ⟨otherLexeme, other.advance otherLexeme (others ++ comparison.tail), ?_, same, ?_⟩
  · exact
      { permitted := parallel.mode.symm.trans taken.normal
        recognized := same.token ▸ taken.recognized
        front := frontOther
        moved := rfl }
  · rw [taken.moved]
    exact parallel.advance taken.normal taken.front frontOther same similar

/-- Two parses pass over the same lexemes. -/
theorem passOver {whole part : List Lexeme × List Lexeme}
    (parallel : comparison.Parallel state other)
    (divided : DividesAlike comparison.Matches comparison.tail whole part)
    (front : state.rest = part.1 ++ part.2) (frontOther : other.rest = whole.1 ++ whole.2) :
    comparison.Parallel (state.passOver part.1 part.2) (other.passOver whole.1 whole.2) where
  rest := divided.2
  anchor := by
    rw [State.passOver, State.passOver]
    rcases getLast?_alike divided.1 with ⟨empty, emptyOther⟩ | ⟨_, _, endsOther, ends, same⟩
    · rw [empty, emptyOther]
      exact parallel.anchor
    · rw [ends, endsOther, comparison.relocates.after, comparison.relocatesOther.after, same.range]
  mode := rfl
  index := by
    rw [State.passOver, State.passOver, parallel.index, divided.1.length_eq, Nat.add_assoc]
  noted := parallel.noted
  diagnostics := parallel.diagnostics
  lines := by
    intro minds
    have line : ∀ (state : State) (skipped rest : List Lexeme),
        (state.passOver skipped rest).anchor.start.line =
          Lexeme.lastLine state.anchor.start.line skipped := by
      intro state skipped rest
      cases last : skipped.getLast? <;> simp [State.passOver, Lexeme.lastLine, last, Range.after,
        Range.emptyAt]
    rw [line, line]
    exact parallel.lines_after _ _ front frontOther divided.1.length_eq.symm minds
  sound := parallel.sound.imp id (Moves.sound (.single (.passOver front)))

theorem ofTokens?_eq {skipped others : List Lexeme}
    (similar : List.Forall₂ comparison.Matches others skipped) :
    (ErrorNode.ofTokens? (skipped.map Lexeme.toPlacedToken)).map
        (ErrorNode.mapRanges comparison.move) =
      (ErrorNode.ofTokens? (others.map Lexeme.toPlacedToken)).map
        (ErrorNode.mapRanges comparison.moveOther) := by
  have placed : (skipped.map Lexeme.toPlacedToken).map (PlacedToken.mapRanges comparison.move) =
      (others.map Lexeme.toPlacedToken).map (PlacedToken.mapRanges comparison.moveOther) := by
    induction similar with
    | nil => rfl
    | cons same _ ih => simp only [List.map_cons, same.placed, ih]
  rw [ErrorNode.ofTokens?_mapRanges comparison.relocates, placed,
    ← ErrorNode.ofTokens?_mapRanges comparison.relocatesOther]

/-- Both parses skip the same. -/
theorem synchronize (parallel : comparison.Parallel state other) {level : SyncLevel}
    (admits : comparison.Admits (state.synchronize level).2) :
    (state.synchronize level).1.map (ErrorNode.mapRanges comparison.move) =
        (other.synchronize level).1.map (ErrorNode.mapRanges comparison.moveOther) ∧
      comparison.Parallel (state.synchronize level).2 (other.synchronize level).2 := by
  rcases parallel.rest with ⟨front, whole, similar⟩
  have divided : DividesAlike comparison.Matches comparison.tail (level.skip 0 other.rest)
      (level.skip 0 state.rest) := by
    rw [whole]
    refine level.skip_alike (fun _ _ same => same.token.symm) 0 similar ?_
    refine admits.unfinished.imp (fun nothing => ?_) id
    rw [nothing]
    exact List.nil_suffix
  exact ⟨ofTokens?_eq divided.1, parallel.passOver divided (level.skip_append 0 state.rest).symm
    (level.skip_append 0 other.rest).symm⟩

/-- Two lists resume in the same way. -/
theorem exists_resumes {start startOther : State} {level : SyncLevel} {node : Option ErrorNode}
    (parallel : comparison.Parallel state other)
    (begun : comparison.Parallel start startOther)
    (resumes : Resumes level start state node next) (admits : comparison.Admits next) :
    ∃ nodeOther after, Resumes level startOther other nodeOther after ∧
      comparison.Parallel next after ∧
      node.map (ErrorNode.mapRanges comparison.move) =
        nodeOther.map (ErrorNode.mapRanges comparison.moveOther) := by
  have progress_iff : other.rest.length < startOther.rest.length ↔
      state.rest.length < start.rest.length := by
    rw [begun.length_rest, parallel.length_rest, Nat.add_lt_add_iff_right]
  cases resumes with
  | onward progress normal =>
    exact ⟨none, other, .onward (progress_iff.mpr progress) (parallel.mode ▸ normal), parallel,
      rfl⟩
  | synchronized cause =>
    rcases parallel.synchronize admits with ⟨same, after⟩
    refine ⟨_, _, .synchronized (cause.imp ?_ ?_), after, same⟩
    · rintro ⟨progress, recovering⟩
      exact ⟨progress_iff.mpr progress, parallel.mode ▸ recovering⟩
    · rintro ⟨idle, found⟩
      refine ⟨fun progress => idle (progress_iff.mp progress), ?_⟩
      rwa [← Option.isSome_map, ← same, Option.isSome_map]
  | @skippedOne lexeme rest idle stuck front =>
    rcases parallel.exists_first front with ⟨otherLexeme, others, frontOther, same, similar⟩
    have stuckOther : (other.synchronize level).1 = none := by
      have stops := State.skip_eq_nil_of_stuck stuck
      rw [front, SyncLevel.skip_eq_nil_iff, same.token] at stops
      rw [State.synchronize, frontOther, SyncLevel.skip_eq_nil_iff.mpr stops]
      rfl
    have divided : DividesAlike comparison.Matches comparison.tail
        ([otherLexeme], others ++ comparison.tail) ([lexeme], rest) :=
      ⟨.cons same .nil, others, rfl, similar⟩
    refine ⟨_, _, .skippedOne (fun progress => idle (progress_iff.mp progress)) stuckOther
      frontOther, parallel.passOver divided front frontOther, ?_⟩
    simp [State.skipOne, ErrorNode.mapRanges, same.placed, same.range]

end Comparison.Parallel

end

end Grammar

end ScriptTree
