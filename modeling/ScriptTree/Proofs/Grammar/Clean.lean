import ScriptTree.Proofs.Grammar.Conservation

/-!
# Parses without a report

A report can be swallowed: while the parse recovers, where an error was noted
before, and at a token that was reported when it was read.  So an empty list of
reports says little by itself.  Of a state that also noted nothing it says that
nothing was reported on the way there, provided that no token was reported when
it was read.
-/

namespace ScriptTree.Grammar

/-- Nothing is wrong so far. -/
structure State.Clean (state : State) : Prop where
  normal : state.recovering = false
  unnoted : state.noted = none
  unreported : state.diagnostics = []

/-- The lexemes are as a source without lexical errors has them, and a recovering parse noted
why. -/
structure State.Sound (state : State) : Prop where
  accounted : state.Accounted
  spelled : state.Spelled
  readable : ∀ lexeme ∈ state.rest, lexeme.token.isError = false

theorem State.clean_ofLexemes (lexemes : List Lexeme) : (State.ofLexemes lexemes).Clean :=
  ⟨rfl, rfl, rfl⟩

theorem State.Clean.accounted {state : State} (clean : state.Clean) : state.Accounted := by
  intro recovering
  rw [clean.normal] at recovering
  cases recovering

/-! ## Soundness goes forward -/

/-- A parse stays sound in all its moves. -/
theorem Moves.sound {state next : State} (moves : Moves state next) (sound : state.Sound) :
    next.Sound where
  accounted := moves.accounted sound.accounted
  spelled := moves.spelled sound.spelled
  readable := fun lexeme member => sound.readable lexeme (moves.rest_suffix.subset member)

theorem Taking.sound {α : Type} {state next : State} {recognize : Token → Option α} {value : α}
    {lexeme : Lexeme} (taken : Takes state recognize value lexeme next) (sound : state.Sound) :
    next.Sound :=
  taken.moves.sound sound

theorem Derivation.sound {production : Production} {state next : State} {value : production.Value}
    (reads : Reads production state value next) (sound : state.Sound) : next.Sound :=
  reads.moves.sound sound

theorem Resumes.sound {level : SyncLevel} {start state next : State}
    {skipped : Option ErrorNode} (resumes : Resumes level start state skipped next)
    (sound : state.Sound) : next.Sound :=
  resumes.moves.sound sound

/-! ## Cleanness goes backward -/

/-- What was reported stays reported. -/
theorem diagnostics_prefix_report (state : State) (range : Range) (expected : Expectation) :
    state.diagnostics <+: (state.report range expected).diagnostics := by
  rw [State.diagnostics_report]
  split
  · exact List.prefix_rfl
  · exact List.prefix_append ..

/-- What was reported stays reported. -/
theorem Move.diagnostics_prefix {state next : State} (move : Move state next) :
    state.diagnostics <+: next.diagnostics := by
  cases move with
  | take | passOver => exact List.prefix_rfl
  | report => exact diagnostics_prefix_report ..
  | fail =>
    unfold State.fail
    split
    · exact diagnostics_prefix_report ..
    · exact diagnostics_prefix_report ..
  | reject => exact diagnostics_prefix_report ..
  | rejectTarget => exact List.prefix_append ..

/-- A parse only adds to its reports. -/
theorem Moves.diagnostics_prefix {state next : State} (moves : Moves state next) :
    state.diagnostics <+: next.diagnostics := by
  induction moves with
  | refl => exact List.prefix_rfl
  | tail _ move ih => exact ih.trans move.diagnostics_prefix

/-- Where nothing is wrong at the end, nothing was wrong on the way. -/
theorem Moves.clean {state next : State} (moves : Moves state next) (sound : state.Sound)
    (clean : next.Clean) : state.Clean := by
  have unnoted := moves.noted_eq_none clean.unnoted
  refine ⟨?_, unnoted, ?_⟩
  · cases recovering : state.recovering with
    | false => rfl
    | true =>
      have noted := sound.accounted recovering
      rw [unnoted] at noted
      cases noted
  · have before := moves.diagnostics_prefix
    rw [clean.unreported] at before
    exact List.prefix_nil.mp before

theorem Taking.clean {α : Type} {state next : State} {recognize : Token → Option α} {value : α}
    {lexeme : Lexeme} (taken : Takes state recognize value lexeme next) (sound : state.Sound)
    (clean : next.Clean) : state.Clean :=
  taken.moves.clean sound clean

/-- A parse that is clean behind a production was so in front of it. -/
theorem Derivation.clean {production : Production} {state next : State} {value : production.Value}
    (reads : Reads production state value next) (sound : state.Sound) (clean : next.Clean) :
    state.Clean :=
  reads.moves.clean sound clean

theorem Resumes.clean {level : SyncLevel} {start state next : State}
    {skipped : Option ErrorNode} (resumes : Resumes level start state skipped next)
    (sound : state.Sound) (clean : next.Clean) : state.Clean :=
  resumes.moves.clean sound clean

/-- What a list resumes after was clean if the rest of the list is read without a report. -/
theorem Resumes.clean_before {level : SyncLevel} {start state resumed next : State}
    {skipped : Option ErrorNode} {production : Production} {value : production.Value}
    (resumes : Resumes level start state skipped resumed)
    (readsMore : Reads production resumed value next) (sound : state.Sound)
    (clean : next.Clean) : state.Clean :=
  resumes.clean sound (readsMore.clean (resumes.sound sound) clean)

/-! ## No report is clean -/

/-- A parse with a note is not clean. -/
theorem not_clean_of_noted {state : State} (noted : state.noted.isSome = true) : ¬state.Clean := by
  intro clean
  rw [clean.unnoted] at noted
  cases noted

theorem not_clean_reportMissing (state : State) (token : Token) :
    ¬(state.reportMissing token).Clean :=
  not_clean_of_noted rfl

theorem not_clean_reject (state : State) (production : String) :
    ¬(state.reject production).Clean :=
  not_clean_of_noted rfl

theorem not_clean_fail (state : State) (expected : Expectation) :
    ¬(state.fail expected).Clean :=
  not_clean_of_noted (by rw [State.noted_fail]; rfl)

variable {state : State}

/-- A clean state checked a target that may be assigned to. -/
theorem isAcceptableTarget_of_clean {target : Expression}
    (clean : (state.checkTarget target).Clean) : isAcceptableTarget target = true := by
  unfold State.checkTarget at clean
  split at clean
  · assumption
  · have unreported := clean.unreported
    simp [State.rejectTarget] at unreported

/-! ## Reports are errors, and they explain what is noted -/

/-- Everything that the grammar reports is an error. -/
def State.ReportsErrors (state : State) : Prop :=
  ∀ diagnostic ∈ state.diagnostics, diagnostic.isError = true

/-- A report leaves all reports errors. -/
theorem reportsErrors_report (before : state.ReportsErrors) (range : Range)
    (expected : Expectation) : (state.report range expected).ReportsErrors := by
  intro diagnostic member
  rw [State.diagnostics_report] at member
  split at member
  · exact before diagnostic member
  · rcases List.mem_append.mp member with earlier | latest
    · exact before diagnostic earlier
    · rw [List.mem_singleton.mp latest]
      rfl

theorem Move.reportsErrors {state next : State} (move : Move state next)
    (before : state.ReportsErrors) : next.ReportsErrors := by
  cases move with
  | take | passOver => exact before
  | report => exact reportsErrors_report before _ _
  | fail =>
    unfold State.fail
    split
    · exact reportsErrors_report before _ _
    · exact reportsErrors_report before state.here _
  | reject => exact reportsErrors_report before state.here _
  | rejectTarget =>
    intro diagnostic member
    rcases List.mem_append.mp member with earlier | latest
    · exact before diagnostic earlier
    · rw [List.mem_singleton.mp latest]
      rfl

/-- What is noted was reported, if no lexeme was reported when it was read. -/
def State.Explained (state : State) : Prop :=
  (∀ lexeme ∈ state.rest, lexeme.token.isError = false) →
    state.noted.isSome = true → state.diagnostics ≠ []

/-- A report is left out only where another one was made before. -/
theorem explained_report (before : state.Explained) (accounted : state.Accounted) (range : Range)
    (expected : Expectation) : (state.report range expected).Explained := by
  intro readable _
  rw [State.rest_report] at readable
  rw [State.diagnostics_report]
  split
  · rename_i silent
    rw [Bool.or_eq_true, Bool.or_eq_true, decide_eq_true_eq] at silent
    rcases silent with (recovering | here) | reported
    · exact before readable (accounted recovering)
    · exact before readable (by rw [here]; rfl)
    · obtain ⟨lexeme, first, error⟩ := exists_head_of_any_peek reported
      rw [readable lexeme (List.mem_of_mem_head? first)] at error
      cases error
  · simp

/-- A move keeps it so that what was noted is explained. -/
theorem Move.explained {state next : State} (move : Move state next)
    (before : state.Explained ∧ state.Accounted ∧
      ∀ lexeme ∈ state.rest, lexeme.token.isError = false) :
    next.Explained ∧ next.Accounted ∧ ∀ lexeme ∈ next.rest, lexeme.token.isError = false := by
  obtain ⟨explained, accounted, readable⟩ := before
  refine ⟨?_, move.accounted accounted,
    fun lexeme member => readable lexeme (move.rest_suffix.subset member)⟩
  cases move with
  | take | passOver => exact fun _ noted => explained readable noted
  | report => exact explained_report explained accounted _ _
  | fail =>
    unfold State.fail
    split
    · exact explained_report explained accounted _ _
    · exact fun still noted =>
        explained_report explained accounted state.here _ still noted
  | reject =>
    exact fun still noted => explained_report explained accounted state.here _ still noted
  | rejectTarget => simp [State.Explained, State.rejectTarget]

/-- A parse of readable lexemes that reported nothing found nothing wrong. -/
theorem Moves.clean_of_unreported {lexemes : List Lexeme} {final : State}
    (moves : Moves (.ofLexemes lexemes) final)
    (readable : ∀ lexeme ∈ lexemes, lexeme.token.isError = false)
    (unreported : final.diagnostics = []) : final.Clean := by
  have accountedFirst := (State.clean_ofLexemes lexemes).accounted
  have explained := (moves.keeps (fun move => move.explained)
    ⟨fun _ noted => absurd noted (by simp [State.ofLexemes]), accountedFirst, readable⟩).1
  have readableRest : ∀ lexeme ∈ final.rest, lexeme.token.isError = false :=
    fun lexeme member => readable lexeme (moves.rest_suffix.subset member)
  have unnoted : final.noted = none := by
    cases found : final.noted with
    | none => rfl
    | some index => exact absurd unreported (explained readableRest (by rw [found]; rfl))
  refine ⟨?_, unnoted, unreported⟩
  have accounted := moves.accounted accountedFirst
  cases recovering : final.recovering with
  | false => rfl
  | true =>
    have noted := accounted recovering
    rw [unnoted] at noted
    cases noted

end ScriptTree.Grammar
