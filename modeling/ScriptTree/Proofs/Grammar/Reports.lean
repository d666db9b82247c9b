import ScriptTree.Proofs.Grammar.Alone.Program
import ScriptTree.Proofs.Grammar.Braces
import ScriptTree.Proofs.Grammar.Clean
import ScriptTree.Proofs.Grammar.Laying
import ScriptTree.Proofs.Node.Faults

/-!
# Reports and the faults that they explain

A production that misses something reports it, but not where the parse recovers,
where an error was noted before, or in front of a lexeme that was reported when
it was read.  In each of these cases there is an earlier report at the very same
lexeme: taking a lexeme leaves the place that was noted behind, and while the
parse recovers no lexeme is taken.  So whatever is missing, and whatever is
skipped, starts at a lexeme with a report.
-/

namespace ScriptTree

namespace Lexeme

/-- An offset at which a problem in front of a lexeme is reported: where that lexeme starts, or
where the one before it ends. -/
def Borders (lexemes : List Lexeme) (index offset : Nat) : Prop :=
  (∃ lexeme, lexemes[index]? = some lexeme ∧ lexeme.range.span.start = offset) ∨
    ∃ before lexeme, before + 1 = index ∧ lexemes[before]? = some lexeme ∧
      lexeme.range.span.stop = offset

/-- The index of the first lexeme that starts at an offset or after it. -/
def indexFrom (lexemes : List Lexeme) (offset : Nat) : Nat :=
  lexemes.findIdx fun lexeme => offset ≤ lexeme.range.span.start

theorem indexFrom_append {passed rest : List Lexeme} {offset : Nat}
    (before : ∀ lexeme ∈ passed, lexeme.range.span.start < offset)
    (after : ∀ lexeme ∈ rest.head?, offset ≤ lexeme.range.span.start) :
    indexFrom (passed ++ rest) offset = passed.length := by
  rw [indexFrom, List.findIdx_append, List.findIdx_eq_length.mpr, if_neg (Nat.lt_irrefl _)]
  · cases rest with
    | nil => exact Nat.zero_add _
    | cons lexeme rest =>
      have first := after lexeme rfl
      simp [List.findIdx_cons, first]
  · intro lexeme member
    simpa using before lexeme member

end Lexeme

/-- An error is reported in front of a lexeme, or where it starts. -/
def ErrorAt (lexemes : List Lexeme) (reports : List Diagnostic) (index : Nat) : Prop :=
  ∃ report ∈ reports, report.isError = true ∧
    Lexeme.Borders lexemes index report.range.span.start

theorem ErrorAt.mono {lexemes : List Lexeme} {reports more : List Diagnostic} {index : Nat}
    (error : ErrorAt lexemes reports index) (subset : reports ⊆ more) :
    ErrorAt lexemes more index := by
  rcases error with ⟨report, member, isError, borders⟩
  exact ⟨report, subset member, isError, borders⟩

/-- The lexemes are as a source has them: they follow each other, none is empty, and what no
production takes was reported when it was read. -/
structure Lexing.Orderly (lexing : Lexing) : Prop where
  follow : Lexeme.Follow 0 lexing.lexemes
  wide : ∀ lexeme ∈ lexing.lexemes, lexeme.range.span.start < lexeme.range.span.stop
  spelled : ∀ lexeme ∈ lexing.lexemes, lexeme.text.isEmpty = false
  reported : ∀ lexeme ∈ lexing.lexemes, lexeme.token.isError = true →
    ∃ report ∈ lexing.diagnostics, report.isError = true ∧ report.range = lexeme.range

namespace Grammar

variable {lexing : Lexing} {state next : State}

/-! ## Where a parse is among its lexemes -/

/-- The lexemes are those that were passed and those that are left, and an error was noted at one
of the former or at the next one. -/
structure State.Traced (lexemes : List Lexeme) (state : State) : Prop where
  exists_passed : ∃ passed, lexemes = passed ++ state.rest ∧ passed.length = state.index ∧
    ∀ last ∈ passed.getLast?, state.anchor = last.range.after
  noted_le : ∀ place ∈ state.noted, place ≤ state.index

theorem Move.traced {lexemes : List Lexeme} (move : Move state next)
    (traced : state.Traced lexemes) : next.Traced lexemes := by
  rcases traced with ⟨⟨passed, whole, length, anchor⟩, noted⟩
  cases move with
  | @take lexeme rest _ front =>
    refine ⟨⟨passed ++ [lexeme], by rw [whole, front]; simp [State.advance], by
      simp [State.advance, length], by simp [State.advance]⟩, ?_⟩
    intro place member
    exact Nat.le_succ_of_le (noted place member)
  | report =>
    refine ⟨⟨passed, by simpa using whole, by simpa using length, by simpa using anchor⟩, ?_⟩
    simp
  | fail =>
    refine ⟨⟨passed, by simpa using whole, by simpa using length, by simpa using anchor⟩, ?_⟩
    simp
  | reject =>
    refine ⟨⟨passed, by simpa using whole, by simpa using length, by simpa using anchor⟩, ?_⟩
    simp
  | rejectTarget => exact ⟨⟨passed, whole, length, anchor⟩, noted⟩
  | @passOver skipped rest front =>
    refine ⟨⟨passed ++ skipped, by rw [whole, front]; simp [State.passOver], by
      simp [State.passOver, length], ?_⟩, ?_⟩
    · intro last member
      rw [List.getLast?_append] at member
      cases found : skipped.getLast? with
      | none => simpa [State.passOver, found] using anchor last (by simpa [found] using member)
      | some final => simp_all [State.passOver]
    · intro place member
      exact Nat.le_add_right_of_le (noted place member)

theorem Moves.traced {lexemes : List Lexeme} (moves : Moves state next)
    (traced : state.Traced lexemes) : next.Traced lexemes :=
  moves.keeps (fun move => move.traced) traced

namespace State.Traced

variable {lexemes : List Lexeme}

/-- The next lexeme is at the index of the state. -/
theorem borders_front (traced : state.Traced lexemes) {lexeme : Lexeme}
    (front : state.rest.head? = some lexeme) :
    Lexeme.Borders lexemes state.index lexeme.range.span.start := by
  rcases traced.exists_passed with ⟨passed, whole, length, -⟩
  refine .inl ⟨lexeme, ?_, rfl⟩
  rw [whole, ← length, List.getElem?_append_right (Nat.le_refl _), Nat.sub_self,
    ← List.head?_eq_getElem?, front]

theorem exists_last (traced : state.Traced lexemes) (begun : 0 < state.index) :
    ∃ before last, lexemes = (before ++ [last]) ++ state.rest ∧
      (before ++ [last]).length = state.index ∧ state.anchor = last.range.after := by
  rcases traced.exists_passed with ⟨passed, whole, length, anchor⟩
  rcases List.eq_nil_or_concat passed with rfl | ⟨before, last, rfl⟩
  · rw [← length] at begun
    cases begun
  · rw [List.concat_eq_append] at whole length
    exact ⟨before, last, whole, length, anchor last (by simp)⟩

/-- What is missing is reported at the end of the last lexeme passed. -/
theorem borders_anchor (traced : state.Traced lexemes) (begun : 0 < state.index) :
    Lexeme.Borders lexemes state.index state.anchor.span.start := by
  rcases traced.exists_last begun with ⟨before, last, whole, length, anchor⟩
  refine .inr ⟨before.length, last, by simpa using length, ?_, by rw [anchor]; rfl⟩
  rw [whole]
  simp

theorem borders_here (traced : state.Traced lexemes)
    (place : 0 < state.index ∨ state.rest ≠ []) :
    Lexeme.Borders lexemes state.index state.here.span.start := by
  unfold State.here
  cases front : state.rest.head? with
  | some lexeme => exact traced.borders_front front
  | none =>
    rcases place with begun | nonempty
    · exact traced.borders_anchor begun
    · exact absurd (List.head?_eq_none_iff.mp front) nonempty

/-- The first lexeme from the start of the next one on is that one. -/
theorem indexFrom_front (traced : state.Traced lexemes) (follow : Lexeme.Follow 0 lexemes)
    (wide : ∀ lexeme ∈ lexemes, lexeme.range.span.start < lexeme.range.span.stop)
    {lexeme : Lexeme} (front : state.rest.head? = some lexeme) :
    Lexeme.indexFrom lexemes lexeme.range.span.start = state.index := by
  rcases traced.exists_passed with ⟨passed, rfl, length, -⟩
  have pairwise := List.pairwise_map.mp follow.pairwise_precedes
  rw [List.pairwise_append] at pairwise
  rw [Lexeme.indexFrom_append ?_ ?_, length]
  · intro earlier member
    exact Nat.lt_of_lt_of_le (wide earlier (List.mem_append_left _ member))
      (pairwise.2.2 earlier member lexeme (List.mem_of_mem_head? front))
  · intro first member
    rw [front] at member
    cases member
    exact Nat.le_refl _

/-- The first lexeme from the end of the last one passed on is the next one. -/
theorem indexFrom_anchor (traced : state.Traced lexemes) (follow : Lexeme.Follow 0 lexemes)
    (wide : ∀ lexeme ∈ lexemes, lexeme.range.span.start < lexeme.range.span.stop)
    (begun : 0 < state.index) :
    Lexeme.indexFrom lexemes state.anchor.span.start = state.index := by
  rcases traced.exists_last begun with ⟨before, last, rfl, length, anchor⟩
  have ends := wide last (by simp)
  have pairwise := List.pairwise_map.mp follow.pairwise_precedes
  rw [List.pairwise_append, List.pairwise_append] at pairwise
  rw [anchor, ← length]
  refine Lexeme.indexFrom_append ?_ ?_
  · intro earlier member
    rcases List.mem_append.mp member with inner | final
    · have starts := wide earlier (by simp [inner])
      have precedes := pairwise.1.2.2 earlier inner last (by simp)
      exact Nat.lt_trans (Nat.lt_of_lt_of_le starts precedes) ends
    · rw [List.mem_singleton.mp final]
      exact ends
  · intro first member
    exact pairwise.2.2 last (by simp) first (List.mem_of_mem_head? member)

end State.Traced

/-! ## Answered states -/

/-- An error is reported at a lexeme, by a state or when the lexemes were read. -/
def State.ReportsAt (lexing : Lexing) (state : State) (index : Nat) : Prop :=
  ErrorAt lexing.lexemes (lexing.diagnostics ++ state.diagnostics) index

theorem State.ReportsAt.mono {index : Nat} (reports : state.ReportsAt lexing index)
    (kept : state.diagnostics <+: next.diagnostics) : next.ReportsAt lexing index :=
  ErrorAt.mono reports ((List.prefix_append_right_inj _).mpr kept).subset

/-- Where a parse recovers, and where it noted an error, there is a report. -/
structure State.Answered (lexing : Lexing) (state : State) : Prop where
  traced : state.Traced lexing.lexemes
  reports : state.recovering = true ∨ state.noted = some state.index →
    state.ReportsAt lexing state.index

theorem State.Answered.rest_subset (answered : state.Answered lexing) :
    state.rest ⊆ lexing.lexemes := by
  rcases answered.traced.exists_passed with ⟨passed, whole, -, -⟩
  rw [whole]
  exact List.subset_append_right ..

/-- A parse that has passed a lexeme. -/
structure State.Inside (lexing : Lexing) (state : State) : Prop where
  answered : state.Answered lexing
  begun : 0 < state.index

section

variable (orderly : lexing.Orderly)

include orderly

/-- After a report at a border there is one, also where it was left out. -/
theorem State.Answered.reportsAt_report (answered : state.Answered lexing) {range : Range}
    (borders : Lexeme.Borders lexing.lexemes state.index range.span.start)
    (expected : Expectation) :
    (state.report range expected).ReportsAt lexing state.index := by
  rw [State.ReportsAt, State.diagnostics_report]
  split
  · rename_i silent
    rw [Bool.or_eq_true, Bool.or_eq_true, decide_eq_true_eq] at silent
    rcases silent with (recovering | noted) | error
    · exact answered.reports (.inl recovering)
    · exact answered.reports (.inr noted)
    · rcases exists_head_of_any_peek error with ⟨lexeme, front, isError⟩
      have among := answered.rest_subset (List.mem_of_mem_head? front)
      rcases orderly.reported lexeme among isError with ⟨report, member, severe, place⟩
      refine ⟨report, List.mem_append_left _ member, severe, ?_⟩
      rw [place]
      exact answered.traced.borders_front front
  · exact ⟨_, List.mem_append_right _ (List.mem_append_right _ (List.mem_singleton_self _)), rfl,
      borders⟩

theorem State.Inside.reportsAt_fail (inside : state.Inside lexing) (expected : Expectation) :
    (state.fail expected).ReportsAt lexing state.index := by
  have traced := inside.answered.traced
  unfold State.fail
  split
  · exact inside.answered.reportsAt_report orderly (traced.borders_anchor inside.begun) expected
  · exact inside.answered.reportsAt_report orderly (traced.borders_here (.inl inside.begun))
      expected

theorem State.Answered.reportsAt_reject (answered : state.Answered lexing)
    (place : 0 < state.index ∨ state.rest ≠ []) (production : String) :
    (state.reject production).ReportsAt lexing state.index :=
  answered.reportsAt_report orderly (answered.traced.borders_here place) (.production production)

/-- What is missing where a parse is starts at the next lexeme. -/
theorem State.Inside.indexFrom_anchor (inside : state.Inside lexing) :
    Lexeme.indexFrom lexing.lexemes state.anchor.span.start = state.index :=
  inside.answered.traced.indexFrom_anchor orderly.follow orderly.wide inside.begun

end

/-! ## Accounts -/

/-- Between two states some nodes are read, and where one of them is faulty there is a report. -/
structure Accounts (lexing : Lexing) (state next : State) (nodes : List Node) : Prop where
  inside : next.Inside lexing
  kept : state.diagnostics <+: next.diagnostics
  reported : Node.FaultsAt
    (fun offset => next.ReportsAt lexing (Lexeme.indexFrom lexing.lexemes offset)) nodes

namespace Accounts

theorem refl (inside : state.Inside lexing) : Accounts lexing state state [] :=
  ⟨inside, List.prefix_rfl, Node.faultsAt_nil⟩

theorem append {between : State} {early late : List Node}
    (first : Accounts lexing state between early)
    (second : between.Inside lexing → Accounts lexing between next late) :
    Accounts lexing state next (early ++ late) := by
  rcases second first.inside with ⟨inside, kept, reported⟩
  refine ⟨inside, first.kept.trans kept, Node.faultsAt_append.mpr ⟨?_, reported⟩⟩
  exact first.reported.mono fun offset reports => reports.mono kept

/-- What follows adds no nodes. -/
theorem andThen {between : State} {nodes : List Node}
    (first : Accounts lexing state between nodes)
    (second : between.Inside lexing → Accounts lexing between next []) :
    Accounts lexing state next nodes := by
  have whole := first.append second
  rwa [List.append_nil] at whole

/-- A node that is written, around others. -/
theorem wrap {nodes : List Node} (accounts : Accounts lexing state next nodes) {node : Node}
    (children : node.children = nodes) (sound : node.isFaulty = false) :
    Accounts lexing state next [node] :=
  ⟨accounts.inside, accounts.kept,
    (Node.faultsAt_of_sound sound).mpr (children ▸ accounts.reported)⟩

/-- The same faults in other nodes. -/
theorem congr {nodes others : List Node} (accounts : Accounts lexing state next nodes)
    (same : ∀ allowed, Node.FaultsAt allowed others ↔ Node.FaultsAt allowed nodes) :
    Accounts lexing state next others :=
  ⟨accounts.inside, accounts.kept, (same _).mpr accounts.reported⟩

/-- A node without children, at a lexeme with a report. -/
theorem bare {nodes : List Node} (accounts : Accounts lexing state next nodes) {node : Node}
    (children : node.children = [])
    (reports : node.isFaulty = true →
      next.ReportsAt lexing (Lexeme.indexFrom lexing.lexemes node.range.span.start)) :
    Accounts lexing state next [node] :=
  ⟨accounts.inside, accounts.kept, Node.faultsAt_of_bare children reports⟩

end Accounts

theorem Taking.accounts {α : Type} {recognize : Token → Option α} {value : α} {lexeme : Lexeme}
    (taken : Takes state recognize value lexeme next) (answered : state.Answered lexing) :
    Accounts lexing state next [] := by
  have index : next.index = state.index + 1 := by
    rw [taken.moved]
    rfl
  have traced := taken.moves.traced answered.traced
  refine ⟨⟨⟨traced, ?_⟩, by omega⟩, taken.moves.diagnostics_prefix, Node.faultsAt_nil⟩
  rintro (recovering | noted)
  · rw [taken.normal_next] at recovering
    cases recovering
  · rw [taken.moved, State.noted_advance] at noted
    have before := answered.traced.noted_le _ noted
    change state.index + 1 ≤ state.index at before
    omega

section

variable (orderly : lexing.Orderly)

include orderly

omit orderly in
/-- Where a parse moves no further, it stays inside if there is a report. -/
theorem State.Inside.accounts_of_reportsAt (inside : state.Inside lexing)
    (moves : Moves state next) (same : next.index = state.index)
    (reports : next.ReportsAt lexing state.index) : Accounts lexing state next [] := by
  refine ⟨⟨⟨moves.traced inside.answered.traced, fun _ => ?_⟩, ?_⟩, moves.diagnostics_prefix,
    Node.faultsAt_nil⟩
  · rw [same]
    exact reports
  · rw [same]
    exact inside.begun

theorem State.Inside.accounts_fail (inside : state.Inside lexing) (expected : Expectation) :
    Accounts lexing state (state.fail expected) [] :=
  inside.accounts_of_reportsAt (moves_fail state expected) (State.index_fail ..)
    (inside.reportsAt_fail orderly expected)

theorem State.Inside.accounts_reportMissing (inside : state.Inside lexing) (token : Token) :
    Accounts lexing state (state.reportMissing token) [] :=
  inside.accounts_of_reportsAt (moves_reportMissing state token) (State.index_report ..)
    (inside.answered.reportsAt_report orderly
      (inside.answered.traced.borders_anchor inside.begun) _)

theorem State.Inside.accounts_reject (inside : state.Inside lexing) (production : String) :
    Accounts lexing state (state.reject production) [] :=
  inside.accounts_of_reportsAt (acts_reject state production).moves (State.index_reject ..)
    (inside.answered.reportsAt_reject orderly (.inl inside.begun) production)

omit orderly in
theorem State.Inside.accounts_checkTarget (inside : state.Inside lexing) (target : Expression) :
    Accounts lexing state (state.checkTarget target) [] := by
  have moves := moves_checkTarget state target
  have kept := moves.diagnostics_prefix
  have same : (state.checkTarget target).index = state.index ∧
      (state.checkTarget target).noted = state.noted := by
    unfold State.checkTarget
    split <;> exact ⟨rfl, rfl⟩
  refine ⟨⟨⟨moves.traced inside.answered.traced, ?_⟩, ?_⟩, kept, Node.faultsAt_nil⟩
  · rw [State.recovering_checkTarget, same.1, same.2]
    exact fun cause => (inside.answered.reports cause).mono kept
  · rw [same.1]
    exact inside.begun

/-- The stand-in for something that is missing where the parse fails. -/
theorem State.Inside.accounts_missing (inside : state.Inside lexing) (expected : Expectation)
    {node : Node} (children : node.children = []) (place : node.range = state.anchor) :
    Accounts lexing state (state.fail expected) [node] := by
  refine (inside.accounts_fail orderly expected).bare children fun _ => ?_
  rw [place, inside.indexFrom_anchor orderly]
  exact inside.reportsAt_fail orderly expected

/-- The stand-in for something that is not sought, since the parse recovers. -/
theorem State.Inside.accounts_idle (inside : state.Inside lexing)
    (recovering : state.recovering = true) {node : Node} (children : node.children = [])
    (place : node.range = state.anchor) : Accounts lexing state state [node] := by
  refine (Accounts.refl inside).bare children fun _ => ?_
  rw [place, inside.indexFrom_anchor orderly]
  exact inside.answered.reports (.inl recovering)

end

/-! ## What is skipped -/

/-- A parse that passes over lexemes leaves the place that was noted behind. -/
theorem State.Answered.passOver (answered : state.Answered lexing) {skipped rest : List Lexeme}
    (front : state.rest = skipped ++ rest) : (state.passOver skipped rest).Answered lexing where
  traced := (Move.passOver front).traced answered.traced
  reports := by
    rintro (recovering | noted)
    · cases recovering
    · have before := answered.traced.noted_le _ noted
      have none : skipped.length = 0 := by
        simp only [State.passOver] at before
        omega
      have same : (state.passOver skipped rest).index = state.index := by
        simp [State.passOver, none]
      rw [same] at noted ⊢
      exact answered.reports (.inr noted)

theorem Resumes.answered {level : SyncLevel} {start : State} {skipped : Option ErrorNode}
    (resumes : Resumes level start state skipped next) (answered : state.Answered lexing) :
    next.Answered lexing := by
  cases resumes with
  | onward => exact answered
  | synchronized => exact answered.passOver (SyncLevel.skip_append _ 0 state.rest).symm
  | skippedOne _ _ front => exact answered.passOver front

/-- What is skipped starts at the lexeme where the parse began to recover. -/
theorem Resumes.faultsAt (orderly : lexing.Orderly) {level : SyncLevel} {start : State}
    {skipped : Option ErrorNode} (resumes : Resumes level start state skipped next)
    (answered : state.Answered lexing)
    (stuck : ¬state.rest.length < start.rest.length → state.recovering = true) :
    Node.FaultsAt
      (fun offset => next.ReportsAt lexing (Lexeme.indexFrom lexing.lexemes offset))
      (skipped.toList.map fun node => node.assembly.node) := by
  have kept := resumes.moves.diagnostics_prefix
  have starts : ∀ lexeme, state.rest.head? = some lexeme → state.recovering = true →
      next.ReportsAt lexing (Lexeme.indexFrom lexing.lexemes lexeme.range.span.start) := by
    intro lexeme front recovering
    rw [answered.traced.indexFrom_front orderly.follow orderly.wide front]
    exact (answered.reports (.inl recovering)).mono kept
  cases resumes with
  | onward => exact Node.faultsAt_nil
  | synchronized cause =>
    have recovering : state.recovering = true := by
      rcases cause with ⟨_, recovering⟩ | ⟨idle, _⟩
      · exact recovering
      · exact stuck idle
    have whole := level.skip_append 0 state.rest
    cases skipped : (level.skip 0 state.rest).1 with
    | nil =>
      simp [State.synchronize, skipped, ErrorNode.ofTokens?]
    | cons lexeme rest =>
      rw [skipped] at whole
      have front : state.rest.head? = some lexeme := by
        rw [← whole]
        rfl
      rw [State.synchronize, skipped]
      exact Node.faultsAt_of_bare rfl fun _ => starts lexeme front recovering
  | skippedOne idle _ front =>
    exact Node.faultsAt_of_bare rfl fun _ => starts _ (by rw [front]; rfl) (stuck idle)

theorem Resumes.accounts (orderly : lexing.Orderly) {level : SyncLevel} {start : State}
    {skipped : Option ErrorNode} (resumes : Resumes level start state skipped next)
    (inside : state.Inside lexing)
    (stuck : ¬state.rest.length < start.rest.length → state.recovering = true) :
    Accounts lexing state next (skipped.toList.map fun node => node.assembly.node) where
  inside := ⟨resumes.answered inside.answered, by
    have begun := inside.begun
    cases resumes with
    | onward => exact begun
    | synchronized => exact Nat.add_pos_left begun _
    | skippedOne => exact Nat.add_pos_left begun _⟩
  kept := resumes.moves.diagnostics_prefix
  reported := resumes.faultsAt orderly inside.answered stuck

/-! ### What took no lexeme -/

/-- A statement that takes nothing leaves the parse recovering. -/
theorem Derivation.stuck_statement {item : Option Statement}
    (reads : Reads .statement state item next)
    (normal : state.recovering = false) (goesOn : endsList state = false)
    (idle : ¬next.rest.length < state.rest.length) : next.recovering = true := by
  refine Bool.eq_true_of_not_eq_false fun _ => idle ?_
  cases reads with
  | statementRejected => contradiction
  | statementAbsent empty =>
    exact absurd empty (rest_ne_nil_of_endsList_eq_false (by simp [goesOn]))
  | statementBlock opens readsBlock => exact readsBlock.fewer_block normal opens
  | statementExpression opens readsExpression | statementAssignment opens readsExpression =>
    have fewer := readsExpression.length_rest_lt normal opens
    grind [→ Derivation.length_rest_le, State.rest_checkTarget]
  | statementVariable readsDeclaration => exact readsDeclaration.fewer_variableDeclaration
  | statementIf taken readsCondition readsConsequence =>
    exact Nat.lt_of_le_of_lt (readsConsequence.length_rest_le.trans readsCondition.length_rest_le)
      taken.fewer
  | statementIfElse taken readsCondition readsConsequence otherwise readsAlternative =>
    have upToElse := readsConsequence.length_rest_le.trans readsCondition.length_rest_le
    exact Nat.lt_of_le_of_lt
      (readsAlternative.length_rest_le.trans (otherwise.fewer.le.trans upToElse)) taken.fewer
  | statementReturn taken _ ends => exact Nat.lt_of_le_of_lt ends.length_rest_le taken.fewer
  | statementReturnValue taken _ readsValue ends =>
    exact Nat.lt_of_le_of_lt (ends.length_rest_le.trans readsValue.length_rest_le) taken.fewer

theorem Derivation.stuck_classItem {item : Option ClassItem}
    (reads : Reads .classItem state item next)
    (normal : state.recovering = false) (idle : ¬next.rest.length < state.rest.length) :
    next.recovering = true := by
  refine Bool.eq_true_of_not_eq_false fun _ => idle ?_
  cases reads with
  | classRejected => contradiction
  | classVariable readsDeclaration => exact readsDeclaration.fewer_variableDeclaration
  | classAbandoned opens readsTarget | classAssignment opens readsTarget =>
    have fewer := readsTarget.length_rest_lt normal (State.startsExpression_of_isAt opens)
    grind [→ Derivation.length_rest_le, State.rest_checkTarget]

theorem Derivation.stuck_declaration {item : Option Declaration}
    (reads : Reads .declaration state item next) (idle : ¬next.rest.length < state.rest.length) :
    next.recovering = true := by
  cases item with
  | some declaration => exact absurd reads.fewer_declaration idle
  | none =>
    cases reads
    rfl

/-! ## Productions -/

/-- The nodes that what follows an operand adds to it. -/
def AccessTail.nodes : AccessTail → List Node
  | .index _ inner _ => [inner.toNode]
  | .member _ name => [name.assembly.node]
  | .call _ items _ => items.map fun item => item.1.toNode

/-- The nodes that a production adds to the tree, parts of expressions and of parameter lists
included. -/
def Production.trees : (production : Production) → production.Value → List Node
  | .operators _, tails => tails.map fun tail => tail.right.toNode
  | .operand, value | .primary, value => [value.toNode]
  | .accesses, tails => tails.flatMap AccessTail.nodes
  | .arguments, (items, _) => items.map fun item => item.1.toNode
  | .parameter, value => [value.assembly.node]
  | .parameters, (items, _) => items.map fun item => item.1.assembly.node
  | production, value => production.nodes value

section

variable {holds : Node → Prop}
  (plain : ∀ node : Node, node.kind.isLeaf = false → node.isFaulty = false → holds node)

include plain

/-- What holds of every node that has parts and is not faulty holds of all operations that are made
of an operand and tails as soon as it holds of these. -/
theorem every_foldl_binary (tails : List BinaryTail) (first : Expression) :
    Node.Every holds [(tails.foldl BinaryTail.onto first).toNode] ↔
      Node.Every holds ([first.toNode] ++ tails.map fun tail => tail.right.toNode) := by
  induction tails generalizing first with
  | nil => simp
  | cons tail rest ih =>
    rw [List.foldl_cons, ih, Node.every_append, BinaryTail.onto,
      Node.every_of_holds (plain _ rfl rfl), Expression.children_binary, ← Node.every_append]
    rfl

theorem every_foldl_access (tails : List AccessTail) (head : Expression) :
    Node.Every holds [(tails.foldl AccessTail.onto head).toNode] ↔
      Node.Every holds ([head.toNode] ++ tails.flatMap AccessTail.nodes) := by
  induction tails generalizing head with
  | nil => simp
  | cons tail rest ih =>
    have onto : Node.Every holds [(tail.onto head).toNode] ↔
        Node.Every holds ([head.toNode] ++ tail.nodes) := by
      cases tail with
      | index opening inner closing =>
        rw [AccessTail.onto, Node.every_of_holds (plain _ rfl rfl),
          Expression.children_arrayAccess]
        rfl
      | member dot name =>
        rw [AccessTail.onto, Node.every_of_holds (plain _ rfl rfl),
          Expression.children_memberAccess]
        rfl
      | call opening items closing =>
        rcases Expression.children_call head opening items closing with
          ⟨arguments, children, kind, sound, inner⟩
        have list : holds arguments := plain arguments (by rw [kind]; rfl) sound
        rw [AccessTail.onto, Node.every_of_holds (plain _ rfl rfl), children, Node.every_cons,
          Node.every_of_holds list, inner, ← Node.every_append]
        rfl
    rw [List.foldl_cons, ih, Node.every_append, onto, ← Node.every_append, List.flatMap_cons,
      List.append_assoc]

end

section

variable {allowed : Nat → Prop}

theorem faultsAt_foldl_binary (tails : List BinaryTail) (first : Expression) :
    Node.FaultsAt allowed [(tails.foldl BinaryTail.onto first).toNode] ↔
      Node.FaultsAt allowed ([first.toNode] ++ tails.map fun tail => tail.right.toNode) :=
  every_foldl_binary (fun _ _ sound faulty => absurd faulty (Bool.eq_false_iff.mp sound))
    tails first

theorem faultsAt_foldl_access (tails : List AccessTail) (head : Expression) :
    Node.FaultsAt allowed [(tails.foldl AccessTail.onto head).toNode] ↔
      Node.FaultsAt allowed ([head.toNode] ++ tails.flatMap AccessTail.nodes) :=
  every_foldl_access (fun _ _ sound faulty => absurd faulty (Bool.eq_false_iff.mp sound)) tails head

end

/-- From where a production accounts for what it yields.  A declaration may be the first thing of
all, if there is one; a list is begun in the normal mode. -/
def Production.Begins (lexing : Lexing) :
    (production : Production) → State → production.Value → Prop
  | .declarations, _, _ => False
  | .declaration, state, item => state.Answered lexing ∧ item.isSome = true
  | .variableDeclaration, state, _ => state.Answered lexing
  | .statements, state, _ | .classItems, state, _ =>
    state.Inside lexing ∧ state.recovering = false
  | _, state, _ => state.Inside lexing

theorem Literal.isError_of_ofToken? {token : Token} (found : ofToken? token = some error) :
    token.isError = true := by
  cases token <;> cases found <;> rfl

/-- Everything that is taken is written, so no node that stands for it is missing. -/
theorem Taking.text_nonempty {α : Type} {recognize : Token → Option α} {value : α}
    {lexeme : Lexeme} (taken : Takes state recognize value lexeme next)
    (orderly : lexing.Orderly) (answered : state.Answered lexing) :
    lexeme.text.isEmpty = false :=
  orderly.spelled lexeme (answered.rest_subset taken.mem_rest)

theorem Taking.accounts_name (orderly : lexing.Orderly) {lexeme : Lexeme}
    (taken : Takes state (State.only .identifier) () lexeme next) (inside : state.Inside lexing) :
    Accounts lexing state next [(Identifier.mk lexeme.text lexeme.range).assembly.node] :=
  (taken.accounts inside.answered).wrap rfl
    (Identifier.isFaulty_node (taken.text_nonempty orderly inside.answered))

theorem Taking.accounts_type {lexeme : Lexeme}
    (taken : Takes state State.recognizeType () lexeme next) (inside : state.Inside lexing) :
    Accounts lexing state next
      [(TypeReference.mk ((TypeName.builtin? lexeme.token).getD (.named lexeme.text))
        lexeme.range).assembly.node] := by
  refine (taken.accounts inside.answered).wrap rfl ?_
  cases found : lexeme.token <;> rfl

/-- A literal that is no token of the grammar was reported when it was read. -/
theorem Taking.accounts_literal (orderly : lexing.Orderly) {literal : Literal} {lexeme : Lexeme}
    (taken : Takes state Literal.ofToken? literal lexeme next) (inside : state.Inside lexing) :
    Accounts lexing state next [(literal.expression lexeme).toNode] := by
  have accounts := taken.accounts inside.answered
  cases literal with
  | identifier =>
    exact accounts.wrap rfl
      (Identifier.isFaulty_node (taken.text_nonempty orderly inside.answered))
  | number | string | boolean => exact accounts.wrap rfl rfl
  | error =>
    have among := inside.answered.rest_subset taken.mem_rest
    have front : state.rest.head? = some lexeme := by
      rw [taken.front]
      rfl
    rcases orderly.reported lexeme among (Literal.isError_of_ofToken? taken.recognized) with
      ⟨report, member, severe, place⟩
    refine accounts.bare rfl fun _ => ⟨report, List.mem_append_left _ member, severe, ?_⟩
    have traced := inside.answered.traced
    change Lexeme.Borders _ (Lexeme.indexFrom _ lexeme.range.span.start) _
    rw [traced.indexFrom_front orderly.follow orderly.wide front, place]
    exact traced.borders_front front

/-- Where a statement is sought in vain, that is reported. -/
theorem Derivation.reportsAt_of_none (orderly : lexing.Orderly)
    (reads : Reads .statement state none next) (inside : state.Inside lexing) :
    next.anchor = state.anchor ∧ next.ReportsAt lexing state.index := by
  cases reads with
  | statementAbsent => exact ⟨State.anchor_fail .., inside.reportsAt_fail orderly _⟩
  | statementRejected =>
    exact ⟨State.anchor_reject .., inside.answered.reportsAt_reject orderly (.inl inside.begun) _⟩

/-- Whatever a production adds to the tree, each fault of it has a report. -/
theorem Derivation.accounts (orderly : lexing.Orderly) {production : Production}
    {value : production.Value} (reads : Reads production state value next)
    (begins : production.Begins lexing state value) :
    Accounts lexing state next (production.trees value) := by
  induction reads with
  | optionalTaken taken | expectedTaken taken | closingBraceTaken taken | terminatorTaken taken =>
    exact taken.accounts begins.answered
  | optionalAbsent | expectedIdle | terminatorIdle | instanceIdle | operatorsEnd | accessesEnd
  | elementsEnd | arraySizeAbsent | initializerAbsent
  | parentAbsent | qualifierAbsent => exact .refl begins
  | statementsEnd | classItemsEnd => exact .refl begins.1
  | expectedMissing | closingBraceMissing | terminatorMissing =>
    exact begins.accounts_fail orderly _
  | terminatorGranted => exact begins.accounts_reportMissing orderly _
  | identifierMissing | nameMissing | typeMissing | primaryMissing | blockMissing
  | parameterListMissing | classBodyMissing => exact begins.accounts_missing orderly _ rfl rfl
  | identifierIdle recovering | branchRecovering recovering | bodyIdle recovering
  | parameterListIdle recovering => exact begins.accounts_idle orderly recovering rfl rfl
  | identifierTaken taken | nameTaken taken => exact taken.accounts_name orderly begins
  | typeTaken taken => exact taken.accounts_type begins
  | operation _ _ first tails =>
    exact ((first begins).append tails).congr fun _ => faultsAt_foldl_binary _ _
  | operatorsNext taken _ _ right tails =>
    exact ((taken.accounts begins.answered).append right).append tails
  | operandSigned taken _ inner =>
    refine ((taken.accounts begins.answered).append inner).wrap ?_ rfl
    simp [Production.trees, Expression.children_unary]
  | operandPlain _ _ _ head tails =>
    exact ((head begins).append tails).congr fun _ => faultsAt_foldl_access _ _
  | primaryParenthesized taken _ _ inner closes =>
    refine (((taken.accounts begins.answered).append inner).andThen closes).wrap ?_ rfl
    simp [Production.trees, Expression.children_parenthesized, Production.nodes]
  | primaryLiteral taken => exact taken.accounts_literal orderly begins
  | accessesIndex taken _ _ _ inner closes more =>
    exact (((taken.accounts begins.answered).append inner).andThen closes).append more
  | accessesMember taken _ _ name more =>
    exact ((taken.accounts begins.answered).append name).append more
  | accessesEmptyCall taken closes _ more =>
    exact ((taken.accounts begins.answered).append fun inside =>
      closes.accounts inside.answered).append more
  | accessesCall taken _ _ _ items more =>
    exact ((taken.accounts begins.answered).append items).append more
  | argumentsLast _ _ _ argument closes | parametersLast _ _ _ argument closes =>
    exact (argument begins).andThen closes
  | argumentsTrailing _ taken closes argument | parametersTrailing _ taken closes argument =>
    exact (((argument begins).andThen fun inside => taken.accounts inside.answered).andThen
      fun inside => inside.accounts_fail orderly _).andThen
        fun inside => closes.accounts inside.answered
  | argumentsNext _ taken _ _ argument more | parametersNext _ taken _ _ argument more
  | elementsNext _ _ _ taken _ argument more =>
    exact ((argument begins).andThen fun inside => taken.accounts inside.answered).append more
  | elementsMissing _ _ _ element =>
    have accounts := element begins
    exact ⟨accounts.inside, accounts.kept, Node.faultsAt_nil⟩
  | elementsLast _ _ _ _ element => exact element begins
  | initialElements taken _ _ items closes =>
    refine (((taken.accounts begins.answered).append items).andThen closes).wrap ?_ rfl
    exact Expression.children_arrayInitializer ..
  | initialExpression _ _ value => exact value begins
  | arraySizeWritten taken _ _ size closes =>
    exact ((taken.accounts begins.answered).append size).andThen closes
  | initializerWritten taken _ value => exact (taken.accounts begins.answered).append value
  | variableDeclaration taken _ _ _ _ _ type name size initializer ends =>
    refine ((((((taken.accounts begins).append type).append name).append size).append
      initializer).andThen ends).wrap ?_ rfl
    exact VariableDeclaration.children_toNode _
  | assignmentSigned taken _ _ right ends =>
    exact ((taken.accounts begins.answered).append right).andThen ends
  | assignmentUnsigned _ _ ends =>
    exact (begins.accounts_missing orderly _ rfl rfl).andThen ends
  | conditionBare _ _ _ condition =>
    exact (begins.accounts_reportMissing orderly _).append condition
  | conditionPlain _ _ condition => exact condition begins
  | blockWritten taken readsItems _ items closes =>
    refine (((taken.accounts begins.answered).append fun inside =>
      items ⟨inside, taken.normal_next⟩).andThen closes).wrap ?_ rfl
    exact Block.children_written ..
  | statementsNext goesOn readsItem resumes _ statement later =>
    change Accounts _ _ _ (Production.nodes .statements _)
    rw [Production.nodes_statements]
    exact (statement begins.1).append fun inside =>
      (resumes.accounts orderly inside (readsItem.stuck_statement begins.2 goesOn)).append
        fun resumed => later ⟨resumed, resumes.normal⟩
  | statementIf taken _ _ _ condition consequence =>
    refine (((taken.accounts begins.answered).append condition).append consequence).wrap ?_ rfl
    simp [Statement.children_ifStatement, Production.trees, Production.nodes]
  | statementIfElse taken _ _ otherwise _ condition consequence alternative =>
    refine (((((taken.accounts begins.answered).append condition).append consequence).andThen
      fun inside => otherwise.accounts inside.answered).append alternative).wrap ?_ rfl
    simp [Statement.children_ifStatement, Production.trees, Production.nodes]
  | statementReturn taken _ _ ends =>
    exact ((taken.accounts begins.answered).andThen ends).wrap
      (Statement.children_returnStatement _) rfl
  | statementReturnValue taken _ _ _ value ends =>
    exact (((taken.accounts begins.answered).append value).andThen ends).wrap
      (Statement.children_returnStatement _) rfl
  | statementVariable _ declaration => exact declaration begins.answered
  | statementBlock _ _ block => exact block begins
  | statementExpression _ _ _ _ expression ends =>
    exact ((expression begins).andThen ends).wrap (Statement.children_expressionStatement _) rfl
  | statementAssignment _ _ _ _ target tail =>
    exact (((target begins).andThen fun inside => inside.accounts_checkTarget _).append
      tail).wrap (AssignmentStatement.children_toNode _) rfl
  | statementAbsent => exact begins.accounts_fail orderly _
  | statementRejected | classRejected => exact begins.accounts_reject orderly _
  | branchBlock _ _ _ _ block semicolon => exact (block begins).andThen semicolon
  | branchStatement _ _ _ statement => exact statement begins
  | branchMissing _ _ readsStatement statement =>
    rcases readsStatement.reportsAt_of_none orderly begins with ⟨place, reports⟩
    refine (statement begins).bare rfl fun _ => ?_
    change State.ReportsAt _ _ (Lexeme.indexFrom _ (State.anchor _).span.start)
    rw [place, begins.indexFrom_anchor orderly]
    exact reports
  | parentWritten taken _ _ name closes =>
    exact ((taken.accounts begins.answered).append name).andThen closes
  | instanceBlock _ _ _ _ body semicolon => exact (body begins).andThen semicolon
  | @instanceForward hasParent _ _ _ taken =>
    cases hasParent with
    | true => exact taken.accounts begins.answered
    | false =>
      exact (begins.accounts_reportMissing orderly _).append fun inside =>
        taken.accounts inside.answered
  | instanceBare => exact begins.accounts_fail orderly _
  | bodyMissing _ _ _ body => exact body begins
  | bodyWritten _ _ _ _ body semicolon => exact (body begins).andThen semicolon
  | qualifierWritten taken => exact taken.accounts begins.answered
  | parameter _ _ _ qualifier type name =>
    refine (((qualifier begins).append type).append name).wrap ?_ rfl
    exact Parameter.children_toNode _
  | parameterListEmpty taken closes =>
    exact ((taken.accounts begins.answered).append fun inside =>
      closes.accounts inside.answered).wrap (ParameterList.children_written ..) rfl
  | parameterListFilled taken _ _ items =>
    exact ((taken.accounts begins.answered).append items).wrap
      (ParameterList.children_written ..) rfl
  | classVariable _ declaration => exact declaration begins.answered
  | classAbandoned _ _ _ target =>
    have accounts := target begins
    exact ⟨accounts.inside, accounts.kept, Node.faultsAt_nil⟩
  | classAssignment _ _ _ _ target tail =>
    exact (((target begins).andThen fun inside => inside.accounts_checkTarget _).append
      tail).wrap (AssignmentStatement.children_toNode _) rfl
  | classItemsNext _ readsItem resumes _ item later =>
    change Accounts _ _ _ (Production.nodes .classItems _)
    rw [Production.nodes_classItems]
    exact (item begins.1).append fun inside =>
      (resumes.accounts orderly inside (readsItem.stuck_classItem begins.2)).append
        fun resumed => later ⟨resumed, resumes.normal⟩
  | classBodyWritten taken _ _ items closes =>
    refine (((taken.accounts begins.answered).append fun inside =>
      items ⟨inside, taken.normal_next⟩).andThen closes).wrap ?_ rfl
    exact ClassBody.children_written ..
  | declarationInstance taken _ _ _ name parent body =>
    exact ((((taken.accounts begins.1).append name).append parent).append body).wrap
      (InstanceDeclaration.children_toNode _) rfl
  | declarationPrototype taken _ _ _ _ _ name opening parent closing body =>
    exact ((((((taken.accounts begins.1).append name).andThen opening).append parent).andThen
      closing).append body).wrap (PrototypeDeclaration.children_toNode _) rfl
  | declarationFunction taken _ _ _ _ type name parameters body =>
    exact (((((taken.accounts begins.1).append type).append name).append parameters).append
      body).wrap (FunctionDeclaration.children_toNode _) rfl
  | declarationNamelessClass taken _ recovering name =>
    exact (((taken.accounts begins.1).append name).append fun inside =>
      inside.accounts_idle orderly recovering rfl rfl).wrap
        (ClassDeclaration.children_toNode _) rfl
  | declarationUnfinishedClass taken _ _ _ _ name body =>
    exact (((taken.accounts begins.1).append name).append body).wrap
      (ClassDeclaration.children_toNode _) rfl
  | declarationClass taken _ _ _ _ _ name body semicolon =>
    exact ((((taken.accounts begins.1).append name).append body).andThen semicolon).wrap
      (ClassDeclaration.children_toNode _) rfl
  | declarationVariable _ declaration => exact declaration begins.1
  | declarationRejected => cases begins.2
  | declarationsEnd | declarationsNext => cases begins

/-! ## Lists of declarations -/

/-- A declaration that is sought in vain is reported where it was sought. -/
theorem Derivation.answered_declaration (orderly : lexing.Orderly) {item : Option Declaration}
    (reads : Reads .declaration state item next) (answered : state.Answered lexing)
    (nonempty : state.rest ≠ []) :
    next.Answered lexing ∧ Node.FaultsAt
      (fun offset => next.ReportsAt lexing (Lexeme.indexFrom lexing.lexemes offset))
      (Production.nodes .declaration item) := by
  cases item with
  | some declaration =>
    have accounts := reads.accounts orderly ⟨answered, rfl⟩
    exact ⟨accounts.inside.answered, accounts.reported⟩
  | none =>
    refine ⟨⟨reads.moves.traced answered.traced, fun _ => ?_⟩, Node.faultsAt_nil⟩
    cases reads with
    | declarationRejected =>
      rw [State.index_reject]
      exact answered.reportsAt_reject orderly (.inr nonempty) _

/-- Each fault in a list of declarations, or between them, has a report. -/
theorem Derivation.faultsAt_declarations (orderly : lexing.Orderly) {production : Production}
    {value : production.Value} (reads : Reads production state value next)
    (outer : production = .declarations) (answered : state.Answered lexing) :
    Node.FaultsAt (fun offset => next.ReportsAt lexing (Lexeme.indexFrom lexing.lexemes offset))
      (production.nodes value) := by
  induction reads with
  | declarationsEnd => exact Node.faultsAt_nil
  | declarationsNext goesOn readsItem resumes readsMore _ later =>
    rcases readsItem.answered_declaration orderly answered goesOn with ⟨answeredItem, faults⟩
    have skipped := resumes.faultsAt orderly answeredItem readsItem.stuck_declaration
    have further := readsMore.moves.diagnostics_prefix
    have whole := resumes.moves.diagnostics_prefix.trans further
    rw [Production.nodes_declarations, Node.faultsAt_append, Node.faultsAt_append]
    exact ⟨faults.mono fun _ reports => reports.mono whole,
      skipped.mono fun _ reports => reports.mono further,
      later outer (resumes.answered answeredItem)⟩
  | _ => cases outer

end Grammar

end ScriptTree
