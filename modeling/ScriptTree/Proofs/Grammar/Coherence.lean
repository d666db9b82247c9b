import ScriptTree.Proofs.Grammar.Parallel.Program
import ScriptTree.Proofs.Grammar.Laying
import ScriptTree.Proofs.Node.Braces

/-!
# Where ranges and reports come from

A parse makes up no places: it puts the places of its lexemes together, and reports
where it is or at what it has read.  So a move of ranges that leaves the lexemes
where they are leaves the whole tree and all reports where they are, and a report
runs forward because the lexemes and the assigned expressions do.
-/

namespace ScriptTree

namespace Node

mutual

/-- A node that a move leaves as it is has no range that is moved. -/
theorem every_of_mapRanges_eq {move : Range → Range} {node : Node}
    (same : node.mapRanges move = node) :
    Every (fun inner => move inner.range = inner.range) [node] := by
  match node with
  | .mk content range tokens children =>
    rw [mapRanges, mk.injEq] at same
    exact every_singleton.mpr ⟨same.2.1, every_of_forestMapRanges_eq same.2.2.2⟩

/-- What moves no range of the children moves none below them. -/
theorem every_of_forestMapRanges_eq {move : Range → Range} {children : List (Field × Node)}
    (same : forestMapRanges move children = children) :
    Every (fun inner => move inner.range = inner.range) (children.map (·.2)) := by
  match children with
  | [] => exact every_nil
  | (field, child) :: rest =>
    rw [forestMapRanges, List.cons.injEq, Prod.mk.injEq] at same
    rw [List.map_cons, every_cons]
    exact ⟨every_of_mapRanges_eq same.1.2, every_of_forestMapRanges_eq same.2⟩

end

end Node

namespace Grammar

/-! ## Moves that leave the lexemes where they are -/

/-- A parse that is compared with itself after it was moved. -/
def Comparison.moved {move : Range → Range} (relocates : Range.IsRelocation move) : Comparison where
  move
  moveOther := id
  relocates
  relocatesOther := .id
  tail := []
  ahead := 0
  mindsLines := true

/-- A move that leaves the lexemes where they are leaves the tree and the reports where they are. -/
theorem Derivation.mapRanges_eq {move : Range → Range} (relocates : Range.IsRelocation move)
    {lexemes : List Lexeme} {items : List Declaration} {final : State}
    (reads : Reads .declarations (.ofLexemes lexemes) items final)
    (start : move (.emptyAt 0 ⟨0, 0⟩) = .emptyAt 0 ⟨0, 0⟩)
    (fixed : ∀ lexeme ∈ lexemes, move lexeme.range = lexeme.range) :
    items.map (Declaration.mapRanges move) = items ∧
      final.diagnostics.map (Diagnostic.mapRange move) = final.diagnostics := by
  have same : List.Forall₂ (Comparison.moved relocates).Matches lexemes lexemes :=
    List.forall₂_same.mpr fun lexeme member => ⟨rfl, fixed lexeme member⟩
  have begun : (Comparison.moved relocates).Parallel (.ofLexemes lexemes) (.ofLexemes lexemes) :=
    .of_matches (List.append_nil lexemes).symm same rfl start (fun _ => List.prefix_rfl) (.inl rfl)
  rcases begun.follows reads ⟨.inl rfl, .inl rfl⟩ with ⟨others, after, readsOther, parallel, alike⟩
  have found := (reads.program_eq default).symm.trans (readsOther.program_eq default)
  rw [Reading.mk.injEq, Program.mk.injEq] at found
  rcases found with ⟨⟨rfl, -⟩, reported⟩
  have stay : Declaration.mapRanges id = id := funext Declaration.mapRanges_id
  have stayReport : Diagnostic.mapRange id = id := rfl
  have moved : items.map (Declaration.mapRanges move) = items.map (Declaration.mapRanges id) :=
    alike
  have movedReports : final.diagnostics.map (Diagnostic.mapRange move) =
      after.diagnostics.map (Diagnostic.mapRange id) := parallel.diagnostics
  rw [stay, List.map_id] at moved
  rw [stayReport, List.map_id, ← reported] at movedReports
  exact ⟨moved, movedReports⟩

/-! ## Reports run forward -/

/-- A located state all of whose reports run forward. -/
structure State.Steady (index : LineIndex) (state : State) : Prop where
  located : state.Located index
  forward : ∀ report ∈ state.diagnostics, report.range.span.start ≤ report.range.span.stop

section

variable {index : LineIndex} {state next : State}

namespace State.Steady

/-- A report of a range that runs forwards keeps a parse steady. -/
theorem report (steady : state.Steady index) {range : Range}
    (forward : range.span.start ≤ range.span.stop) (expected : Expectation) :
    (state.report range expected).Steady index := by
  refine ⟨Moves.located (.single .report) steady.located, ?_⟩
  intro diagnostic member
  rw [State.diagnostics_report] at member
  split at member
  · exact steady.forward diagnostic member
  · rcases List.mem_append.mp member with early | last
    · exact steady.forward diagnostic early
    · rw [List.mem_singleton.mp last]
      exact forward

theorem reportMissing (steady : state.Steady index) (token : Token) :
    (state.reportMissing token).Steady index :=
  steady.report (Nat.le_of_eq steady.located.ordered.anchored) _

/-- The place of a steady parse runs forwards. -/
theorem forward_here (steady : state.Steady index) :
    state.here.span.start ≤ state.here.span.stop := by
  unfold State.here
  split
  · exact Nat.le_of_eq steady.located.ordered.anchored
  · rename_i lexeme first
    exact Nat.le_of_lt (steady.located.wide lexeme (List.mem_of_head? first))

/-- What reports where the parse is, or nothing. -/
theorem fail (steady : state.Steady index) (expected : Expectation) :
    (state.fail expected).Steady index := by
  refine ⟨steady.located.fail expected, ?_⟩
  unfold State.fail
  split
  · exact (steady.report (Nat.le_of_eq steady.located.ordered.anchored) expected).forward
  · exact (steady.report steady.forward_here expected).forward

theorem reject (steady : state.Steady index) (production : String) :
    (state.reject production).Steady index :=
  ⟨Moves.located (.single .reject) steady.located,
    (steady.report steady.forward_here (.production production)).forward⟩

theorem checkTarget (steady : state.Steady index) {target : Expression}
    (forward : target.range.span.start ≤ target.range.span.stop) :
    (state.checkTarget target).Steady index := by
  refine ⟨(moves_checkTarget state target).located steady.located, ?_⟩
  intro diagnostic member
  unfold State.checkTarget at member
  split at member
  · exact steady.forward diagnostic member
  · rcases List.mem_append.mp member with early | last
    · exact steady.forward diagnostic early
    · rw [List.mem_singleton.mp last]
      exact forward

end State.Steady

theorem Taking.steady {α : Type} {recognize : Token → Option α} {value : α} {lexeme : Lexeme}
    (taken : Takes state recognize value lexeme next) (steady : state.Steady index) :
    next.Steady index := by
  refine ⟨taken.located steady.located, ?_⟩
  rw [taken.moved]
  exact steady.forward

theorem Resumes.steady {level : SyncLevel} {start : State} {skipped : Option ErrorNode}
    (resumes : Resumes level start state skipped next) (steady : state.Steady index) :
    next.Steady index := by
  refine ⟨resumes.located steady.located, ?_⟩
  cases resumes with
  | onward | synchronized | skippedOne => exact steady.forward

/-- A production reports where the parse is, or at the target of an assignment. -/
theorem Derivation.steady {production : Production} {value : production.Value}
    (reads : Reads production state value next) (steady : state.Steady index) :
    next.Steady index :=
  reads.keeps
    { take := fun taken steady => taken.steady steady
      fail := fun expected steady => steady.fail expected
      reportMissing := fun token steady => steady.reportMissing token }
    (fun _ =>
      { reject := fun production steady => steady.reject production
        checkTarget := fun readsTarget before steady =>
          steady.checkTarget (readsTarget.laid before.located).laid.fills.forward
        resume := fun resumes steady => resumes.steady steady })
    steady

end

end Grammar

end ScriptTree
