import ScriptTree.Proofs.Grammar.Reached
import ScriptTree.Proofs.Grammar.Totality

/-!
# Progress

Reading declarations ends in the normal mode with every lexeme taken, whatever
the lexemes are.  Many productions take a lexeme without asking for the mode, but
they are begun in the normal mode only, so that what the functions do is a
derivation whose rules take nothing while the parse recovers; only skips do.
Each loop takes a lexeme before it goes round again, and calls are nested in each
other to a bounded depth: no more than four where nothing is taken, and no more
than the lexemes allow otherwise.
-/

namespace ScriptTree.Grammar

variable {state next : State}

/-! ## The end of a run -/

/-- What was taken and what is left make up all lexemes. -/
theorem Move.index {count : Nat} (move : Move state next)
    (before : state.index + state.rest.length = count) : next.index + next.rest.length = count := by
  cases move with
  | take _ front =>
    rw [front, List.length_cons] at before
    rw [← before, State.advance]
    exact Nat.add_right_comm ..
  | report | fail | reject => simpa using before
  | rejectTarget => exact before
  | passOver front =>
    rw [front, List.length_append, ← Nat.add_assoc] at before
    exact before

/-- The state after all declarations. -/
def finalState (lexemes : List Lexeme) : State :=
  (declarations (.ofLexemes lexemes)).next

/-- The functions read declarations by a derivation that takes lexemes in the normal mode only. -/
theorem reads_finalState (lexemes : List Lexeme) :
    Reads .declarations (.ofLexemes lexemes) (declarations (.ofLexemes lexemes)).value
      (finalState lexemes) := by
  rcases derives_of_ne .declarations (.ofLexemes lexemes) nofun with ⟨items, final, reads⟩
  rcases Step.eq_of_outcome (reads.computes_of_suits fun _ => rfl) with ⟨_, computed⟩
  rw [finalState, computed]
  exact reads

/-! ## Skips -/

/-- While the parse recovers, an act takes something only if it is a skip. -/
theorem Act.skips (act : Act state next) (recovering : state.recovering = true) :
    next.rest = state.rest ∨ (∃ level, next = (state.synchronize level).2) ∨
      ∃ lexeme rest, state.rest = lexeme :: rest ∧ next = (state.skipOne lexeme rest).2 := by
  cases act with
  | take normal =>
    rw [recovering] at normal
    cases normal
  | report => exact .inl (State.rest_report ..)
  | fail => exact .inl (State.rest_fail ..)
  | reject => exact .inl (State.rest_reject ..)
  | rejectTarget => exact .inl rfl
  | synchronize => exact .inr (.inl ⟨_, rfl⟩)
  | skipOne front => exact .inr (.inr ⟨_, _, front, rfl⟩)

/-! ## Progress -/

/-- Lexemes are read to their end in the normal mode.  Whether or not the unguarded steps of the
grammar may take something while the parse recovers, the functions do the same, by acts of which
only skips take something then.  Whatever they call inside computes what the derivation says, and
if it is begun while the parse recovers it takes nothing.  No loop goes round for nothing, and calls
are nested only so deep. -/
theorem declarations_progress (lexemes : List Lexeme) :
    ((finalState lexemes).rest = [] ∧ (finalState lexemes).index = lexemes.length ∧
        (finalState lexemes).recovering = false) ∧
      (∀ permits : State → Prop, (∀ state : State, state.recovering = false → permits state) →
        Derivation permits .declarations (.ofLexemes lexemes)
          (declarations (.ofLexemes lexemes)).value (finalState lexemes)) ∧
      Acts (.ofLexemes lexemes) (finalState lexemes) ∧
      (∀ state next, Act state next → state.recovering = true →
        next.rest = state.rest ∨ (∃ level, next = (state.synchronize level).2) ∨
          ∃ lexeme rest, state.rest = lexeme :: rest ∧ next = (state.skipOne lexeme rest).2) ∧
      (∀ reads : Reads .declarations (.ofLexemes lexemes)
          (declarations (.ofLexemes lexemes)).value (finalState lexemes),
        reads.EachPart fun production state value next =>
          Relation.TransGen Call.Calls ⟨.declarations, .ofLexemes lexemes⟩ ⟨production, state⟩ ∧
            Computes production state value next ∧
            (state.recovering = true →
              production.asksForMode = true ∧ next.rest = state.rest)) ∧
      (∀ first second : Call, first.Calls second →
        first.production.sameLoop second.production = true → second.left < first.left) ∧
      (∀ (outer : Call) (inner : List Call), (outer :: inner).IsChain Call.Calls →
        (∀ call ∈ inner, call.left = outer.left) → inner.length ≤ 4) ∧
      ∀ (outer : Call) (inner : List Call), (outer :: inner).IsChain Call.Calls →
        inner.length ≤ 5 * outer.left + 4 := by
  have reads := reads_finalState lexemes
  have ends := reads.rest_eq_nil
  have counted := reads.moves.keeps
    (motive := fun state => state.index + state.rest.length = lexemes.length)
    (fun move => move.index) (Nat.zero_add _)
  rw [ends, List.length_nil, Nat.add_zero] at counted
  refine ⟨⟨ends, counted, reads.normal_of_isList rfl rfl⟩, ?_, reads.acts, ?_, ?_, ?_, ?_, ?_⟩
  · intro permits permitted
    exact reads.of_permits id (fun normal => permitted _ normal) fun _ => rfl
  · exact fun _ _ act => act.skips
  · intro reads
    refine reads.eachPart_of_calls (fun _ => rfl) fun called suited readsInner => ?_
    exact ⟨called, readsInner.computes_of_suits suited, readsInner.idle_of_suits suited⟩
  · exact fun _ _ calls => calls.fewer_of_sameLoop
  · exact fun _ _ => Call.length_le_of_idle
  · exact fun _ _ => Call.length_le_of_isChain

/-- A name with a dot after it, where a statement is sought: four nested calls take nothing, the
accesses go round once for a missing member, and a parse that recovers from the name takes it by a
skip only. -/
theorem declarations_progress_dot :
    let name : Lexeme := ⟨⟨.identifier, default⟩, "a"⟩
    let dot : Lexeme := ⟨⟨.dot, default⟩, "."⟩
    let state : State := .ofLexemes [name, dot]
    let stalled : State := state.reject "declaration"
    let passed : State := (stalled.skipOne name [dot]).2
    let member : State := .ofLexemes [dot]
    let outer : Call := ⟨.statements, state⟩
    let inner : List Call :=
      [⟨.statement, state⟩, ⟨.operation lowestPower, state⟩, ⟨.operand, state⟩, ⟨.primary, state⟩]
    let first : Call := ⟨.accesses, member⟩
    let second : Call := ⟨.accesses, (member.advance dot []).fail (.tokens [.identifier])⟩
    ((outer :: inner).IsChain Call.Calls ∧ (∀ call ∈ inner, call.left = outer.left) ∧
        inner.length ≤ 4 ∧ inner.length ≤ 5 * outer.left + 4) ∧
      (first.Calls second ∧ first.production.sameLoop second.production = true ∧
        second.left < first.left) ∧
      Derivation State.Any .declarations state (declarations state).value
        (finalState [name, dot]) ∧
      (∃ reads : Reads .declarations state (declarations state).value (finalState [name, dot]),
        reads.EachPart fun production begun value next =>
          Relation.TransGen Call.Calls ⟨.declarations, state⟩ ⟨production, begun⟩ ∧
            Computes production begun value next ∧
            (begun.recovering = true →
              production.asksForMode = true ∧ next.rest = begun.rest)) ∧
      (Act stalled passed ∧ stalled.recovering = true ∧
        (passed.rest = stalled.rest ∨ (∃ level, passed = (stalled.synchronize level).2) ∨
          ∃ lexeme rest, stalled.rest = lexeme :: rest ∧
            passed = (stalled.skipOne lexeme rest).2)) ∧
      (finalState [name, dot]).rest = [] := by
  intro name dot state stalled passed member outer inner first second
  have progress := declarations_progress [name, dot]
  have nested : (outer :: inner).IsChain Call.Calls := by
    have declined : Declines state UnaryOperator.ofToken? := declines_of_peek (by
      rintro token same
      cases same
      rfl)
    simp only [outer, inner, List.isChain_cons_cons, List.isChain_singleton, and_true]
    exact ⟨.statementsItem rfl, .statementExpression rfl, .operationOperand,
      .operandPrimary declined⟩
  have idle : ∀ call ∈ inner, call.left = outer.left := by
    simp [inner, outer, Call.left]
  have round : first.Calls second :=
    .accessesMember (⟨rfl, rfl, rfl, rfl⟩ : Takes member Access.ofToken? .member dot _)
      (.nameMissing (declines_of_empty rfl))
  have reads : Reads .declarations state (declarations state).value (finalState [name, dot]) :=
    progress.2.1 State.Normal fun _ normal => normal
  rcases progress with ⟨ends, whatever, _, skips, parts, loops, short, bounded⟩
  exact
    ⟨⟨nested, idle, short _ _ nested idle, bounded _ _ nested⟩,
      ⟨round, rfl, loops _ _ round rfl⟩, whatever State.Any fun _ _ => trivial,
      ⟨reads, parts reads⟩, ⟨.skipOne rfl, rfl, skips _ _ (.skipOne rfl) rfl⟩, ends.1⟩

end ScriptTree.Grammar
