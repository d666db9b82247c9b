import ScriptTree.Proofs.Grammar.Alone.Program
import ScriptTree.Proofs.Grammar.Parallel.Following

/-!
# Programs in parallel

Where a parse begins matters only for what is missing there, and at the top level
nothing is: a declaration starts with its keyword, and anything else is skipped.
-/

namespace ScriptTree.Grammar

variable {state next : State}

/-! ## The place in front of the first lexeme -/

theorem Resumes.of_start {level : SyncLevel} {start begun : State} {node : Option ErrorNode}
    (resumes : Resumes level start state node next) (same : begun.rest = start.rest) :
    Resumes level begun state node next := by
  cases resumes with
  | onward progress normal => exact .onward (same ▸ progress) normal
  | synchronized cause => exact .synchronized (by rwa [same])
  | skippedOne idle stuck front => exact .skippedOne (by rwa [same]) stuck front

/-- A rejection does not depend on the anchor. -/
theorem State.reject_at_anchor (nonempty : state.rest ≠ []) (anchor : Range)
    (production : String) :
    State.reject { state with anchor } production =
      { state.reject production with anchor } := by
  rcases state with ⟨_ | ⟨lexeme, rest⟩, _, _, recovering, _, _⟩
  · exact absurd rfl nonempty
  · cases recovering <;> rfl

/-- A skip that takes something forgets where it began. -/
theorem State.synchronize_at_anchor {level : SyncLevel}
    (found : (state.synchronize level).1.isSome = true) (anchor : Range) :
    State.synchronize { state with anchor } level = state.synchronize level := by
  unfold State.synchronize at found ⊢
  cases skipped : level.skip 0 state.rest with
  | mk taken rest =>
    rw [skipped] at found
    rcases List.eq_nil_or_concat' taken with rfl | ⟨front, last, rfl⟩
    · cases found
    · simp [State.passOver]

/-- Declarations are read in the same way wherever the token in front of them ends. -/
theorem Derivation.declarations_at_anchor {items : List Declaration}
    (reads : Reads .declarations state items next) (normal : state.recovering = false)
    (anchor : Range) :
    ∃ place, Reads .declarations { state with anchor } items { next with anchor := place } := by
  cases reads with
  | declarationsEnd ends => exact ⟨anchor, .declarationsEnd ends⟩
  | @declarationsNext _ item afterItem skipped resumed more _ goesOn readsItem resumes readsMore =>
    refine ⟨next.anchor, ?_⟩
    cases item with
    | some declaration =>
      exact .declarationsNext goesOn (readsItem.at_anchor anchor) (resumes.of_start rfl) readsMore
    | none =>
      have moves : ∀ lexeme rest, ¬afterItem.rest.length < state.rest.length →
          afterItem.rest = lexeme :: rest → (afterItem.synchronize .topLevel).1 ≠ none :=
        fun _ _ idle front => readsItem.not_stuck normal idle front
      cases readsItem with
      | declarationRejected declined =>
        have rejected : Reads .declaration { state with anchor } none
            ({ state with anchor }.reject "declaration") :=
          .declarationRejected declined
        rw [State.reject_at_anchor goesOn] at rejected
        cases resumes with
        | onward progress => simp at progress
        | synchronized cause =>
          have found := (cause.resolve_left fun progress => by simp at progress).2
          have same := State.synchronize_at_anchor found anchor
          have again : Resumes .topLevel { state with anchor }
              { state.reject "declaration" with anchor }
              (State.synchronize { state.reject "declaration" with anchor } .topLevel).1
              (State.synchronize { state.reject "declaration" with anchor } .topLevel).2 :=
            .synchronized (.inr ⟨by simp, by rwa [same]⟩)
          rw [same] at again
          exact .declarationsNext goesOn rejected again readsMore
        | skippedOne idle none front => exact absurd none (moves _ _ idle front)

/-! ## Parses of the same lexemes -/

/-- Parses that are compared places apart. -/
def Comparison.anywhere (mindsLines : Bool) : Comparison where
  move := fun _ => default
  moveOther := fun _ => default
  relocates := .const
  relocatesOther := .const
  tail := []
  ahead := 0
  mindsLines

/-- Parses that are compared place by place. -/
def Comparison.inPlace : Comparison where
  move := id
  moveOther := id
  relocates := .id
  relocatesOther := .id
  tail := []
  ahead := 0
  mindsLines := true

/-- Two parses that begin with the same lexemes are parallel. -/
theorem Comparison.Parallel.of_matches {comparison : Comparison} {first second front : List Lexeme}
    {anchor anchorOther : Range} (whole : second = front ++ comparison.tail)
    (same : List.Forall₂ comparison.Matches front first) (begins : comparison.ahead = 0)
    (anchors : comparison.move anchor = comparison.moveOther anchorOther)
    (lines : comparison.mindsLines = true →
      Lexeme.breaks anchor.start.line first <+: Lexeme.breaks anchorOther.start.line second)
    (sound : comparison.mindsLines = true ∨ (State.ofLexemes first).Sound) :
    comparison.Parallel { State.ofLexemes first with anchor }
      { State.ofLexemes second with anchor := anchorOther } where
  rest := ⟨front, whole, same⟩
  anchor := anchors
  mode := rfl
  index := by simp [State.ofLexemes, begins]
  noted := rfl
  diagnostics := rfl
  lines
  sound := sound.imp id fun sound => ⟨sound.accounted, sound.spelled, sound.readable⟩

/-- Lexemes that match in place have the same line breaks in front of them. -/
theorem breaks_eq_of_matches {first second : List Lexeme}
    (same : List.Forall₂ Comparison.inPlace.Matches second first) (line : Nat) :
    Lexeme.breaks line first = Lexeme.breaks line second := by
  induction same generalizing line with
  | nil => rfl
  | @cons other lexeme _ _ here _ ih =>
    have range : lexeme.range = other.range := here.range
    rw [Lexeme.breaks, Lexeme.breaks, ih, range]

/-- The same lexemes in the same places are read as the same program, with the same reports. -/
theorem program_eq_of_matches {first second : List Lexeme}
    (same : List.Forall₂ Comparison.inPlace.Matches second first) (range : Range) :
    program second range = program first range := by
  rcases exists_reads_program first range with ⟨items, final, reads, found⟩
  have begun : Comparison.inPlace.Parallel (.ofLexemes first) (.ofLexemes second) :=
    .of_matches (List.append_nil second).symm same rfl rfl
      (fun _ => breaks_eq_of_matches same _ ▸ List.prefix_rfl) (.inl rfl)
  rcases begun.follows reads ⟨.inl rfl, .inl rfl⟩ with ⟨others, after, readsOther, parallel, alike⟩
  have stay : Declaration.mapRanges id = id := funext Declaration.mapRanges_id
  have items_eq : items = others := by
    simpa [Production.mapRanges, Comparison.inPlace, stay] using alike
  have reported : final.diagnostics = after.diagnostics := by
    have mapped := parallel.diagnostics
    have stay : Diagnostic.mapRange id = id := rfl
    simpa [Comparison.inPlace, stay] using mapped
  rw [found, readsOther.program_eq range, items_eq, reported]

end ScriptTree.Grammar
