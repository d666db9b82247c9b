import ScriptTree.Proofs.Grammar.Alone.Idle
import ScriptTree.Proofs.Grammar.Division
import ScriptTree.Proofs.Lexeme.Slice

/-!
# Lexemes read alone

The lexemes that a production takes can be read alone, so that the input ends
where other lexemes followed.  As long as lexemes are left, the two parses are
in the same mode, and their lexemes are the same apart from their places.  Lines
differ by a constant, so that what stands on a later line does so in both.
Nothing is asked of a parse that has nothing left.
-/

namespace ScriptTree.Grammar

/-- The state `alone` has the lexemes that are left of `state` before the `tail`. -/
structure Echo (lines : Nat) (tail : List Lexeme) (state alone : State) : Prop where
  rest : ∃ front, state.rest = front ++ tail ∧
    List.Forall₂ (Lexeme.IsBelow lines) front alone.rest
  mode : alone.rest ≠ [] → alone.recovering = state.recovering
  line : alone.rest ≠ [] → state.anchor.start.line = lines + alone.anchor.start.line

namespace Echo

variable {lines : Nat} {tail : List Lexeme} {state next alone after : State}

/-- Where nothing is left of one part, nothing but the tail is left of the whole. -/
theorem rest_eq_tail (echo : Echo lines tail state alone) (ended : alone.rest = []) :
    state.rest = tail := by
  rcases echo.rest with ⟨front, whole, similar⟩
  rw [ended, List.forall₂_nil_right_iff] at similar
  rw [whole, similar, List.nil_append]

/-- Less is left of what is read alone by what stands behind it. -/
theorem length_rest (echo : Echo lines tail state alone) :
    state.rest.length = alone.rest.length + tail.length := by
  rcases echo.rest with ⟨front, whole, similar⟩
  rw [whole, List.length_append, similar.length_eq]

theorem rest_ne_tail (echo : Echo lines tail state alone) (unfinished : alone.rest ≠ []) :
    state.rest ≠ tail := by
  intro same
  have longer := echo.length_rest
  rw [same] at longer
  exact unfinished (List.length_eq_zero_iff.mp
    (Nat.left_eq_add.mp (longer.trans (Nat.add_comm ..))))

/-- The end of what is read alone echoes the place where the rest begins. -/
theorem of_rest_eq_tail (left : state.rest = tail) (ended : alone.rest = []) :
    Echo lines tail state alone where
  rest := ⟨[], left, by rw [ended]; exact .nil⟩
  mode := fun unfinished => absurd ended unfinished
  line := fun unfinished => absurd ended unfinished

/-- Lexemes are left alone where one in front of the tail will be taken. -/
theorem unfinished {next : List Lexeme} (echo : Echo lines tail state alone) (left : tail <:+ next)
    (fewer : next.length < state.rest.length) : alone.rest ≠ [] := by
  intro ended
  rw [echo.rest_eq_tail ended] at fewer
  exact absurd fewer (Nat.not_lt.mpr left.length_le)

/-- The first lexemes of two parses, of which one has lexemes left. -/
theorem exists_first (echo : Echo lines tail state alone) (unfinished : alone.rest ≠ []) :
    ∃ first front above rest, state.rest = first :: (front ++ tail) ∧
      alone.rest = above :: rest ∧ Lexeme.IsBelow lines first above ∧
      List.Forall₂ (Lexeme.IsBelow lines) front rest := by
  rcases echo.rest with ⟨front, whole, similar⟩
  generalize equal : alone.rest = rest at similar unfinished
  cases similar with
  | nil => exact absurd rfl unfinished
  | cons same others => exact ⟨_, _, _, _, whole, rfl, same, others⟩

/-- The next token is the same, as long as what is read alone has one. -/
theorem peek_eq (echo : Echo lines tail state alone) (unfinished : alone.rest ≠ []) :
    alone.peek = state.peek := by
  rcases echo.exists_first unfinished with ⟨first, front, above, rest, whole, part, same, _⟩
  simp [State.peek, whole, part, same.token]

/-- Nothing is found alone that is not found in the whole. -/
theorem any_peek_eq_false (echo : Echo lines tail state alone) {test : Token → Bool}
    (absent : state.peek.any test = false) : alone.peek.any test = false := by
  by_cases ended : alone.rest = []
  · simp [State.peek, ended]
  · rw [echo.peek_eq ended, absent]

theorem isAt_eq (echo : Echo lines tail state alone) (unfinished : alone.rest ≠ [])
    (token : Token) : alone.isAt token = state.isAt token := by
  rw [State.isAt, State.isAt, echo.peek_eq unfinished]

theorem isAt_eq_false (echo : Echo lines tail state alone) {token : Token}
    (absent : state.isAt token = false) : alone.isAt token = false := by
  by_cases ended : alone.rest = []
  · simp [State.isAt, State.peek, ended]
  · rw [echo.isAt_eq ended, absent]

/-- What declines a token in the whole declines it alone, where there may be none left. -/
theorem declines {α : Type} {recognize : Token → Option α} (echo : Echo lines tail state alone)
    (declined : Declines state recognize) : Declines alone recognize := by
  by_cases ended : alone.rest = []
  · exact declines_of_empty ended
  · rcases echo.exists_first ended with ⟨first, front, above, rest, whole, part, same, _⟩
    intro normal lexeme member
    rw [part, List.head?_cons] at member
    cases member
    rw [← same.token]
    exact declined ((echo.mode ended).symm.trans normal) first (by rw [whole, List.head?_cons]; rfl)

theorem misses {α : Type} {recognize : Token → Option α} (echo : Echo lines tail state alone)
    (unfinished : alone.rest ≠ []) (missed : Misses state recognize) : Misses alone recognize :=
  Declining.misses (echo.declines missed.declines) ((echo.mode unfinished).trans missed.normal)

/-- A lexeme that is taken in front of the tail is taken alone too. -/
theorem takes {α : Type} {recognize : Token → Option α} {value : α} {lexeme : Lexeme}
    (echo : Echo lines tail state alone) (taken : Takes state recognize value lexeme next)
    (left : tail <:+ next.rest) :
    ∃ above after, Takes alone recognize value above after ∧
      Lexeme.IsBelow lines lexeme above ∧ Echo lines tail next after := by
  have unfinished := echo.unfinished left taken.fewer
  rcases echo.exists_first unfinished with ⟨first, front, above, rest, whole, part, same, others⟩
  rw [taken.front] at whole
  rcases List.cons_eq_cons.mp whole with ⟨rfl, remaining⟩
  refine ⟨above, alone.advance above rest, ?_, same, ?_⟩
  · exact
      { permitted := (echo.mode unfinished).trans taken.normal
        recognized := same.token ▸ taken.recognized
        front := part
        moved := rfl }
  · exact
      { rest := ⟨front, remaining, others⟩
        mode := fun _ => ((echo.mode unfinished).trans taken.normal).trans taken.normal_next.symm
        line := fun _ => by
          rw [taken.moved]
          exact same.stopLine }

/-- A missing token is taken for granted in both or in neither. -/
theorem admitsInsertion_eq (echo : Echo lines tail state alone) (unfinished : alone.rest ≠ []) :
    alone.admitsInsertion = state.admitsInsertion := by
  rcases echo.exists_first unfinished with ⟨first, front, above, rest, whole, part, same, _⟩
  have later : state.anchor.start.line < first.range.start.line ↔
      alone.anchor.start.line < above.range.start.line := by
    rw [echo.line unfinished, same.startLine]
    exact Nat.add_lt_add_iff_left
  simp [State.admitsInsertion, whole, part, same.token, later]

/-! ## Moves without a lexeme -/

/-- What takes no lexeme, and has the same effect on the mode of both parses. -/
theorem of_rest_eq (echo : Echo lines tail state alone) (left : next.rest = state.rest)
    (leftAlone : after.rest = alone.rest) (anchor : next.anchor = state.anchor)
    (anchorAlone : after.anchor = alone.anchor)
    (mode : alone.rest ≠ [] → after.recovering = next.recovering) :
    Echo lines tail next after where
  rest := by
    rw [left, leftAlone]
    exact echo.rest
  mode := leftAlone.symm ▸ mode
  line := by
    rw [leftAlone, anchor, anchorAlone]
    exact echo.line

theorem report (echo : Echo lines tail state alone) {range above : Range}
    {expected : Expectation} :
    Echo lines tail (state.report range expected) (alone.report above expected) := by
  apply echo.of_rest_eq <;> simp
  exact echo.mode

theorem reportMissing (echo : Echo lines tail state alone) (token : Token) :
    Echo lines tail (state.reportMissing token) (alone.reportMissing token) :=
  echo.report

theorem fail (echo : Echo lines tail state alone) (expected : Expectation) :
    Echo lines tail (state.fail expected) (alone.fail expected) := by
  apply echo.of_rest_eq <;> simp [State.recovering_fail]
  intro unfinished
  rw [echo.mode unfinished, echo.admitsInsertion_eq unfinished]

theorem reject (echo : Echo lines tail state alone) (production : String) :
    Echo lines tail (state.reject production) (alone.reject production) := by
  apply echo.of_rest_eq <;> simp

theorem checkTarget (echo : Echo lines tail state alone) (target above : Expression) :
    Echo lines tail (state.checkTarget target) (alone.checkTarget above) := by
  apply echo.of_rest_eq <;> simp
  exact echo.mode

end Echo

/-! ## Lists that resume -/

section

variable {lines : Nat} {tail skipped above : List Lexeme} {level : SyncLevel}
  {start state next startAlone alone : State}

/-- Skipped lexemes that are alike are the same tokens without their places. -/
theorem unplaced_tokens (similar : List.Forall₂ (Lexeme.IsBelow lines) skipped above) :
    (above.map fun lexeme => (⟨lexeme.token, default⟩ : PlacedToken)) =
      skipped.map fun lexeme => ⟨lexeme.token, default⟩ := by
  induction similar with
  | nil => rfl
  | cons same _ ih => rw [List.map_cons, List.map_cons, same.token, ih]

theorem unplaced_ofTokens? (similar : List.Forall₂ (Lexeme.IsBelow lines) skipped above) :
    (ErrorNode.ofTokens? (above.map Lexeme.toPlacedToken)).map ErrorNode.unplaced =
      (ErrorNode.ofTokens? (skipped.map Lexeme.toPlacedToken)).map ErrorNode.unplaced := by
  have tokens := unplaced_tokens similar
  cases similar with
  | nil => rfl
  | cons same others =>
    simp only [List.map_cons, ErrorNode.ofTokens?, Option.map_some, ErrorNode.unplaced,
      List.map_map]
    exact congrArg (fun tokens => some (ErrorNode.mk tokens default)) tokens

/-- What is passed over in both leaves echoes. -/
theorem Echo.passOver {whole part : List Lexeme × List Lexeme}
    (echo : Echo lines tail state alone)
    (divided : DividesAlike (Lexeme.IsBelow lines) tail whole part)
    (parts : part.1 ++ part.2 = alone.rest) :
    Echo lines tail (state.passOver whole.1 whole.2) (alone.passOver part.1 part.2) where
  rest := divided.2
  mode := fun _ => rfl
  line := by
    intro unfinished
    simp only [State.passOver] at unfinished ⊢
    rcases getLast?_alike divided.1 with ⟨empty, emptyAbove⟩ | ⟨_, _, ends, endsAbove, same⟩
    · rw [empty, emptyAbove]
      rw [emptyAbove, List.nil_append] at parts
      exact echo.line (parts ▸ unfinished)
    · rw [ends, endsAbove]
      exact same.stopLine

/-- What is skipped alone are the tokens skipped in the whole, up to their places. -/
theorem Echo.synchronize (level : SyncLevel) (echo : Echo lines tail state alone)
    (left : tail <:+ (state.synchronize level).2.rest) :
    (alone.synchronize level).1.map ErrorNode.unplaced =
        (state.synchronize level).1.map ErrorNode.unplaced ∧
      Echo lines tail (state.synchronize level).2 (alone.synchronize level).2 := by
  rcases echo.rest with ⟨front, whole, similar⟩
  have divided : DividesAlike (Lexeme.IsBelow lines) tail (level.skip 0 state.rest)
      (level.skip 0 alone.rest) := by
    rw [State.rest_synchronize, whole] at left
    rw [whole]
    exact level.skip_alike (fun _ _ same => same.token) 0 similar (.inl left)
  constructor
  · exact unplaced_ofTokens? divided.1
  · exact echo.passOver divided (level.skip_append 0 alone.rest)

theorem State.synchronize_of_empty (level : SyncLevel) (ended : state.rest = []) :
    (state.synchronize level).1 = none ∧ (state.synchronize level).2.rest = [] := by
  simp [State.synchronize, State.passOver, ended, SyncLevel.skip, ErrorNode.ofTokens?]

/-- At the end of the input a list goes on after an element, whatever the mode. -/
theorem resumes_of_empty (level : SyncLevel)
    (progress : alone.rest.length < startAlone.rest.length) (ended : alone.rest = []) :
    ∃ after, Resumes level startAlone alone none after ∧ after.rest = [] := by
  cases mode : alone.recovering with
  | false => exact ⟨alone, .onward progress mode, ended⟩
  | true =>
    rcases State.synchronize_of_empty level ended with ⟨nothing, left⟩
    refine ⟨(alone.synchronize level).2, ?_, left⟩
    rw [← nothing]
    exact .synchronized (.inl ⟨progress, mode⟩)

/-- A list that resumes in front of the tail resumes alone in the same way. -/
theorem Echo.resumes {node : Option ErrorNode} (begun : Echo lines tail start startAlone)
    (echo : Echo lines tail state alone) (resumes : Resumes level start state node next)
    (left : tail <:+ next.rest) :
    ∃ nodeAlone after, Resumes level startAlone alone nodeAlone after ∧
      nodeAlone.map ErrorNode.unplaced = node.map ErrorNode.unplaced ∧
      Echo lines tail next after := by
  have progress_iff : alone.rest.length < startAlone.rest.length ↔
      state.rest.length < start.rest.length := by
    rw [begun.length_rest, echo.length_rest, Nat.add_lt_add_iff_right]
  cases resumes with
  | onward progress normal =>
    by_cases ended : alone.rest = []
    · rcases resumes_of_empty level (progress_iff.mpr progress) ended with
        ⟨after, resumes, nothing⟩
      exact ⟨none, after, resumes, rfl, .of_rest_eq_tail (echo.rest_eq_tail ended) nothing⟩
    · exact ⟨none, alone,
        .onward (progress_iff.mpr progress) ((echo.mode ended).trans normal), rfl, echo⟩
  | synchronized cause =>
    rcases echo.synchronize level left with ⟨alike, synchronized⟩
    rcases cause with ⟨progress, recovering⟩ | ⟨idle, found⟩
    · by_cases ended : alone.rest = []
      · rcases resumes_of_empty level (progress_iff.mpr progress) ended with
          ⟨after, resumes, nothing⟩
        rcases State.synchronize_of_empty level ended with ⟨none, emptied⟩
        rw [none] at alike
        exact ⟨_, after, resumes, alike,
          .of_rest_eq_tail (synchronized.rest_eq_tail emptied) nothing⟩
      · exact ⟨_, _,
          .synchronized (.inl ⟨progress_iff.mpr progress, (echo.mode ended).trans recovering⟩),
          alike, synchronized⟩
    · refine ⟨_, _, .synchronized (.inr ⟨fun progress => idle (progress_iff.mp progress), ?_⟩),
        alike, synchronized⟩
      rw [← Option.isSome_map, alike, Option.isSome_map]
      exact found
  | @skippedOne lexeme rest idle stuck front =>
    have unfinished := echo.unfinished left (by rw [front]; exact Nat.lt_succ_self _)
    rcases echo.exists_first unfinished with
      ⟨first, remaining, above, restAbove, whole, part, same, others⟩
    rw [front] at whole
    rcases List.cons_eq_cons.mp whole with ⟨rfl, rfl⟩
    have stuckAlone : (alone.synchronize level).1 = none := by
      have synchronized := (echo.synchronize level (by
        rw [State.rest_synchronize, State.skip_of_stuck stuck, front]
        exact left.trans (List.suffix_cons ..))).1
      rw [stuck] at synchronized
      exact Option.map_eq_none_iff.mp synchronized
    refine ⟨_, _, .skippedOne (fun progress => idle (progress_iff.mp progress)) stuckAlone part,
      ?_, ?_⟩
    · simp [State.skipOne, ErrorNode.unplaced, same.token]
    · have divided : DividesAlike (Lexeme.IsBelow lines) tail ([lexeme], remaining ++ tail)
          ([above], restAbove) :=
        ⟨.cons same .nil, remaining, rfl, others⟩
      exact echo.passOver divided part.symm

end

end ScriptTree.Grammar
