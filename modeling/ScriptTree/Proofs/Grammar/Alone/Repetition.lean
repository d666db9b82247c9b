import ScriptTree.Proofs.Grammar.Alone.Echo
import ScriptTree.Proofs.Grammar.Phrase

/-!
# What is repeated alone

A production repeats itself if it reads the same from its lexemes alone, places
apart.  Once the lexemes are used up, both parses take nothing, so nothing but
stand-ins is read from there on.  What is left to show of each production is that
it takes the same path while there are lexemes.
-/

namespace ScriptTree.Grammar

/-- What is asked of a production so that it is read alone in the same way. -/
def Production.Admits (tail : List Lexeme) : Production → State → State → Prop
  | .elements isFirst, state, next =>
    (isFirst = false → state.recovering = false) ∧
      (next.rest = tail → next.recovering = false → next.isAt .rBrace = false)
  | .statement, state, _ | .statements, state, _ | .classItems, state, _ =>
    state.recovering = false
  | .classItem, state, next =>
    state.recovering = false ∧ state.rest ≠ tail ∧ (next.rest = tail → next.recovering = false)
  | .declaration, state, _ => state.rest ≠ tail
  | .declarations, _, _ => False
  | _, _, _ => True

/-- What ends in front of the tail is read alone too, places apart. -/
def Production.Repeated (lines : Nat) (tail : List Lexeme) (production : Production)
    (state : State) (value : production.Value) (next : State) : Prop :=
  ∀ ⦃alone : State⦄, Echo lines tail state alone → tail <:+ next.rest →
    production.Admits tail state next →
    ∃ valueAlone after, Reads production alone valueAlone after ∧
      production.unplaced valueAlone = production.unplaced value ∧ Echo lines tail next after

/-- What is read in front of the tail is read alone too. -/
def Derivation.Repeats (lines : Nat) (tail : List Lexeme) {production : Production}
    {state next : State} {value : production.Value}
    (_ : Reads production state value next) : Prop :=
  production.Repeated lines tail state value next

/-- What may idle is derived where it does. -/
theorem derives_of_mayIdle {production : Production} {state : State}
    (may : production.MayIdle state) : Derives production state := by
  apply derives_of_ne
  rintro rfl
  exact may

/-- Elements that end in front of a closing brace have taken something. -/
theorem Derivation.mayIdle {tail : List Lexeme} {production : Production} {state next : State}
    {value : production.Value} (reads : Reads production state value next)
    (admits : production.Admits tail state next) (begun : state.rest = tail)
    (left : next.rest = tail) : production.MayIdle state := by
  cases production with
  | elements isFirst =>
    intro later
    cases closes : state.isAt .rBrace with
    | false => rfl
    | true =>
      subst later
      cases reads with
      | elementsEnd => rw [← closes, admits.2 left (admits.1 rfl)]
      | elementsMissing goesOn | elementsLast goesOn | elementsNext goesOn =>
        rw [closes] at goesOn
        cases goesOn
  | statement => exact .inl admits
  | variableDeclaration =>
    have fewer := reads.fewer_variableDeclaration
    rw [begun, left] at fewer
    exact absurd fewer (Nat.lt_irrefl _)
  | classItem => exact absurd begun admits.2.1
  | declaration => exact absurd begun admits
  | declarations => exact admits
  | _ => trivial

/-- It is enough to read alone while lexemes are left: after that, nothing is taken. -/
theorem Derivation.Repeats.of_unfinished {lines : Nat} {tail : List Lexeme}
    {production : Production}
    {state next : State} {value : production.Value} {reads : Reads production state value next}
    (unfinished : ∀ ⦃alone : State⦄, alone.rest ≠ [] → Echo lines tail state alone →
      tail <:+ next.rest → production.Admits tail state next →
      ∃ valueAlone after, Reads production alone valueAlone after ∧
        production.unplaced valueAlone = production.unplaced value ∧
        Echo lines tail next after) :
    reads.Repeats lines tail := by
  intro alone echo left admits
  by_cases ended : alone.rest = []
  · have begun := echo.rest_eq_tail ended
    have idle : next.rest = tail := (begun ▸ reads.rest_suffix).eq_of_length
      (Nat.le_antisymm (begun ▸ reads.length_rest_le) left.length_le)
    have may := reads.mayIdle admits begun idle
    have mayAlone : production.MayIdle alone := by
      cases production with
      | elements isFirst =>
        intro _
        simp [State.isAt, State.peek, ended]
      | statement => exact .inr ended
      | variableDeclaration | classItem | declaration | declarations => exact may
      | _ => trivial
    rcases derives_of_mayIdle mayAlone with ⟨valueAlone, after, readsAlone⟩
    have endedAfter : after.rest = [] :=
      List.suffix_nil.mp (ended ▸ readsAlone.rest_suffix)
    refine ⟨valueAlone, after, readsAlone, ?_, .of_rest_eq_tail idle endedAfter⟩
    rw [readsAlone.unplaced_eq_standIn (Nat.le_of_eq (by rw [ended, endedAfter])) mayAlone,
      reads.unplaced_eq_standIn (Nat.le_of_eq (by rw [begun, idle])) may]
  · exact unfinished ended echo left admits

/-! ## Single tokens -/

section

variable {lines : Nat} {tail : List Lexeme} {state next : State}

theorem Derivation.repeats_optional {token : Token} {value : Option Range}
    (reads : Reads (.optional token) state value next) : reads.Repeats lines tail := by
  cases reads with refine .of_unfinished fun alone unfinished echo left admits => ?_
  | optionalTaken taken =>
    rcases echo.takes taken left with ⟨_, _, takenAlone, _, echo⟩
    exact ⟨_, _, .optionalTaken takenAlone, rfl, echo⟩
  | optionalAbsent declined => exact ⟨_, _, .optionalAbsent (echo.declines declined), rfl, echo⟩

theorem Derivation.repeats_expected {token : Token} {value : Option Range}
    (reads : Reads (.expected token) state value next) : reads.Repeats lines tail := by
  cases reads with refine .of_unfinished fun alone unfinished echo left admits => ?_
  | expectedTaken taken =>
    rcases echo.takes taken left with ⟨_, _, takenAlone, _, echo⟩
    exact ⟨_, _, .expectedTaken takenAlone, rfl, echo⟩
  | expectedMissing missed =>
    exact ⟨_, _, .expectedMissing (echo.misses unfinished missed), rfl, echo.fail _⟩
  | expectedIdle recovering =>
    exact ⟨_, _, .expectedIdle ((echo.mode unfinished).trans recovering), rfl, echo⟩

theorem Derivation.repeats_closingBrace {value : Option Range}
    (reads : Reads .closingBrace state value next) : reads.Repeats lines tail := by
  cases reads with refine .of_unfinished fun alone unfinished echo left admits => ?_
  | closingBraceTaken taken =>
    rcases echo.takes taken left with ⟨_, _, takenAlone, _, echo⟩
    exact ⟨_, _, .closingBraceTaken takenAlone, rfl, echo⟩
  | closingBraceMissing declined =>
    exact ⟨_, _, .closingBraceMissing (echo.declines declined), rfl, echo.fail _⟩

theorem Derivation.repeats_terminator {value : Option Range}
    (reads : Reads .terminator state value next) : reads.Repeats lines tail := by
  cases reads with refine .of_unfinished fun alone unfinished echo left admits => ?_
  | terminatorTaken taken =>
    rcases echo.takes taken left with ⟨_, _, takenAlone, _, echo⟩
    exact ⟨_, _, .terminatorTaken takenAlone, rfl, echo⟩
  | terminatorGranted missed opens =>
    rw [← echo.peek_eq unfinished] at opens
    exact ⟨_, _, .terminatorGranted (echo.misses unfinished missed) opens, rfl,
      echo.reportMissing _⟩
  | terminatorMissing missed plain =>
    exact ⟨_, _, .terminatorMissing (echo.misses unfinished missed) (echo.any_peek_eq_false plain),
      rfl, echo.fail _⟩
  | terminatorIdle recovering =>
    exact ⟨_, _, .terminatorIdle ((echo.mode unfinished).trans recovering), rfl, echo⟩

theorem Derivation.repeats_identifier {value : Identifier}
    (reads : Reads .identifier state value next) : reads.Repeats lines tail := by
  cases reads with refine .of_unfinished fun alone unfinished echo left admits => ?_
  | identifierTaken taken =>
    rcases echo.takes taken left with ⟨_, _, takenAlone, same, echo⟩
    refine ⟨_, _, .identifierTaken takenAlone, ?_, echo⟩
    simp [Production.unplaced, Identifier.unplaced, same.text]
  | identifierMissing missed =>
    exact ⟨_, _, .identifierMissing (echo.misses unfinished missed), rfl, echo.fail _⟩
  | identifierIdle recovering =>
    exact ⟨_, _, .identifierIdle ((echo.mode unfinished).trans recovering), rfl, echo⟩

theorem Derivation.repeats_directName {value : Identifier}
    (reads : Reads .directName state value next) : reads.Repeats lines tail := by
  cases reads with refine .of_unfinished fun alone unfinished echo left admits => ?_
  | nameTaken taken =>
    rcases echo.takes taken left with ⟨_, _, takenAlone, same, echo⟩
    refine ⟨_, _, .nameTaken takenAlone, ?_, echo⟩
    simp [Production.unplaced, Identifier.unplaced, same.text]
  | nameMissing declined =>
    exact ⟨_, _, .nameMissing (echo.declines declined), rfl, echo.fail _⟩

theorem Derivation.repeats_typeReference {value : TypeReference}
    (reads : Reads .typeReference state value next) : reads.Repeats lines tail := by
  cases reads with refine .of_unfinished fun alone unfinished echo left admits => ?_
  | typeTaken taken =>
    rcases echo.takes taken left with ⟨_, _, takenAlone, same, echo⟩
    refine ⟨_, _, .typeTaken takenAlone, ?_, echo⟩
    simp [Production.unplaced, TypeReference.unplaced, same.token, same.text]
  | typeMissing declined => exact ⟨_, _, .typeMissing (echo.declines declined), rfl, echo.fail _⟩

theorem Derivation.repeats_qualifier {value : Option (VariableKind × Range)}
    (reads : Reads .qualifier state value next) : reads.Repeats lines tail := by
  cases reads with refine .of_unfinished fun alone unfinished echo left admits => ?_
  | qualifierAbsent declined => exact ⟨_, _, .qualifierAbsent (echo.declines declined), rfl, echo⟩
  | qualifierWritten taken =>
    rcases echo.takes taken left with ⟨_, _, takenAlone, _, echo⟩
    exact ⟨_, _, .qualifierWritten takenAlone, rfl, echo⟩

end

end ScriptTree.Grammar
