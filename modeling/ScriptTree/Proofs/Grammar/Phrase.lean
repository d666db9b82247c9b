import ScriptTree.Proofs.Grammar.Motion

/-!
# Phrases

A phrase is a part of a statement or of the head of a declaration that holds no
statement.  Reading a phrase never rejects a lexeme, so where it starts to
recover, what is missing may not be taken for granted: the parse stalls.  The
statements of a block and the members of a class do not end in front of such a
lexeme, nor does the input.
-/

namespace ScriptTree.Grammar

variable {state next : State}

/-- Whether a production is one of those that read an expression. -/
def Production.isExpression : Production → Bool
  | .operation _ | .operators _ | .operand | .primary | .accesses | .arguments => true
  | _ => false

/-- Whether a production is one of those that read statements. -/
def Production.isStatement : Production → Bool
  | .block | .statements | .statement | .branch => true
  | _ => false

/-- A parse that recovers does so in front of a lexeme that admits no insertion. -/
def State.Stalls (state : State) : Prop :=
  state.recovering = true → state.admitsInsertion = false

theorem State.stalls_of_normal (normal : state.recovering = false) :
    state.Stalls := by
  intro recovering
  rw [normal] at recovering
  cases recovering

theorem State.admitsInsertion_eq {first second : State} (rest : first.rest = second.rest)
    (anchor : first.anchor = second.anchor) : first.admitsInsertion = second.admitsInsertion := by
  rw [State.admitsInsertion, State.admitsInsertion, rest, anchor]

theorem State.stalls_reportMissing (before : state.Stalls) (token : Token) :
    (state.reportMissing token).Stalls := by
  intro recovering
  rw [State.reportMissing, State.recovering_report] at recovering
  rw [← before recovering]
  exact State.admitsInsertion_eq (by simp) (State.anchor_report ..)

theorem State.stalls_fail (before : state.Stalls) (expected : Expectation) :
    (state.fail expected).Stalls := by
  intro recovering
  rw [State.admitsInsertion_eq (State.rest_fail ..) (State.anchor_fail ..)]
  rw [State.recovering_fail, Bool.or_eq_true] at recovering
  rcases recovering with recovering | refused
  · exact before recovering
  · simpa using refused

theorem Taking.stalls {α : Type} {recognize : Token → Option α} {value : α} {lexeme : Lexeme}
    (taken : Takes state recognize value lexeme next) : next.Stalls :=
  State.stalls_of_normal taken.normal_next

/-- A phrase stalls where it recovers. -/
theorem Derivation.stalls {production : Production} {state next : State} {value : production.Value}
    (reads : Reads production state value next) (phrase : production.isPhrase = true)
    (before : state.Stalls) : next.Stalls :=
  reads.keeps_of_isPhrase phrase
    { take := fun taken _ => taken.stalls
      fail := fun expected stalls => State.stalls_fail stalls expected
      reportMissing := fun token stalls => State.stalls_reportMissing stalls token }
    before

/-- What is missing may be taken for granted where the members of a class end. -/
theorem State.admitsInsertion_of_endsList (ends : endsList state = true) :
    state.admitsInsertion = true := by
  cases first : state.rest.head? with
  | none => simp [State.admitsInsertion, first]
  | some lexeme =>
    cases found : lexeme.token <;>
      simp_all [endsList, State.peek, State.admitsInsertion, Token.isTopLevelOnly,
        Token.isDeclarationKeyword]

theorem Derivation.stalls_classItem {value : Option ClassItem}
    (reads : Reads .classItem state value next) (normal : state.recovering = false)
    (moved : next.rest ≠ state.rest) : next.Stalls := by
  have before := State.stalls_of_normal normal
  cases reads with
  | classVariable readsDeclaration => exact readsDeclaration.stalls rfl before
  | classAbandoned _ readsTarget => exact readsTarget.stalls rfl before
  | classAssignment _ _ normalTarget readsTail =>
    exact readsTail.stalls rfl (State.stalls_of_normal (by simp [normalTarget]))
  | classRejected => exact absurd (State.rest_reject ..) moved

/-- A list that goes on takes a token. -/
theorem Derivation.fewer_classItems {value : List ClassItem}
    (reads : Reads .classItems state value next) (goesOn : endsList state = false) :
    next.rest.length < state.rest.length := by
  cases reads with
  | classItemsEnd ends =>
    rw [goesOn] at ends
    cases ends
  | classItemsNext _ readsItem resumes readsMore =>
    exact Nat.lt_of_le_of_lt readsMore.length_rest_le (resumes.fewer readsItem.length_rest_le)

/-- A list that leaves the parse recovering skips something, or it stays where it is. -/
theorem Resumes.fewer_or_stuck {level : SyncLevel} {start afterItem resumed : State}
    {skipped : Option ErrorNode} (resumes : Resumes level start afterItem skipped resumed)
    (recovering : afterItem.recovering = true) :
    resumed.rest.length < afterItem.rest.length ∨
      skipped = none ∧ resumed.rest = afterItem.rest := by
  cases resumes with
  | onward _ normal =>
    rw [recovering] at normal
    cases normal
  | synchronized =>
    cases found : (afterItem.synchronize level).1 with
    | none => exact .inr ⟨rfl, by rw [State.rest_synchronize, State.skip_of_stuck found]⟩
    | some node =>
      exact .inl (State.length_rest_synchronize_lt_of_isSome (Option.isSome_of_eq_some found))
  | skippedOne _ _ front =>
    left
    rw [front]
    exact Nat.lt_succ_self _

/-- After an abandoned target lexemes are skipped, or the members of the class go on. -/
theorem Derivation.fewer_after_abandoned {target : Expression} {skipped : Option ErrorNode}
    {more : List ClassItem} {afterItem resumed : State}
    (readsItem : Reads .classItem state (some (.abandoned target)) afterItem)
    (normal : state.recovering = false)
    (resumes : Resumes .statement state afterItem skipped resumed)
    (readsMore : Reads .classItems resumed more next) :
    next.rest.length < afterItem.rest.length := by
  cases readsItem with
  | classAbandoned _ readsTarget recovering =>
    rcases resumes.fewer_or_stuck recovering with fewer | ⟨_, same⟩
    · exact Nat.lt_of_le_of_lt readsMore.length_rest_le fewer
    · have refused := readsTarget.stalls rfl (State.stalls_of_normal normal) recovering
      rw [← same]
      apply readsMore.fewer_classItems
      cases ends : endsList resumed with
      | false => rfl
      | true =>
        rw [endsList, State.peek, same] at ends
        rw [State.admitsInsertion_of_endsList ends] at refused
        cases refused

end ScriptTree.Grammar
