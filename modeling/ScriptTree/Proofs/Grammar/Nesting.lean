import Mathlib.Data.List.Chain
import ScriptTree.Proofs.Grammar.Calls

/-!
# How deep calls are nested

Each call either has fewer lexemes left than its caller, or as many with a lower
rank.  So no loop goes round without taking a lexeme, calls that take nothing are
nested a few levels deep at most, and all nesting is bounded by the lexemes.
-/

namespace ScriptTree.Grammar

/-! ## Ranks -/

/-- How many calls below this one may go by without a lexeme being taken. -/
def Production.rank : Production → Nat
  | .statements | .classItems | .branch => 4
  | .statement | .classItem | .arguments | .elements _ | .initialValue | .condition => 3
  | .operation _ | .parameters | .declarations => 2
  | .operand | .parameter | .assignmentTail | .instanceBody _ | .declarationBody
  | .declaration => 1
  | _ => 0

namespace Call

variable {first second : Call}

/-- A call has fewer lexemes left than its caller, or as many on a lower rank. -/
def Descends (first second : Call) : Prop :=
  second.left < first.left ∨
    second.left = first.left ∧ second.production.rank < first.production.rank

theorem Descends.of_le (fewer : second.left ≤ first.left)
    (lower : second.production.rank < first.production.rank) : first.Descends second :=
  (Nat.lt_or_eq_of_le fewer).imp_right fun same => ⟨same, lower⟩

/-- What is called after a lexeme was taken has fewer lexemes left, whatever was read since. -/
theorem Descends.of_taken {α : Type} {state next : State} {recognize : Token → Option α}
    {value : α} {lexeme : Lexeme} {production : Production}
    (taken : Takes state recognize value lexeme next)
    (fewer : second.left ≤ next.rest.length) : Descends ⟨production, state⟩ second :=
  .inl (Nat.lt_of_le_of_lt fewer taken.fewer)

/-- A call takes over fewer lexemes than its caller had, or as many on a lower rank. -/
theorem Calls.descends (calls : Calls first second) : first.Descends second := by
  cases calls with
  | operationOperand | operandPrimary | argumentsItem | elementsItem | initialExpression
  | conditionPlain | statementsItem | statementVariable | statementBlock | statementExpression
  | branchBlock | branchStatement | instanceBlock | bodyBlock | parameterQualifier
  | parametersItem | classVariable | classTarget | classItemsItem | declarationVariable
  | declarationsItem => exact .of_le Nat.le.refl (by simp [Production.rank])
  | operatorsOperand taken | operandSigned taken | primaryInner taken | accessesInner taken
  | accessesName taken | accessesArguments taken | initialElements taken | arraySize taken
  | initializer taken | variableType taken | assignmentRight taken | blockItems taken
  | statementCondition taken | statementReturn taken | statementValue taken | parentName taken
  | parameterListItems taken | classBodyItems taken | instanceName taken | prototypeName taken
  | functionType taken | className taken => exact .of_taken taken Nat.le.refl
  | operatorsNext taken reads | primaryCloses taken reads | accessesCloses taken reads
  | accessesMember taken reads | initialCloses taken reads | arraySizeCloses taken reads
  | variableName taken reads | assignmentEnds taken reads | blockCloses taken reads
  | statementConsequence taken reads | parentCloses taken reads | classBodyCloses taken reads
  | instanceParent taken reads | prototypeOpens taken reads | functionName taken reads
  | classBody taken reads => exact .of_taken taken reads.length_rest_le
  | accessesCall taken _ reads | statementValueEnds taken _ reads =>
    exact .of_taken taken reads.length_rest_le
  | accessesIndex taken early late | variableSize taken early late
  | instanceBody taken early late | prototypeParent taken early late
  | functionParameters taken early late =>
    exact .of_taken taken (Nat.le_trans late.length_rest_le early.length_rest_le)
  | classSemicolon taken early _ late =>
    exact .of_taken taken (Nat.le_trans late.length_rest_le early.length_rest_le)
  | accessesEmptyCall taken closes =>
    exact .of_taken taken (Nat.le_of_lt closes.fewer)
  | statementAlternative taken early late otherwise =>
    exact .of_taken taken (Nat.le_trans (Nat.le_of_lt otherwise.fewer)
      (Nat.le_trans late.length_rest_le early.length_rest_le))
  | variableInitializer taken type name size | prototypeCloses taken type name size
  | functionBody taken type name size =>
    exact .of_taken taken (Nat.le_trans size.length_rest_le
      (Nat.le_trans name.length_rest_le type.length_rest_le))
  | variableEnds taken type name size initializer
  | prototypeBody taken type name size initializer =>
    exact .of_taken taken (Nat.le_trans initializer.length_rest_le (Nat.le_trans
      size.length_rest_le (Nat.le_trans name.length_rest_le type.length_rest_le)))
  | operationOperators reads | argumentsCloses reads | parameterType reads
  | parametersCloses reads => exact .of_le reads.length_rest_le (by simp [Production.rank])
  | operandAccesses _ reads | statementEnds _ reads =>
    exact .of_le reads.length_rest_le (by simp [Production.rank])
  | branchSemicolon _ _ reads | instanceSemicolon _ _ reads | bodySemicolon _ reads =>
    exact .of_le reads.length_rest_le (by simp [Production.rank])
  | parameterName qualifier type =>
    exact .of_le (Nat.le_trans type.length_rest_le qualifier.length_rest_le)
      (by simp [Production.rank])
  | assignmentUnsigned => exact .of_le (by simp [left]) (by simp [Production.rank])
  | conditionBare => exact .of_le (by simp [left]) (by simp [Production.rank])
  | statementAssignment _ reads | classAssignment _ reads =>
    exact .of_le (by simpa [left] using reads.length_rest_le) (by simp [Production.rank])
  | argumentsNext reads taken | parametersNext reads taken =>
    exact .inl (Nat.lt_of_lt_of_le taken.fewer reads.length_rest_le)
  | elementsNext _ reads _ taken =>
    exact .inl (Nat.lt_of_lt_of_le taken.fewer reads.length_rest_le)
  | statementsNext _ reads resumes | classItemsNext _ reads resumes
  | declarationsNext _ reads resumes => exact .inl (resumes.fewer reads.length_rest_le)

/-- A call counts the lexemes it may still take, and then its rank. -/
def measure (call : Call) : Nat :=
  5 * call.left + call.production.rank

theorem rank_le (production : Production) : production.rank ≤ 4 := by
  unfold Production.rank
  split <;> decide

theorem Calls.measure_lt (calls : Calls first second) : second.measure < first.measure := by
  have bound := rank_le second.production
  simp only [measure]
  rcases calls.descends with fewer | ⟨same, lower⟩ <;> omega

/-- Calls cannot be nested without end. -/
theorem wellFounded_calls : WellFounded fun second first => Calls first second :=
  Subrelation.wf Calls.measure_lt (InvImage.wf measure Nat.lt_wfRel.wf)

/-! ## Nested calls -/

/-- Where heights go down from call to call, no more calls are nested in one than it is high. -/
theorem length_le_height {height : Call → Nat} {outer : Call} {inner : List Call}
    (chain : (outer :: inner).IsChain fun first second => height second < height first) :
    inner.length ≤ height outer := by
  induction inner generalizing outer with
  | nil => exact Nat.zero_le _
  | cons next rest ih =>
    rw [List.isChain_cons_cons] at chain
    exact Nat.lt_of_le_of_lt (ih chain.2) chain.1

/-- How deep calls are nested is bounded by the lexemes that are left. -/
theorem length_le_of_isChain {outer : Call} {inner : List Call}
    (chain : (outer :: inner).IsChain Calls) : inner.length ≤ 5 * outer.left + 4 := by
  have nested := length_le_height (chain.imp fun _ _ calls => calls.measure_lt)
  exact Nat.le_trans nested (Nat.add_le_add_left (rank_le _) _)

/-- Where nested calls take nothing, there are four of them at most. -/
theorem length_le_of_idle {outer : Call} {inner : List Call}
    (chain : (outer :: inner).IsChain Calls) (idle : ∀ call ∈ inner, call.left = outer.left) :
    inner.length ≤ 4 := by
  have same : ∀ call ∈ outer :: inner, call.left = outer.left := by
    simpa using idle
  have lower : (outer :: inner).IsChain fun first second =>
      second.production.rank < first.production.rank := by
    apply chain.imp_of_mem_imp
    intro first second here there calls
    rcases calls.descends with fewer | ⟨_, lower⟩
    · rw [same first here, same second there] at fewer
      exact absurd fewer (Nat.lt_irrefl _)
    · exact lower
  exact Nat.le_trans (length_le_height lower) (rank_le _)

end Call

/-! ## Loops -/

/-- Whether two productions belong to one loop of the grammar. -/
def Production.sameLoop : Production → Production → Bool
  | .operators _, .operators _ | .accesses, .accesses | .arguments, .arguments
  | .elements _, .elements _ | .statements, .statements | .parameters, .parameters
  | .classItems, .classItems | .declarations, .declarations => true
  | _, _ => false

theorem Production.rank_eq_of_sameLoop {first second : Production}
    (loop : first.sameLoop second = true) : first.rank = second.rank := by
  unfold sameLoop at loop
  split at loop
  all_goals first | rfl | cases loop

/-- A loop takes a lexeme before it goes round again. -/
theorem Call.Calls.fewer_of_sameLoop {first second : Call} (calls : Calls first second)
    (loop : first.production.sameLoop second.production = true) : second.left < first.left := by
  rcases calls.descends with fewer | ⟨_, lower⟩
  · exact fewer
  · rw [Production.rank_eq_of_sameLoop loop] at lower
    exact absurd lower (Nat.lt_irrefl _)

end ScriptTree.Grammar
