import ScriptTree.Proofs.Grammar.Acceptance
import ScriptTree.Proofs.Grammar.Spacing
import ScriptTree.Proofs.Node.Terminators

/-!
# A parse without one semicolon

Two parses go along side by side, one of lexemes without any error, the other of
the same lexemes without one semicolon that ends a statement.  In front of the
semicolon they are in the same state but for the lexemes that are left.  At its
place the first parse takes it, and the second one reports that it is missing
and goes on.  Behind it the same lexemes are left.  What follows a semicolon
goes on with no expression, so what is read in front of it ends there also where
the semicolon is missing.
-/

namespace ScriptTree.Grammar

open Slot

/-- A semicolon that is left out, and the lexemes around it. -/
structure Omission where
  before : Lexeme
  semicolon : Lexeme
  next : Lexeme
  later : List Lexeme

namespace Omission

/-- The lexemes behind the semicolon. -/
def left (omission : Omission) : List Lexeme :=
  omission.next :: omission.later

/-- The place where the semicolon is missing. -/
def place (omission : Omission) : Range :=
  omission.before.range.after

/-- The report that the semicolon is missing. -/
def report (omission : Omission) : Diagnostic :=
  { range := omission.place, problem := .unmet (.tokens [.semicolon]) (some omission.next.token) }

/-- The missing semicolon is taken for granted, and nothing in front of it goes on. -/
structure IsHarmless (omission : Omission) : Prop where
  isSemicolon : omission.semicolon.token = .semicolon
  granted : omission.next.token ∈
      [.identifier, .kwIf, .kwReturn, .kwVar, .kwConst, .lBrace, .rBrace] ∨
    omission.before.range.stop.line < omission.next.range.start.line
  follows : followsSemicolon omission.next.token = true
  severed : omission.next.token ∉ [.lParen, .plus, .minus]
  elsewhere : ∀ lexeme ∈ omission.left, lexeme.range ≠ omission.semicolon.range

end Omission

theorem State.peek_ne_of_isAt {state : State} {token other : Token}
    (here : state.isAt token = true) (different : token ≠ other) : state.peek ≠ some other := by
  rw [show state.peek = some token from of_decide_eq_true here]
  exact fun same => different (Option.some.inj same)

/-- The state `other` is `state` without the semicolon, before it is due or after it was
reported. -/
inductive Lacks (omission : Omission) : State → State → Prop
  | ahead {state front} (rest : state.rest = front ++ omission.semicolon :: omission.left)
      (reaches : front.foldl (fun _ lexeme => lexeme.range.after) state.anchor = omission.place)
      (elsewhere : ∀ lexeme ∈ front, lexeme.range ≠ omission.semicolon.range) :
      Lacks omission state { state with rest := front ++ omission.left }
  | behind {state other} (rest : other.rest = state.rest) (part : state.rest <:+ omission.left)
      (normal : other.recovering = false) (reported : other.diagnostics = [omission.report]) :
      Lacks omission state other

namespace Lacks

/-- The two parses begin in front of all lexemes. -/
theorem ofLexemes (omission : Omission) (passed : List Lexeme)
    (elsewhere : ∀ lexeme ∈ passed ++ [omission.before],
      lexeme.range ≠ omission.semicolon.range) :
    Lacks omission (.ofLexemes (passed ++ omission.before :: omission.semicolon :: omission.left))
      (.ofLexemes (passed ++ omission.before :: omission.left)) := by
  rw [List.append_cons, List.append_cons _ omission.before omission.left]
  refine @ahead omission (.ofLexemes _) (passed ++ [omission.before]) rfl ?_ elsewhere
  rw [List.foldl_concat]
  rfl

variable {omission : Omission} {state next other : State}

/-- The semicolon is due. -/
structure Due (omission : Omission) (state other : State) : Prop where
  rest : state.rest = omission.semicolon :: omission.left
  same : other = { state with rest := omission.left }
  anchor : state.anchor = omission.place

/-- The semicolon is due, or the same lexeme comes next. -/
theorem due_or_same (lacks : Lacks omission state other) :
    Due omission state other ∨ other.rest.head? = state.rest.head? := by
  cases lacks with
  | @ahead front rest reaches =>
    cases front with
    | nil => exact .inl ⟨rest, rfl, reaches⟩
    | cons lexeme front =>
      refine .inr ?_
      rw [rest]
      rfl
  | behind rest => exact .inr (congrArg _ rest)

theorem normal (lacks : Lacks omission state other) (clean : state.Clean) :
    other.recovering = false := by
  cases lacks with
  | ahead => exact clean.normal
  | behind _ _ normal => exact normal

theorem peek_eq (lacks : Lacks omission state other) (harmless : omission.IsHarmless)
    (apart : state.peek ≠ some .semicolon) : other.peek = state.peek := by
  rcases lacks.due_or_same with due | same
  · refine absurd ?_ apart
    rw [State.peek, due.rest, List.head?_cons, Option.map_some, harmless.isSemicolon]
  · rw [State.peek, same, State.peek]

/-- What is taken is the semicolon, which is due then, or it stands elsewhere. -/
theorem due_or_elsewhere {α : Type} {recognize : Token → Option α} {value : α} {lexeme : Lexeme}
    (lacks : Lacks omission state other) (harmless : omission.IsHarmless)
    (taken : Takes state recognize value lexeme next) :
    Due omission state other ∨ lexeme.range ≠ omission.semicolon.range := by
  have front := taken.front
  cases lacks with
  | @ahead lexemes rest reaches elsewhere =>
    cases lexemes with
    | nil => exact .inl ⟨rest, rfl, reaches⟩
    | cons first lexemes =>
      rw [rest, List.cons_append, List.cons.injEq] at front
      exact .inr (front.1 ▸ elsewhere first List.mem_cons_self)
  | behind _ part =>
    exact .inr (harmless.elsewhere lexeme (part.subset taken.mem_rest))

/-- What is taken is taken in both parses, if it is not the semicolon. -/
theorem takes_of_ne {α : Type} {recognize : Token → Option α} {value : α} {lexeme : Lexeme}
    (lacks : Lacks omission state other) (taken : Takes state recognize value lexeme next)
    (different : lexeme ≠ omission.semicolon) :
    ∃ after, Takes other recognize value lexeme after ∧ Lacks omission next after := by
  rcases taken with ⟨normal, recognized, front, moved⟩
  cases lacks with
  | @ahead lexemes rest reaches elsewhere =>
    cases lexemes with
    | nil =>
      rw [rest, List.nil_append, List.cons.injEq] at front
      exact absurd front.1.symm different
    | cons first lexemes =>
      rw [rest, List.cons_append, List.cons.injEq] at front
      rcases front with ⟨rfl, remaining⟩
      refine ⟨{ next with rest := lexemes ++ omission.left }, ⟨normal, recognized, rfl, ?_⟩,
        .ahead remaining.symm ?_ fun lexeme member =>
          elsewhere lexeme (List.mem_cons_of_mem _ member)⟩
      · rw [moved]
        rfl
      · rw [moved]
        exact reaches
  | behind rest part normalOther reported =>
    refine ⟨other.advance lexeme next.rest, ⟨normalOther, recognized, rest.trans front, rfl⟩, ?_⟩
    refine .behind rfl ?_ normalOther reported
    exact (List.suffix_cons lexeme next.rest).trans (front ▸ part)

theorem takes {α : Type} {recognize : Token → Option α} {value : α} {lexeme : Lexeme}
    (lacks : Lacks omission state other) (harmless : omission.IsHarmless)
    (taken : Takes state recognize value lexeme next) (refused : recognize .semicolon = none) :
    ∃ after, Takes other recognize value lexeme after ∧ Lacks omission next after := by
  refine lacks.takes_of_ne taken ?_
  rintro rfl
  have recognized := taken.recognized
  rw [harmless.isSemicolon, refused] at recognized
  cases recognized

theorem declines_of_apart {α : Type} {recognize : Token → Option α}
    (lacks : Lacks omission state other) (harmless : omission.IsHarmless) (clean : state.Clean)
    (declined : Declines state recognize) (apart : state.peek ≠ some .semicolon) :
    Declines other recognize := by
  have same := lacks.peek_eq harmless apart
  refine declines_of_peek fun token found => ?_
  rw [same, State.peek, Option.map_eq_some_iff] at found
  rcases found with ⟨lexeme, first, rfl⟩
  exact declined clean.normal lexeme first

/-- Nothing is taken where the semicolon is missing that is not taken in front of it. -/
theorem declines {α : Type} {recognize : Token → Option α} (lacks : Lacks omission state other)
    (clean : state.Clean) (declined : Declines state recognize)
    (refused : recognize omission.next.token = none) : Declines other recognize := by
  intro _ lexeme member
  rcases lacks.due_or_same with due | same
  · rw [due.same] at member
    cases member
    exact refused
  · rw [same] at member
    exact declined clean.normal lexeme member

theorem isAt_eq (lacks : Lacks omission state other) (harmless : omission.IsHarmless)
    (apart : state.peek ≠ some .semicolon) (token : Token) :
    other.isAt token = state.isAt token := by
  rw [State.isAt, State.isAt, lacks.peek_eq harmless apart]

/-- A token that is not next, and does not come after the semicolon, is not next without it. -/
theorem isAt_eq_false {token : Token} (lacks : Lacks omission state other)
    (absent : state.isAt token = false) (different : omission.next.token ≠ token) :
    other.isAt token = false := by
  rcases lacks.due_or_same with due | same
  · rw [due.same]
    exact decide_eq_false fun found => different (Option.some.inj found)
  · rwa [State.isAt, State.peek, same, ← State.peek, ← State.isAt]

/-- What does not go on in one parse does not go on in the other one, if it does not go on after the
semicolon. -/
theorem any_peek_eq_false {test : Token → Bool} (lacks : Lacks omission state other)
    (plain : state.peek.any test = false)
    (refused : Due omission state other → test omission.next.token = false) :
    other.peek.any test = false := by
  rcases lacks.due_or_same with due | same
  · rw [due.same]
    exact refused due
  · rwa [State.peek, same, ← State.peek]

theorem any_peek_eq_true {test : Token → Bool} (lacks : Lacks omission state other)
    (harmless : omission.IsHarmless) (found : state.peek.any test = true)
    (refused : test .semicolon = false) : other.peek.any test = true := by
  have apart : state.peek ≠ some .semicolon := by
    intro here
    rw [here, Option.any_some, refused] at found
    cases found
  rwa [lacks.peek_eq harmless apart]

end Lacks

/-! ## What comes after a semicolon -/

namespace Omission.IsHarmless

variable {omission : Omission}

/-- The lexeme behind the semicolon neither goes on with an expression nor closes anything but a
brace. -/
theorem refuses (harmless : omission.IsHarmless) :
    BinaryOperator.ofToken? omission.next.token = none ∧
      Access.ofToken? omission.next.token = none ∧
      omission.next.token.isAssignmentOperator = false ∧
      omission.next.token.isError = false ∧
      ∀ token ∈ [Token.semicolon, .comma, .assign, .lParen, .rParen, .lBracket, .rBracket],
        omission.next.token ≠ token := by
  have all : ∀ token ∈ Token.all, followsSemicolon token = true →
      token ∉ [Token.lParen, .plus, .minus] →
      BinaryOperator.ofToken? token = none ∧ Access.ofToken? token = none ∧
        token.isAssignmentOperator = false ∧ token.isError = false ∧
        ∀ other ∈ [Token.semicolon, .comma, .assign, .lParen, .rParen, .lBracket, .rBracket],
          token ≠ other := by
    decide
  exact all _ (Token.mem_all _) harmless.follows harmless.severed

theorem refuses_operator (harmless : omission.IsHarmless) (power : Nat) :
    operatorFrom? power omission.next.token = none := by
  rw [operatorFrom?, harmless.refuses.1]
  rfl

theorem refuses_only (harmless : omission.IsHarmless) {token : Token}
    (listed : token ∈ [Token.semicolon, .comma, .assign, .lParen, .rParen, .lBracket, .rBracket]) :
    State.only token omission.next.token = none :=
  only_eq_none (harmless.refuses.2.2.2.2 token listed)

end Omission.IsHarmless

/-! ## What is read in front of the semicolon -/

/-- Where nothing is wrong, a production that is not empty takes something, and no semicolon
first. -/
theorem Derivation.apart {production : Production} {state next : State} {value : production.Value}
    (reads : Reads production state value next) (plain : production.IsPlain)
    (sound : state.Sound) (clean : next.Clean) {opens : Token → Bool}
    (closed : opens .semicolon = false)
    (begins : production.isComplete value = true →
      ∃ token, firstToken? (production.slots value) = some token ∧ opens token = true) :
    state.peek ≠ some .semicolon ∧ next.rest.length < state.rest.length := by
  rcases (reads.writes plain).written sound clean with ⟨complete, written⟩
  rcases begins complete with ⟨token, found, opened⟩
  refine ⟨?_, length_rest_lt_of_marks written (ne_nil_of_firstToken? found)⟩
  rw [peek_eq_of_marks written found]
  rintro ⟨⟩
  rw [closed] at opened
  cases opened

section

variable {state next : State}

theorem Derivation.apart_operation {power : Nat} {value : Expression}
    (reads : Reads (.operation power) state value next) (sound : state.Sound)
    (clean : next.Clean) : state.peek ≠ some .semicolon := by
  refine (@Derivation.apart _ _ _ _ reads trivial sound clean startsExpression rfl
    fun complete => ?_).1
  rcases Expression.exists_firstToken? complete with ⟨token, found, starts, -⟩
  exact ⟨token, found, starts⟩

theorem Derivation.apart_primary {value : Expression} (reads : Reads .primary state value next)
    (sound : state.Sound) (clean : next.Clean) : state.peek ≠ some .semicolon := by
  refine (@Derivation.apart _ _ _ _ reads trivial sound clean startsExpression rfl
    fun complete => ?_).1
  rcases Expression.exists_firstToken? complete with ⟨token, found, starts, -⟩
  exact ⟨token, found, starts⟩

theorem Derivation.apart_typeReference {value : TypeReference}
    (reads : Reads .typeReference state value next) (sound : state.Sound)
    (clean : next.Clean) : state.peek ≠ some .semicolon := by
  refine (@Derivation.apart _ _ _ _ reads trivial sound clean
    (fun token => (State.recognizeType token).isSome) rfl fun complete => ?_).1
  rcases TypeReference.exists_firstToken? complete with ⟨token, found, recognized⟩
  exact ⟨token, found, Option.isSome_iff_exists.mpr ⟨_, recognized⟩⟩

end

theorem operatorFrom?_semicolon (power : Nat) : operatorFrom? power .semicolon = none :=
  rfl

/-- A qualifier is only read in front of a type, so no semicolon is due there. -/
theorem Lacks.reads_qualifier {omission : Omission} (harmless : omission.IsHarmless)
    {state next other : State} {value : Option (VariableKind × Range)}
    (reads : Reads .qualifier state value next) (clean : state.Clean)
    (apart : next.peek ≠ some .semicolon) (lacks : Lacks omission state other) :
    ∃ after, Reads .qualifier other value after ∧ Lacks omission next after := by
  cases reads with
  | qualifierAbsent declined =>
    exact ⟨other, .qualifierAbsent (lacks.declines_of_apart harmless clean declined apart), lacks⟩
  | qualifierWritten taken =>
    rcases lacks.takes harmless taken rfl with ⟨after, taken, lacks⟩
    exact ⟨after, .qualifierWritten taken, lacks⟩

/-- The productions that are read inside of a statement or a heading, and take no semicolon. -/
def Production.isFragment : Production → Bool
  | .expected token => token ≠ .semicolon
  | .closingBrace | .identifier | .directName | .typeReference | .operation _ | .operators _
  | .operand | .primary
  | .accesses | .arguments | .elements _ | .initialValue | .arraySize | .initializer | .condition
  | .parentClause | .parameter | .parameters | .parameterList => true
  | _ => false

/-- What is read with nothing wrong is read without the semicolon, too. -/
def Omission.IsReread (omission : Omission) (production : Production) (state : State)
    (value : production.Value) (next : State) : Prop :=
  production.isFragment = true → state.Sound → next.Clean →
    ∀ ⦃other : State⦄, Lacks omission state other →
      ∃ after, Reads production other value after ∧ Lacks omission next after

section

variable {omission : Omission}

theorem isReread_expected (harmless : omission.IsHarmless) (token : Token) :
    (Production.expected token).Inherits State.Normal omission.IsReread := by
  intro state value next reads parts fragment sound clean other lacks
  cases parts with
  | expectedTaken taken =>
    have different : token ≠ .semicolon := by simpa [Production.isFragment] using fragment
    rcases lacks.takes harmless taken (only_eq_none different.symm) with ⟨after, taken, lacks⟩
    exact ⟨after, .expectedTaken taken, lacks⟩
  | expectedMissing => exact absurd clean (not_clean_fail _ _)
  | expectedIdle recovering =>
    rw [clean.normal] at recovering
    cases recovering

theorem isReread_closingBrace (harmless : omission.IsHarmless) :
    Production.closingBrace.Inherits State.Normal omission.IsReread := by
  intro state value next reads parts fragment sound clean other lacks
  cases parts with
  | closingBraceTaken taken =>
    rcases lacks.takes harmless taken rfl with ⟨after, taken, lacks⟩
    exact ⟨after, .closingBraceTaken taken, lacks⟩
  | closingBraceMissing => exact absurd clean (not_clean_fail _ _)

theorem isReread_identifier (harmless : omission.IsHarmless) :
    Production.identifier.Inherits State.Normal omission.IsReread := by
  intro state value next reads parts fragment sound clean other lacks
  cases parts with
  | identifierTaken taken =>
    rcases lacks.takes harmless taken rfl with ⟨after, taken, lacks⟩
    exact ⟨after, .identifierTaken taken, lacks⟩
  | identifierMissing => exact absurd clean (not_clean_fail _ _)
  | identifierIdle recovering =>
    rw [clean.normal] at recovering
    cases recovering

theorem isReread_directName (harmless : omission.IsHarmless) :
    Production.directName.Inherits State.Normal omission.IsReread := by
  intro state value next reads parts fragment sound clean other lacks
  cases parts with
  | nameTaken taken =>
    rcases lacks.takes harmless taken rfl with ⟨after, taken, lacks⟩
    exact ⟨after, .nameTaken taken, lacks⟩
  | nameMissing => exact absurd clean (not_clean_fail _ _)

theorem isReread_typeReference (harmless : omission.IsHarmless) :
    Production.typeReference.Inherits State.Normal omission.IsReread := by
  intro state value next reads parts fragment sound clean other lacks
  cases parts with
  | typeTaken taken =>
    rcases lacks.takes harmless taken rfl with ⟨after, taken, lacks⟩
    exact ⟨after, .typeTaken taken, lacks⟩
  | typeMissing => exact absurd clean (not_clean_fail _ _)

theorem isReread_operation (power : Nat) :
    (Production.operation power).Inherits State.Normal omission.IsReread := by
  intro state value next reads parts fragment sound clean other lacks
  cases parts with
  | operation readsOperand readsOperators _ operand _ operators =>
    have soundOperand := readsOperand.sound sound
    have cleanOperand := readsOperators.clean soundOperand clean
    rcases operand rfl sound cleanOperand lacks with ⟨_, readsOperand, lacks⟩
    rcases operators rfl soundOperand clean lacks with ⟨after, readsOperators, lacks⟩
    exact ⟨after, .operation readsOperand readsOperators, lacks⟩

theorem isReread_operators (harmless : omission.IsHarmless) (power : Nat) :
    (Production.operators power).Inherits State.Normal omission.IsReread := by
  intro state value next reads parts fragment sound clean other lacks
  cases parts with
  | operatorsEnd declined =>
    have refused := harmless.refuses_operator power
    exact ⟨_, .operatorsEnd (lacks.declines clean declined refused), lacks⟩
  | operatorsNext taken readsOperand readsMore _ operand _ more =>
    have soundSign := taken.sound sound
    have soundOperand := readsOperand.sound soundSign
    have cleanOperand := readsMore.clean soundOperand clean
    rcases lacks.takes harmless taken (operatorFrom?_semicolon power) with ⟨_, taken, lacks⟩
    rcases operand rfl soundSign cleanOperand lacks with ⟨_, readsOperand, lacks⟩
    rcases more rfl soundOperand clean lacks with ⟨after, readsMore, lacks⟩
    exact ⟨after, .operatorsNext taken readsOperand readsMore, lacks⟩

theorem isReread_operand (harmless : omission.IsHarmless) :
    Production.operand.Inherits State.Normal omission.IsReread := by
  intro state value next reads parts fragment sound clean other lacks
  cases parts with
  | operandSigned taken _ _ operand =>
    have soundSign := taken.sound sound
    rcases lacks.takes harmless taken rfl with ⟨_, taken, lacks⟩
    rcases operand rfl soundSign clean lacks with ⟨after, readsOperand, lacks⟩
    exact ⟨after, .operandSigned taken readsOperand, lacks⟩
  | operandPlain declined readsPrimary readsAccesses _ primary _ accesses =>
    have soundPrimary := readsPrimary.sound sound
    have cleanPrimary := readsAccesses.clean soundPrimary clean
    have apart := readsPrimary.apart_primary sound cleanPrimary
    have declinedOther :=
      lacks.declines_of_apart harmless (readsPrimary.clean sound cleanPrimary) declined apart
    rcases primary rfl sound cleanPrimary lacks with ⟨_, readsPrimary, lacks⟩
    rcases accesses rfl soundPrimary clean lacks with ⟨after, readsAccesses, lacks⟩
    exact ⟨after, .operandPlain declinedOther readsPrimary readsAccesses, lacks⟩

theorem isReread_primary (harmless : omission.IsHarmless) :
    Production.primary.Inherits State.Normal omission.IsReread := by
  intro state value next reads parts fragment sound clean other lacks
  cases parts with
  | primaryParenthesized taken readsInner closes _ inner _ closing =>
    have soundOpening := taken.sound sound
    have soundInner := readsInner.sound soundOpening
    have cleanInner := closes.clean soundInner clean
    rcases lacks.takes harmless taken rfl with ⟨_, taken, lacks⟩
    rcases inner rfl soundOpening cleanInner lacks with ⟨_, readsInner, lacks⟩
    rcases closing rfl soundInner clean lacks with ⟨after, closes, lacks⟩
    exact ⟨after, .primaryParenthesized taken readsInner closes, lacks⟩
  | primaryLiteral taken =>
    rcases lacks.takes harmless taken rfl with ⟨after, taken, lacks⟩
    exact ⟨after, .primaryLiteral taken, lacks⟩
  | primaryMissing => exact absurd clean (not_clean_fail _ _)

theorem isReread_accesses (harmless : omission.IsHarmless) :
    Production.accesses.Inherits State.Normal omission.IsReread := by
  intro state value next reads parts fragment sound clean other lacks
  cases parts with
  | accessesEnd declined =>
    exact ⟨_, .accessesEnd (lacks.declines clean declined harmless.refuses.2.1), lacks⟩
  | accessesIndex taken readsInner closes readsMore _ inner _ closing _ more =>
    have soundOpening := taken.sound sound
    have soundInner := readsInner.sound soundOpening
    have soundClosing := closes.sound soundInner
    have cleanClosing := readsMore.clean soundClosing clean
    have cleanInner := closes.clean soundInner cleanClosing
    rcases lacks.takes harmless taken rfl with ⟨_, taken, lacks⟩
    rcases inner rfl soundOpening cleanInner lacks with ⟨_, readsInner, lacks⟩
    rcases closing rfl soundInner cleanClosing lacks with ⟨_, closes, lacks⟩
    rcases more rfl soundClosing clean lacks with ⟨after, readsMore, lacks⟩
    exact ⟨after, .accessesIndex taken readsInner closes readsMore, lacks⟩
  | accessesMember taken readsName readsMore _ name _ more =>
    have soundDot := taken.sound sound
    have soundName := readsName.sound soundDot
    have cleanName := readsMore.clean soundName clean
    rcases lacks.takes harmless taken rfl with ⟨_, taken, lacks⟩
    rcases name rfl soundDot cleanName lacks with ⟨_, readsName, lacks⟩
    rcases more rfl soundName clean lacks with ⟨after, readsMore, lacks⟩
    exact ⟨after, .accessesMember taken readsName readsMore, lacks⟩
  | accessesEmptyCall taken closes readsMore _ more =>
    have soundClosing := closes.sound (taken.sound sound)
    rcases lacks.takes harmless taken rfl with ⟨_, taken, lacks⟩
    rcases lacks.takes harmless closes rfl with ⟨_, closes, lacks⟩
    rcases more rfl soundClosing clean lacks with ⟨after, readsMore, lacks⟩
    exact ⟨after, .accessesEmptyCall taken closes readsMore, lacks⟩
  | accessesCall taken filled readsArguments readsMore _ arguments _ more =>
    have soundOpening := taken.sound sound
    have soundArguments := readsArguments.sound soundOpening
    have cleanArguments := readsMore.clean soundArguments clean
    have noClosing := harmless.refuses.2.2.2.2 .rParen (by decide)
    rcases lacks.takes harmless taken rfl with ⟨_, taken, lacks⟩
    have filledOther := lacks.isAt_eq_false filled noClosing
    rcases arguments rfl soundOpening cleanArguments lacks with ⟨_, readsArguments, lacks⟩
    rcases more rfl soundArguments clean lacks with ⟨after, readsMore, lacks⟩
    exact ⟨after, .accessesCall taken filledOther readsArguments readsMore, lacks⟩

theorem isReread_arguments (harmless : omission.IsHarmless) :
    Production.arguments.Inherits State.Normal omission.IsReread := by
  intro state value next reads parts fragment sound clean other lacks
  cases parts with
  | argumentsLast readsArgument declined closes _ argument _ closing =>
    have soundArgument := readsArgument.sound sound
    have cleanArgument := closes.clean soundArgument clean
    have noComma := harmless.refuses_only (show Token.comma ∈ _ by decide)
    rcases argument rfl sound cleanArgument lacks with ⟨_, readsArgument, lacks⟩
    have declinedOther := lacks.declines cleanArgument declined noComma
    rcases closing rfl soundArgument clean lacks with ⟨after, closes, lacks⟩
    exact ⟨after, .argumentsLast readsArgument declinedOther closes, lacks⟩
  | argumentsTrailing readsArgument taken closes =>
    have soundAfterComma := taken.sound (readsArgument.sound sound)
    have before := closes.clean ((moves_fail ..).sound soundAfterComma) clean
    exact absurd before (not_clean_fail _ _)
  | argumentsNext readsArgument taken goesOn readsMore _ argument _ more =>
    have soundArgument := readsArgument.sound sound
    have soundComma := taken.sound soundArgument
    have cleanArgument := taken.clean soundArgument (readsMore.clean soundComma clean)
    have noClosing := harmless.refuses.2.2.2.2 .rParen (by decide)
    rcases argument rfl sound cleanArgument lacks with ⟨_, readsArgument, lacks⟩
    rcases lacks.takes harmless taken rfl with ⟨_, taken, lacks⟩
    have goesOnOther := lacks.isAt_eq_false goesOn noClosing
    rcases more rfl soundComma clean lacks with ⟨after, readsMore, lacks⟩
    exact ⟨after, .argumentsNext readsArgument taken goesOnOther readsMore, lacks⟩

theorem isReread_elements (harmless : omission.IsHarmless) (isFirst : Bool) :
    (Production.elements isFirst).Inherits State.Normal omission.IsReread := by
  intro state value next reads parts fragment sound clean other lacks
  cases parts with
  | elementsEnd ends =>
    have apart := State.peek_ne_of_isAt ends (show Token.rBrace ≠ .semicolon by decide)
    exact ⟨other, .elementsEnd ((lacks.isAt_eq harmless apart _).trans ends), lacks⟩
  | elementsMissing _ readsElement missing =>
    have complete := (readsElement.isComplete_of_clean trivial sound clean)
    exact absurd complete (not_isComplete_of_isMissing missing)
  | elementsLast goesOn readsElement present declined _ element =>
    have same := lacks.isAt_eq harmless (readsElement.apart_operation sound clean) .rBrace
    rcases element rfl sound clean lacks with ⟨after, readsElement, lacks⟩
    exact ⟨after, .elementsLast (same ▸ goesOn) readsElement present
      (lacks.declines clean declined (harmless.refuses_only (by decide))), lacks⟩
  | elementsNext goesOn readsElement present taken readsMore _ element _ more =>
    have soundElement := readsElement.sound sound
    have soundRest := taken.sound soundElement
    have cleanElement := taken.clean soundElement (readsMore.clean soundRest clean)
    have same := lacks.isAt_eq harmless (readsElement.apart_operation sound cleanElement) .rBrace
    rcases element rfl sound cleanElement lacks with ⟨_, readsElement, lacks⟩
    rcases lacks.takes harmless taken rfl with ⟨_, taken, lacks⟩
    rcases more rfl soundRest clean lacks with ⟨after, readsMore, lacks⟩
    exact ⟨after, .elementsNext (same ▸ goesOn) readsElement present taken readsMore, lacks⟩

theorem isReread_initialValue (harmless : omission.IsHarmless) :
    Production.initialValue.Inherits State.Normal omission.IsReread := by
  intro state value next reads parts fragment sound clean other lacks
  cases parts with
  | initialElements taken readsElements closes _ elements _ closing =>
    have soundOpening := taken.sound sound
    have soundElements := readsElements.sound soundOpening
    have cleanElements := closes.clean soundElements clean
    rcases lacks.takes harmless taken rfl with ⟨_, taken, lacks⟩
    rcases elements rfl soundOpening cleanElements lacks with ⟨_, readsElements, lacks⟩
    rcases closing rfl soundElements clean lacks with ⟨after, closes, lacks⟩
    exact ⟨after, .initialElements taken readsElements closes, lacks⟩
  | initialExpression declined readsValue _ value =>
    have apart := readsValue.apart_operation sound clean
    have declinedOther :=
      lacks.declines_of_apart harmless (readsValue.clean sound clean) declined apart
    rcases value rfl sound clean lacks with ⟨after, readsValue, lacks⟩
    exact ⟨after, .initialExpression declinedOther readsValue, lacks⟩

theorem isReread_arraySize (harmless : omission.IsHarmless) :
    Production.arraySize.Inherits State.Normal omission.IsReread := by
  intro state value next reads parts fragment sound clean other lacks
  cases parts with
  | arraySizeAbsent declined =>
    have refused := harmless.refuses_only (show Token.lBracket ∈ _ by decide)
    exact ⟨_, .arraySizeAbsent (lacks.declines clean declined refused), lacks⟩
  | arraySizeWritten taken readsSize closes _ size _ closing =>
    have soundOpening := taken.sound sound
    have soundSize := readsSize.sound soundOpening
    have cleanSize := closes.clean soundSize clean
    rcases lacks.takes harmless taken rfl with ⟨_, taken, lacks⟩
    rcases size rfl soundOpening cleanSize lacks with ⟨_, readsSize, lacks⟩
    rcases closing rfl soundSize clean lacks with ⟨after, closes, lacks⟩
    exact ⟨after, .arraySizeWritten taken readsSize closes, lacks⟩

theorem isReread_initializer (harmless : omission.IsHarmless) :
    Production.initializer.Inherits State.Normal omission.IsReread := by
  intro state value next reads parts fragment sound clean other lacks
  cases parts with
  | initializerAbsent declined =>
    have refused := harmless.refuses_only (show Token.assign ∈ _ by decide)
    exact ⟨_, .initializerAbsent (lacks.declines clean declined refused), lacks⟩
  | initializerWritten taken _ _ value =>
    have soundSign := taken.sound sound
    rcases lacks.takes harmless taken rfl with ⟨_, taken, lacks⟩
    rcases value rfl soundSign clean lacks with ⟨after, readsValue, lacks⟩
    exact ⟨after, .initializerWritten taken readsValue, lacks⟩

theorem isReread_condition (harmless : omission.IsHarmless) :
    Production.condition.Inherits State.Normal omission.IsReread := by
  intro state value next reads parts fragment sound clean other lacks
  cases parts with
  | conditionBare _ _ readsCondition =>
    have before := readsCondition.clean ((moves_reportMissing ..).sound sound) clean
    exact absurd before (not_clean_reportMissing _ _)
  | conditionPlain plainly readsCondition _ condition =>
    have apart := readsCondition.apart_operation sound clean
    rw [← lacks.isAt_eq harmless apart, ← lacks.peek_eq harmless apart] at plainly
    rcases condition rfl sound clean lacks with ⟨after, readsCondition, lacks⟩
    exact ⟨after, .conditionPlain plainly readsCondition, lacks⟩

theorem isReread_parentClause (harmless : omission.IsHarmless) :
    Production.parentClause.Inherits State.Normal omission.IsReread := by
  intro state value next reads parts fragment sound clean other lacks
  cases parts with
  | parentAbsent declined =>
    have refused := harmless.refuses_only (show Token.lParen ∈ _ by decide)
    exact ⟨_, .parentAbsent (lacks.declines clean declined refused), lacks⟩
  | parentWritten taken readsName closes _ name _ closing =>
    have soundOpening := taken.sound sound
    have soundName := readsName.sound soundOpening
    have cleanName := closes.clean soundName clean
    rcases lacks.takes harmless taken rfl with ⟨_, taken, lacks⟩
    rcases name rfl soundOpening cleanName lacks with ⟨_, readsName, lacks⟩
    rcases closing rfl soundName clean lacks with ⟨after, closes, lacks⟩
    exact ⟨after, .parentWritten taken readsName closes, lacks⟩

theorem isReread_parameter (harmless : omission.IsHarmless) :
    Production.parameter.Inherits State.Normal omission.IsReread := by
  intro state value next reads parts fragment sound clean other lacks
  cases parts with
  | parameter readsQualifier readsType readsName _ _ _ type _ name =>
    have soundQualifier := readsQualifier.sound sound
    have soundType := readsType.sound soundQualifier
    have cleanType := readsName.clean soundType clean
    have cleanQualifier := readsType.clean soundQualifier cleanType
    have apart := readsType.apart_typeReference soundQualifier cleanType
    rcases lacks.reads_qualifier harmless readsQualifier
      (readsQualifier.clean sound cleanQualifier) apart with ⟨_, readsQualifier, lacks⟩
    rcases type rfl soundQualifier cleanType lacks with ⟨_, readsType, lacks⟩
    rcases name rfl soundType clean lacks with ⟨after, readsName, lacks⟩
    exact ⟨after, .parameter readsQualifier readsType readsName, lacks⟩

theorem isReread_parameters (harmless : omission.IsHarmless) :
    Production.parameters.Inherits State.Normal omission.IsReread := by
  intro state value next reads parts fragment sound clean other lacks
  cases parts with
  | parametersLast readsItem declined closes _ item _ closing =>
    have soundItem := readsItem.sound sound
    have cleanItem := closes.clean soundItem clean
    have noComma := harmless.refuses_only (show Token.comma ∈ _ by decide)
    rcases item rfl sound cleanItem lacks with ⟨_, readsItem, lacks⟩
    have declinedOther := lacks.declines cleanItem declined noComma
    rcases closing rfl soundItem clean lacks with ⟨after, closes, lacks⟩
    exact ⟨after, .parametersLast readsItem declinedOther closes, lacks⟩
  | parametersTrailing readsArgument taken closes =>
    have soundAfterComma := taken.sound (readsArgument.sound sound)
    have before := closes.clean ((moves_fail ..).sound soundAfterComma) clean
    exact absurd before (not_clean_fail _ _)
  | parametersNext readsItem taken goesOn readsMore _ item _ more =>
    have soundItem := readsItem.sound sound
    have soundComma := taken.sound soundItem
    have cleanItem := taken.clean soundItem (readsMore.clean soundComma clean)
    have noClosing := harmless.refuses.2.2.2.2 .rParen (by decide)
    rcases item rfl sound cleanItem lacks with ⟨_, readsItem, lacks⟩
    rcases lacks.takes harmless taken rfl with ⟨_, taken, lacks⟩
    have goesOnOther := lacks.isAt_eq_false goesOn noClosing
    rcases more rfl soundComma clean lacks with ⟨after, readsMore, lacks⟩
    exact ⟨after, .parametersNext readsItem taken goesOnOther readsMore, lacks⟩

theorem isReread_parameterList (harmless : omission.IsHarmless) :
    Production.parameterList.Inherits State.Normal omission.IsReread := by
  intro state value next reads parts fragment sound clean other lacks
  cases parts with
  | parameterListIdle recovering =>
    rw [clean.normal] at recovering
    cases recovering
  | parameterListMissing => exact absurd clean (not_clean_fail _ _)
  | parameterListEmpty taken closes =>
    rcases lacks.takes harmless taken rfl with ⟨_, taken, lacks⟩
    rcases lacks.takes harmless closes rfl with ⟨after, closes, lacks⟩
    exact ⟨after, .parameterListEmpty taken closes, lacks⟩
  | parameterListFilled taken filled _ _ parameters =>
    have soundOpening := taken.sound sound
    have noClosing := harmless.refuses.2.2.2.2 .rParen (by decide)
    rcases lacks.takes harmless taken rfl with ⟨_, taken, lacks⟩
    have filledOther := lacks.isAt_eq_false filled noClosing
    rcases parameters rfl soundOpening clean lacks with ⟨after, readsParameters, lacks⟩
    exact ⟨after, .parameterListFilled taken filledOther readsParameters, lacks⟩

/-- Any fragment is read without the semicolon if its parts are. -/
theorem Production.inherits_isReread (harmless : omission.IsHarmless) (production : Production) :
    production.Inherits State.Normal omission.IsReread := by
  cases production with
  | expected token => exact isReread_expected harmless token
  | closingBrace => exact isReread_closingBrace harmless
  | identifier => exact isReread_identifier harmless
  | directName => exact isReread_directName harmless
  | typeReference => exact isReread_typeReference harmless
  | operation power => exact isReread_operation power
  | operators power => exact isReread_operators harmless power
  | operand => exact isReread_operand harmless
  | primary => exact isReread_primary harmless
  | accesses => exact isReread_accesses harmless
  | arguments => exact isReread_arguments harmless
  | elements isFirst => exact isReread_elements harmless isFirst
  | initialValue => exact isReread_initialValue harmless
  | arraySize => exact isReread_arraySize harmless
  | initializer => exact isReread_initializer harmless
  | condition => exact isReread_condition harmless
  | parentClause => exact isReread_parentClause harmless
  | parameter => exact isReread_parameter harmless
  | parameters => exact isReread_parameters harmless
  | parameterList => exact isReread_parameterList harmless
  | optional | terminator | variableDeclaration | assignmentTail | block | statements | statement
  | branch | instanceBody | declarationBody | qualifier | classItem | classItems | classBody
  | declaration | declarations =>
    intro state value next reads parts fragment
    cases fragment

/-- Where nothing is wrong, what is read inside of a statement is the same without the semicolon. -/
theorem Lacks.reads_fragment (harmless : omission.IsHarmless) {production : Production}
    {state next other : State} {value : production.Value}
    (reads : Reads production state value next) (fragment : production.isFragment = true)
    (sound : state.Sound) (clean : next.Clean) (lacks : Lacks omission state other) :
    ∃ after, Reads production other value after ∧ Lacks omission next after :=
  reads.of_inherits (Production.inherits_isReread harmless) fragment sound clean lacks

end

end ScriptTree.Grammar
