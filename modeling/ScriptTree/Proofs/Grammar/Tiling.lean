import ScriptTree.Proofs.Grammar.Coverage
import ScriptTree.Proofs.Grammar.Fitting
import ScriptTree.Proofs.Node.Tiling

/-!
# What productions yield tiles

A production fills the way from where the parse was before it to where the parse
is after it: nothing that it took stays behind its last part.  What it misses
stands where the parse is, and takes no room.

A production that takes nothing leaves the parse stranded.  Then the parse
recovers, or what is missing was taken for granted because of what follows.  An
operator is no such lexeme unless it stands on a later line, and this is the one
way in which a node opens with something that is missing.
-/

namespace ScriptTree.Grammar

open ScriptTree.Part

/-- The lexemes of a state have some width and stand where the lines of their source place them. -/
structure State.Located (index : LineIndex) (state : State) : Prop where
  ordered : state.Ordered
  settled : state.Settled
  wide : ∀ lexeme ∈ state.rest, lexeme.range.span.start < lexeme.range.span.stop
  placed : ∀ lexeme ∈ state.rest, index.range lexeme.range.span = lexeme.range
  anchored : state.anchor.start.line = (index.position state.offset).line

section

variable {index : LineIndex} {state next : State}

theorem Move.located (move : Move state next) (located : state.Located index) :
    next.Located index := by
  have rest := move.rest_suffix.subset
  refine ⟨move.ordered located.ordered, ⟨move.spelled located.settled.spelled,
    move.anchored located.settled.anchored⟩, fun lexeme member =>
    located.wide lexeme (rest member), fun lexeme member =>
    located.placed lexeme (rest member), ?_⟩
  have ends : ∀ lexeme ∈ state.rest,
      lexeme.range.stop.line = (index.position lexeme.range.span.stop).line :=
    fun lexeme member => (congrArg (·.stop.line) (located.placed lexeme member)).symm
  cases move with
  | take _ front => exact ends _ (front ▸ List.mem_cons_self)
  | report | fail | reject => simpa using located.anchored
  | rejectTarget => exact located.anchored
  | @passOver skipped rest front =>
    rw [State.offset]
    simp only [State.passOver]
    cases last : skipped.getLast? with
    | none => exact located.anchored
    | some lexeme =>
      exact ends lexeme (front ▸ List.mem_append_left _ (List.mem_of_getLast? last))

theorem Moves.located (moves : Moves state next) (located : state.Located index) :
    next.Located index :=
  moves.keeps (fun move => move.located) located

theorem Taking.located {α : Type} {recognize : Token → Option α} {value : α} {lexeme : Lexeme}
    (taken : Takes state recognize value lexeme next) (located : state.Located index) :
    next.Located index :=
  taken.moves.located located

theorem Derivation.located {production : Production} {value : production.Value}
    (reads : Reads production state value next) (located : state.Located index) :
    next.Located index :=
  reads.moves.located located

theorem Resumes.located {level : SyncLevel} {start : State} {skipped : Option ErrorNode}
    (resumes : Resumes level start state skipped next) (located : state.Located index) :
    next.Located index :=
  resumes.moves.located located

theorem State.Located.fail (located : state.Located index) (expected : Expectation) :
    (state.fail expected).Located index :=
  (moves_fail state expected).located located

theorem State.Located.reportMissing (located : state.Located index) (token : Token) :
    (state.reportMissing token).Located index :=
  (moves_reportMissing state token).located located

theorem State.Located.checkTarget (located : state.Located index) (target : Expression) :
    (state.checkTarget target).Located index :=
  (moves_checkTarget state target).located located

/-- A parse that takes a lexeme goes on by its width. -/
theorem Taking.offset_lt {α : Type} {recognize : Token → Option α} {value : α} {lexeme : Lexeme}
    (taken : Takes state recognize value lexeme next) (located : state.Located index) :
    state.offset < next.offset := by
  have fits := taken.fits located.ordered
  exact Nat.lt_of_le_of_lt fits.low_le
    (Nat.lt_of_lt_of_le (located.wide lexeme taken.mem_rest) fits.le_high)

theorem Taking.fills {α : Type} {recognize : Token → Option α} {value : α} {lexeme : Lexeme}
    (taken : Takes state recognize value lexeme next) (located : state.Located index) :
    lexeme.range.Fills state.offset next.offset where
  low_le := (taken.fits located.ordered).low_le
  forward := (taken.fits located.ordered).forward
  stop_eq := by
    rw [taken.moved]
    rfl
  wide := fun _ => located.wide lexeme taken.mem_rest

theorem Taking.tile {α : Type} {recognize : Token → Option α} {value : α} {lexeme : Lexeme}
    (taken : Takes state recognize value lexeme next) (located : state.Located index)
    {token : Token} : Tile state.offset next.offset [.token ⟨token, lexeme.range⟩] :=
  tile_token (taken.fills located) (taken.offset_lt located)

theorem State.Located.fills_anchor (located : state.Located index) :
    state.anchor.Fills state.offset state.offset where
  low_le := Nat.le_of_eq located.ordered.anchored.symm
  forward := Nat.le_of_eq located.ordered.anchored
  stop_eq := rfl
  wide := fun lt => absurd lt (Nat.lt_irrefl _)

theorem State.Located.fills_fail (located : state.Located index) (expected : Expectation) :
    state.anchor.Fills state.offset (state.fail expected).offset := by
  rw [State.offset_fail]
  exact located.fills_anchor

/-- What is missing stands where the parse is. -/
theorem State.Located.laid_anchor (located : state.Located index) {content : Content} :
    (Assembly.leaf content state.anchor).Laid state.offset state.offset :=
  Assembly.laid_standIn located.fills_anchor rfl

theorem State.Located.laid_fail (located : state.Located index) (expected : Expectation)
    (content : Content) :
    (Assembly.leaf content state.anchor).Laid state.offset (state.fail expected).offset := by
  rw [State.offset_fail]
  exact located.laid_anchor

/-- A parse that passes over a lexeme goes on. -/
theorem Move.offset_lt (move : Move state next) (located : state.Located index)
    (fewer : next.rest.length < state.rest.length) : state.offset < next.offset := by
  have follow := located.ordered.follow
  cases move with
  | @take lexeme _ _ front =>
    rw [front] at follow
    exact Nat.lt_of_le_of_lt follow.1 (located.wide lexeme (front ▸ List.mem_cons_self))
  | report | fail | reject | rejectTarget => simp at fewer
  | @passOver skipped rest front =>
    rw [front] at follow
    cases skipped with
    | nil =>
      rw [front] at fewer
      exact absurd fewer (Nat.lt_irrefl _)
    | cons first others =>
      have reached := (Lexeme.follow_append_iff.mp follow.2.2).1.le_endOf
      have wide := located.wide first (front ▸ List.mem_cons_self)
      have ends : (state.passOver (first :: others) rest).offset =
          Lexeme.endOf first.range.span.stop others := by
        rw [← Lexeme.endOf_cons state.offset, Lexeme.endOf]
        cases last : (first :: others).getLast? with
        | none => simp at last
        | some final => simp [State.offset, State.passOver, last, Range.after, Range.emptyAt]
      rw [ends]
      exact Nat.lt_of_le_of_lt follow.1 (Nat.lt_of_lt_of_le wide reached)

theorem Moves.offset_lt (moves : Moves state next) (located : state.Located index)
    (fewer : next.rest.length < state.rest.length) : state.offset < next.offset := by
  have kept := moves.keeps
    (motive := fun later => later.Located index ∧ later.rest.length ≤ state.rest.length ∧
      state.offset ≤ later.offset ∧
      (later.rest.length < state.rest.length → state.offset < later.offset))
    (fun {early late} move before => ?_)
    ⟨located, Nat.le_refl _, Nat.le_refl _, fun lt => absurd lt (Nat.lt_irrefl _)⟩
  · exact kept.2.2.2 fewer
  · rcases before with ⟨located, le, offset, strict⟩
    have shorter := move.rest_suffix.length_le
    have onward := move.offset_le located.ordered
    refine ⟨move.located located, Nat.le_trans shorter le, Nat.le_trans offset onward, ?_⟩
    intro lt
    by_cases here : late.rest.length < early.rest.length
    · exact Nat.lt_of_le_of_lt offset (move.offset_lt located here)
    · exact Nat.lt_of_lt_of_le (strict (by omega)) onward

/-! ## Operands that were not found -/

/-- A parse after an operand that it did not find: it recovers, or it took the operand for granted,
in front of something other than an opening parenthesis. -/
def State.Stranded (state : State) : Prop :=
  state.recovering = false → state.admitsInsertion = true ∧ state.isAt .lParen = false

theorem State.stranded_fail (noOpening : Declines state (State.only .lParen))
    (expected : Expectation) : (state.fail expected).Stranded := by
  intro normal
  rw [State.recovering_fail, Bool.or_eq_false_iff] at normal
  rcases normal with ⟨normal, admitted⟩
  rw [State.admitsInsertion_eq (State.rest_fail ..) (State.anchor_fail ..), State.isAt, State.peek,
    State.rest_fail]
  refine ⟨by simpa using admitted, ?_⟩
  cases first : state.rest.head? with
  | none => rfl
  | some lexeme =>
    have refused := noOpening normal lexeme first
    by_cases found : lexeme.token = .lParen
    · rw [found] at refused
      cases refused
    · simpa using found

/-- Tokens in front of which something missing is taken for granted wherever they stand. -/
def grantsInsertion : Token → Bool
  | .semicolon | .rBrace | .rParen | .rBracket | .lBrace => true
  | other => other.isDeclarationKeyword

theorem State.admitsInsertion_of_front {lexeme : Lexeme} (front : state.rest.head? = some lexeme) :
    state.admitsInsertion =
      (grantsInsertion lexeme.token ||
        decide (state.anchor.start.line < lexeme.range.start.line)) := by
  rw [State.admitsInsertion, front]
  cases found : lexeme.token <;> simp [found, grantsInsertion]

theorem grantsInsertion_operator (operator : BinaryOperator) :
    grantsInsertion operator.token = false := by
  cases operator <;> rfl

/-- What a stranded parse takes stands on a later line, away from what was taken before. -/
theorem Taking.apart_of_stranded {α : Type} {recognize : Token → Option α} {value : α}
    {lexeme : Lexeme} (taken : Takes state recognize value lexeme next)
    (located : state.Located index) (stranded : state.Stranded)
    (plain : grantsInsertion lexeme.token = false) :
    state.offset < lexeme.range.span.start := by
  have front : state.rest.head? = some lexeme := by
    rw [taken.front]
    rfl
  have admitted := (stranded taken.normal).1
  rw [State.admitsInsertion_of_front front, plain, Bool.false_or, decide_eq_true_eq,
    located.anchored, ← located.placed lexeme taken.mem_rest] at admitted
  refine Nat.lt_of_le_of_ne (taken.fits located.ordered).low_le fun same => ?_
  rw [same] at admitted
  exact Nat.lt_irrefl _ admitted

/-- An expression that was read from an offset on; where nothing was taken for it, the parse is
stranded. -/
structure Rests (start : Nat) (state : State) (expression : Expression) : Prop where
  laid : expression.assembly.Laid start state.offset
  stranded : start = state.offset → state.Stranded

theorem Rests.of_lt {start : Nat} {expression : Expression}
    (laid : expression.assembly.Laid start state.offset ∧ start < state.offset) :
    Rests start state expression :=
  ⟨laid.1, fun same => absurd same (Nat.ne_of_lt laid.2)⟩

/-- What is called is there, since a stranded parse is not in front of an opening parenthesis. -/
theorem Rests.lt_of_call {start : Nat} {function : Expression} {opening : Lexeme}
    (rests : Rests start state function)
    (taken : Takes state Access.ofToken? .arguments opening next) : start < state.offset := by
  refine Nat.lt_of_le_of_ne rests.laid.le fun same => ?_
  have found := Access.ofToken?_eq_some_iff.mp taken.recognized
  have refused := (rests.stranded same taken.normal).2
  simp [State.isAt, State.peek, taken.front, ← found, Access.token] at refused

theorem State.startsExpression_of_isAt (opens : state.isAt .identifier = true) :
    state.peek.any startsExpression = true := by
  rw [of_decide_eq_true opens]
  rfl

/-- Where no type was found, no name is found either. -/
theorem Derivation.offset_eq_after_type {type : TypeReference} {name : Identifier} {between : State}
    (readsName : Reads .identifier between name next)
    (readsType : Reads .typeReference state type between) (located : state.Located index)
    (stays : state.offset = between.offset) : between.offset = next.offset := by
  cases readsName with
  | identifierMissing => rw [State.offset_fail]
  | identifierIdle => rfl
  | identifierTaken takenName =>
    cases readsType with
    | typeTaken taken => exact absurd stays (Nat.ne_of_lt (taken.offset_lt located))
    | typeMissing declined =>
      have normal := takenName.normal
      rw [State.recovering_fail, Bool.or_eq_false_iff] at normal
      have front := takenName.front
      rw [State.rest_fail] at front
      have refused := declined normal.1 _ (by rw [front]; rfl)
      rw [only_eq_some_iff.mp takenName.recognized] at refused
      cases refused

/-- An operand that was not found took nothing. -/
theorem Derivation.offset_eq_of_missing {power : Nat} {expression : Expression}
    (reads : Reads (.operation power) state expression next) (located : state.Located index)
    (rests : Rests state.offset next expression) (missing : expression.isMissing = true) :
    state.offset = next.offset := by
  have nothing := Expression.placed_slots_of_isMissing missing
  have covers := reads.covers_operation located.settled
  rw [Range.Covers, nothing] at covers
  exact rests.laid.fills.isEmpty_iff.mp ((covers ⟨nofun, .nil⟩).1 rfl)

/-! ## What is skipped -/

/-- The error node of one lexeme. -/
theorem laid_skipped {lexeme : Lexeme} {low : Nat} (le : low ≤ lexeme.range.span.start)
    (wide : lexeme.range.span.start < lexeme.range.span.stop) :
    (ErrorNode.mk [lexeme.toPlacedToken] lexeme.range).assembly.Laid low
      lexeme.range.span.stop := by
  have follow : Lexeme.Follow low [lexeme] := ⟨le, Nat.le_of_lt wide, trivial⟩
  exact follow.laid_ofTokens? (by simpa using wide) _ rfl

/-- What is passed over when a list resumes fills the way; where nothing is, the parse stays. -/
theorem Resumes.laid {level : SyncLevel} {start : State} {skipped : Option ErrorNode}
    (resumes : Resumes level start state skipped next) (located : state.Located index) :
    (skipped = none → state.offset = next.offset) ∧
      ∀ node ∈ skipped,
        node.assembly.Laid state.offset next.offset ∧ state.offset < next.offset := by
  have follow := located.ordered.follow
  have strict := resumes.moves.offset_lt located
  cases resumes with
  | onward => exact ⟨fun _ => rfl, by simp⟩
  | synchronized =>
    rw [← level.skip_append 0 state.rest] at follow
    have laid := (Lexeme.follow_append_iff.mp follow).1.laid_ofTokens? fun lexeme member =>
      located.wide lexeme (level.skip_append 0 state.rest ▸ List.mem_append_left _ member)
    rw [State.offset_synchronize] at strict ⊢
    constructor
    · intro none
      cases skipped : (level.skip 0 state.rest).1 with
      | nil => rfl
      | cons => simp [State.synchronize, skipped, ErrorNode.ofTokens?] at none
    · intro node made
      have some : (state.synchronize level).1.isSome = true := by
        rw [made]
        rfl
      exact ⟨laid node made, strict (State.length_rest_synchronize_lt_of_isSome some)⟩
  | skippedOne _ _ front =>
    refine ⟨by simp, ?_⟩
    rintro _ ⟨⟩
    rw [front] at follow
    refine ⟨laid_skipped follow.1 (located.wide _ (front ▸ List.mem_cons_self)), strict ?_⟩
    rw [front]
    exact Nat.lt_succ_self _

theorem Resumes.tile {level : SyncLevel} {start : State} {skipped : Option ErrorNode}
    (resumes : Resumes level start state skipped next) (located : state.Located index)
    (field : Field) :
    Tile state.offset next.offset
      (skipped.toList.map fun node => .child field node.assembly) := by
  rcases resumes.laid located with ⟨stays, laid⟩
  exact tile_toList _ stays fun node member => tile_child (laid node member).1

theorem Literal.laid_expression {low : Nat} {lexeme : Lexeme} (le : low ≤ lexeme.range.span.start)
    (wide : lexeme.range.span.start < lexeme.range.span.stop) (literal : Literal) :
    (literal.expression lexeme).assembly.Laid low lexeme.range.span.stop := by
  have fills : lexeme.range.Fills low lexeme.range.span.stop :=
    ⟨le, Nat.le_of_lt wide, rfl, fun _ => wide⟩
  cases literal with
  | error => exact laid_skipped le wide
  | _ => exact Assembly.laid_leaf fills rfl

end

end ScriptTree.Grammar
