import ScriptTree.Grammar.State

/-!
# Recovery

After an error the closest enclosing list skips lexemes up to a boundary.  In a
block or a class body the boundary is a semicolon, which is skipped too, or a
closing brace or a keyword that starts a statement, which stay.  At the top
level it is a semicolon, or a keyword that starts a declaration, which stays.
The keywords of declarations that cannot be nested stay at every level.

Skipping respects braces: what stands between two braces opened on the way is
skipped as a whole, and a brace that closes the outermost of them ends the skip,
together with a semicolon right after it.  A closing brace at the top level ends
the skip in the same way.  What was skipped becomes one error node.
-/

namespace ScriptTree.Grammar

/-- Which list skips. -/
inductive SyncLevel where
  | statement
  | topLevel
deriving DecidableEq

namespace SyncLevel

/-- Tokens that stop a skip outside of braces and stay for the enclosing list. -/
def isBoundary : SyncLevel → Token → Bool
  | .statement, .rBrace | .statement, .kwIf | .statement, .kwReturn
  | .statement, .kwVar | .statement, .kwConst => true
  | .statement, _ => false
  | .topLevel, token => token.isDeclarationKeyword

/-- Whether a skip stops in front of a token, inside of `depth` braces it has passed. -/
def stopsAt (level : SyncLevel) (depth : Nat) (token : Token) : Bool :=
  token.isTopLevelOnly || (depth = 0 && level.isBoundary token)

/-- The semicolon at the front, if there is one, and what follows. -/
def splitSemicolon : List Lexeme → List Lexeme × List Lexeme
  | [] => ([], [])
  | lexeme :: rest => if lexeme.token = .semicolon then ([lexeme], rest) else ([], lexeme :: rest)

/-- What a skip takes from some lexemes, inside of `depth` braces it has passed, and the rest. -/
def skip (level : SyncLevel) (depth : Nat) : List Lexeme → List Lexeme × List Lexeme
  | [] => ([], [])
  | lexeme :: rest =>
    if level.stopsAt depth lexeme.token then
      ([], lexeme :: rest)
    else
      let further (depth : Nat) :=
        let skipped := skip level depth rest
        (lexeme :: skipped.1, skipped.2)
      match lexeme.token with
      | .lBrace => further (depth + 1)
      | .rBrace =>
        if 1 < depth then
          further (depth - 1)
        else
          let ending := splitSemicolon rest
          (lexeme :: ending.1, ending.2)
      | .semicolon => if depth = 0 then ([lexeme], rest) else further depth
      | _ => further depth

/-- A semicolon that ends a skip is among the lexemes that are skipped or left. -/
theorem splitSemicolon_append (lexemes : List Lexeme) :
    (splitSemicolon lexemes).1 ++ (splitSemicolon lexemes).2 = lexemes := by
  fun_cases splitSemicolon lexemes <;> rfl

/-- A skip takes a front part of the lexemes and leaves the others. -/
theorem skip_append (level : SyncLevel) (depth : Nat) (lexemes : List Lexeme) :
    (level.skip depth lexemes).1 ++ (level.skip depth lexemes).2 = lexemes := by
  induction lexemes generalizing depth with
  | nil => rfl
  | cons lexeme rest ih =>
    have ending := splitSemicolon_append rest
    unfold skip
    split
    · rfl
    · split <;> (try split) <;> simp [ih, ending]

end SyncLevel

namespace State

/-- Pass over skipped lexemes, which leave `rest`, and end the recovery. -/
def passOver (state : State) (skipped rest : List Lexeme) : State :=
  { state with
    rest
    index := state.index + skipped.length
    anchor :=
      match skipped.getLast? with
      | none => state.anchor
      | some lexeme => lexeme.range.after
    recovering := false }

/-- Skip to the next boundary. -/
def synchronize (state : State) (level : SyncLevel) : Option ErrorNode × State :=
  let skipped := level.skip 0 state.rest
  (ErrorNode.ofTokens? (skipped.1.map Lexeme.toPlacedToken), state.passOver skipped.1 skipped.2)

/-- What is left after a skip is what the level leaves. -/
theorem rest_synchronize (state : State) (level : SyncLevel) :
    (state.synchronize level).2.rest = (level.skip 0 state.rest).2 :=
  rfl

/-- A skip leaves no more than there was. -/
theorem length_rest_synchronize_le (state : State) (level : SyncLevel) :
    (state.synchronize level).2.rest.length ≤ state.rest.length := by
  have whole := congrArg List.length (level.skip_append 0 state.rest)
  rw [List.length_append] at whole
  rw [rest_synchronize]
  omega

/-- A skip that yields an error node takes at least one lexeme. -/
theorem length_rest_synchronize_lt_of_isSome {state : State} {level : SyncLevel}
    (some : (state.synchronize level).1.isSome) :
    (state.synchronize level).2.rest.length < state.rest.length := by
  have whole := congrArg List.length (level.skip_append 0 state.rest)
  rw [List.length_append] at whole
  rw [rest_synchronize]
  have nonempty : (level.skip 0 state.rest).1 ≠ [] := by
    intro empty
    simp [synchronize, empty, ErrorNode.ofTokens?] at some
  have positive := List.length_pos_iff.2 nonempty
  omega

/-- Skip the first lexeme, whatever it is. -/
def skipOne (state : State) (lexeme : Lexeme) (rest : List Lexeme) : ErrorNode × State :=
  (⟨[lexeme.toPlacedToken], lexeme.range⟩, state.passOver [lexeme] rest)

/-- Get back on track after one element of a list.  The element was begun at `start`, and the
state after it is `state`.  Lexemes are skipped if the parse recovers, or if the element took no
lexeme; at least one lexeme is passed over in the end. -/
def resync (start state : State) (level : SyncLevel)
    (fewer : state.rest.length ≤ start.rest.length) (nonempty : start.rest ≠ []) :
    { result : Option ErrorNode × State // result.2.rest.length < start.rest.length } :=
  if progress : state.rest.length < start.rest.length then
    if state.recovering then
      ⟨state.synchronize level,
        Nat.lt_of_le_of_lt (length_rest_synchronize_le state level) progress⟩
    else
      ⟨(none, state), progress⟩
  else
    if found : (state.synchronize level).1.isSome then
      ⟨state.synchronize level,
        Nat.lt_of_lt_of_le (length_rest_synchronize_lt_of_isSome found) fewer⟩
    else
      match equation : state.rest with
      | [] =>
        absurd equation (by
          intro empty
          have positive := List.length_pos_iff.2 nonempty
          simp [empty] at progress
          exact nonempty progress)
      | lexeme :: rest =>
        ⟨((state.skipOne lexeme rest).1, (state.skipOne lexeme rest).2), by
          have bound := fewer
          rw [equation, List.length_cons] at bound
          exact bound⟩

end State

end ScriptTree.Grammar
