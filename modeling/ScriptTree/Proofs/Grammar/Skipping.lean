import ScriptTree.Grammar.Recovery
import ScriptTree.Proofs.Lexeme.Braces

/-!
# What a skip takes

A skip walks on lexeme by lexeme and decides in front of a lexeme and after it
whether to go on.  Here its end is described without the walk: by the braces
that the skipped lexemes leave open, by the last of them, and by the lexeme
that follows.  A skip takes the shortest front part of the lexemes that may end
in this way.
-/

namespace ScriptTree.Grammar

/-- How many braces are open after a token, if `depth` are open before; a brace that closes none
leaves none open. -/
def depthAfter (depth : Nat) (lexeme : Lexeme) : Nat :=
  match lexeme.token with
  | .lBrace => depth + 1
  | .rBrace => depth - 1
  | _ => depth

/-- How many braces are open after some lexemes, if `depth` are open before. -/
def braceDepth (depth : Nat) (lexemes : List Lexeme) : Nat :=
  lexemes.foldl depthAfter depth

@[simp]
theorem braceDepth_nil (depth : Nat) : braceDepth depth [] = depth :=
  rfl

@[simp]
theorem braceDepth_cons (depth : Nat) (lexeme : Lexeme) (rest : List Lexeme) :
    braceDepth depth (lexeme :: rest) = braceDepth (depthAfter depth lexeme) rest :=
  rfl

theorem depthAfter_opening {depth : Nat} {lexeme : Lexeme} (opens : lexeme.token = .lBrace) :
    depthAfter depth lexeme = depth + 1 := by
  simp [depthAfter, opens]

theorem depthAfter_closing {depth : Nat} {lexeme : Lexeme} (closes : lexeme.token = .rBrace) :
    depthAfter depth lexeme = depth - 1 := by
  simp [depthAfter, closes]

theorem depthAfter_other {depth : Nat} {lexeme : Lexeme} (noOpening : lexeme.token ≠ .lBrace)
    (noClosing : lexeme.token ≠ .rBrace) : depthAfter depth lexeme = depth := by
  unfold depthAfter
  split <;> simp_all

namespace SyncLevel

/-- Whether a closing brace ends a skip inside of `depth` braces: it closes the outermost of them,
or none at the top level. -/
def ClosesAt (level : SyncLevel) (depth : Nat) : Prop :=
  depth = 1 ∨ depth = 0 ∧ level = .topLevel

/-- A skip that begins inside of `depth` braces may end after `run`, where `left` follows. -/
inductive Ends (level : SyncLevel) (depth : Nat) : List Lexeme → List Lexeme → Prop where
  | exhausted {run : List Lexeme} : Ends level depth run []
  | declaration {run left : List Lexeme} {next : Lexeme}
      (starts : next.token.isTopLevelOnly = true) : Ends level depth run (next :: left)
  | boundary {run left : List Lexeme} {next : Lexeme}
      (outside : braceDepth depth run = 0) (stops : level.isBoundary next.token = true) :
      Ends level depth run (next :: left)
  | semicolon (run : List Lexeme) {left : List Lexeme} {last : Lexeme}
      (outside : braceDepth depth run = 0) (isSemicolon : last.token = .semicolon) :
      Ends level depth (run ++ [last]) left
  | brace (run : List Lexeme) {left : List Lexeme} {closing : Lexeme}
      (outermost : level.ClosesAt (braceDepth depth run)) (closes : closing.token = .rBrace)
      (bare : ∀ next ∈ left.head?, next.token ≠ .semicolon) :
      Ends level depth (run ++ [closing]) left
  | braceSemicolon (run : List Lexeme) {left : List Lexeme} {closing last : Lexeme}
      (outermost : level.ClosesAt (braceDepth depth run)) (closes : closing.token = .rBrace)
      (isSemicolon : last.token = .semicolon) : Ends level depth (run ++ [closing, last]) left

/-- A skip that begins inside of `depth` braces may end after `run`, where `left` follows, and after
no shorter front part of these lexemes. -/
structure IsShortest (level : SyncLevel) (depth : Nat) (run left : List Lexeme) : Prop where
  ends : level.Ends depth run left
  least : ∀ front behind, front ++ behind = run ++ left → level.Ends depth front behind →
    run.length ≤ front.length

variable {level : SyncLevel} {depth : Nat} {lexeme : Lexeme} {run left rest : List Lexeme}

/-- A lexeme after which a skip goes on: neither a semicolon outside of braces nor a brace that
closes the outermost of them. -/
structure Continues (level : SyncLevel) (depth : Nat) (lexeme : Lexeme) : Prop where
  noSemicolon : lexeme.token = .semicolon → depth ≠ 0
  noClosing : lexeme.token = .rBrace → ¬ level.ClosesAt depth

/-- Where a skip may end after a run, it may end there with a lexeme in front of the run. -/
theorem Ends.cons (ends : level.Ends (depthAfter depth lexeme) run left) :
    level.Ends depth (lexeme :: run) left := by
  cases ends with
  | exhausted => exact .exhausted
  | declaration starts => exact .declaration starts
  | boundary outside stops => exact .boundary outside stops
  | semicolon run outside isSemicolon => exact .semicolon (lexeme :: run) outside isSemicolon
  | brace run outermost closes bare => exact .brace (lexeme :: run) outermost closes bare
  | braceSemicolon run outermost closes isSemicolon =>
    exact .braceSemicolon (lexeme :: run) outermost closes isSemicolon

/-- An end behind a lexeme after which the skip goes on is an end of what follows this lexeme. -/
theorem Ends.of_cons (continues : level.Continues depth lexeme)
    (ends : level.Ends depth (lexeme :: run) left) :
    level.Ends (depthAfter depth lexeme) run left := by
  generalize whole : lexeme :: run = front at ends
  cases ends with
  | exhausted => exact .exhausted
  | declaration starts => exact .declaration starts
  | boundary outside stops =>
    subst whole
    exact .boundary outside stops
  | semicolon front outside isSemicolon =>
    rcases List.cons_eq_append_iff.1 whole with ⟨rfl, single⟩ | ⟨inner, rfl, rfl⟩
    · cases single
      exact absurd outside (continues.noSemicolon isSemicolon)
    · exact .semicolon inner outside isSemicolon
  | brace front outermost closes bare =>
    rcases List.cons_eq_append_iff.1 whole with ⟨rfl, single⟩ | ⟨inner, rfl, rfl⟩
    · cases single
      exact absurd outermost (continues.noClosing closes)
    · exact .brace inner outermost closes bare
  | braceSemicolon front outermost closes isSemicolon =>
    rcases List.cons_eq_append_iff.1 whole with ⟨rfl, double⟩ | ⟨inner, rfl, rfl⟩
    · cases double
      exact absurd outermost (continues.noClosing closes)
    · exact .braceSemicolon inner outermost closes isSemicolon

/-- Nothing is skipped only where the lexemes are used up or the next one stops the skip. -/
theorem not_ends_nil (passes : ¬ level.stopsAt depth lexeme.token = true) :
    ¬ level.Ends depth [] (lexeme :: rest) := by
  intro ends
  generalize empty : ([] : List Lexeme) = front at ends
  cases ends with
  | declaration starts => simp [stopsAt, starts] at passes
  | boundary outside stops =>
    subst empty
    rw [braceDepth_nil] at outside
    simp [stopsAt, outside, stops] at passes
  | semicolon | brace | braceSemicolon => simp at empty

/-- One step of a skip: what is shortest behind a lexeme after which the skip goes on is shortest
with this lexeme in front. -/
theorem IsShortest.cons (passes : ¬ level.stopsAt depth lexeme.token = true)
    (continues : level.Continues depth lexeme) {further : Nat}
    (step : depthAfter depth lexeme = further) (shortest : level.IsShortest further run left) :
    level.IsShortest depth (lexeme :: run) left where
  ends := by
    subst step
    exact shortest.ends.cons
  least := by
    subst step
    intro front behind whole ends
    cases front with
    | nil =>
      rw [List.nil_append, List.cons_append] at whole
      rw [whole] at ends
      exact absurd ends (not_ends_nil passes)
    | cons first front =>
      cases (List.cons.inj whole).1
      have shorter := shortest.least front behind (List.cons.inj whole).2 (ends.of_cons continues)
      exact Nat.succ_le_succ shorter

/-- A single lexeme is shortest where the skip may end after it and passes it. -/
theorem IsShortest.single (passes : ¬ level.stopsAt depth lexeme.token = true)
    (ends : level.Ends depth [lexeme] left) : level.IsShortest depth [lexeme] left where
  ends := ends
  least := by
    intro front behind whole endsFront
    cases front with
    | nil =>
      rw [List.nil_append, List.singleton_append] at whole
      rw [whole] at endsFront
      exact absurd endsFront (not_ends_nil passes)
    | cons first front => exact Nat.succ_le_succ (Nat.zero_le front.length)

/-- A brace that ends a skip takes a semicolon with it. -/
theorem not_ends_single {closing semicolon : Lexeme} (closes : closing.token = .rBrace)
    (isSemicolon : semicolon.token = .semicolon) :
    ¬ level.Ends depth [closing] (semicolon :: left) := by
  intro ends
  generalize single : [closing] = front at ends
  cases ends with
  | declaration starts => simp [isSemicolon, Token.isTopLevelOnly] at starts
  | boundary outside stops =>
    cases level <;>
      simp [isSemicolon, isBoundary, Token.isDeclarationKeyword, Token.isTopLevelOnly] at stops
  | semicolon front outside isLast =>
    rcases List.cons_eq_append_iff.1 single with ⟨rfl, same⟩ | ⟨inner, rfl, empty⟩
    · cases same
      rw [closes] at isLast
      cases isLast
    · simp at empty
  | brace front outermost isClosing bare => exact bare semicolon rfl isSemicolon
  | braceSemicolon front => cases front <;> simp at single

/-- The end of a skip at a closing brace, with the semicolon that follows it. -/
theorem isShortest_closing (passes : ¬ level.stopsAt depth lexeme.token = true)
    (closes : lexeme.token = .rBrace) (outermost : level.ClosesAt depth) :
    level.IsShortest depth (lexeme :: (splitSemicolon rest).1) (splitSemicolon rest).2 := by
  fun_cases splitSemicolon rest with
  | case1 =>
    exact .single passes .exhausted
  | case2 semicolon rest isSemicolon =>
    refine ⟨.braceSemicolon [] outermost closes isSemicolon, ?_⟩
    intro front behind whole ends
    rcases front with _ | ⟨first, _ | ⟨second, front⟩⟩
    · rw [List.nil_append, List.cons_append] at whole
      rw [whole] at ends
      exact absurd ends (not_ends_nil passes)
    · cases whole
      exact absurd ends (not_ends_single closes isSemicolon)
    · simp
  | case3 next rest other =>
    refine .single passes (.brace [] outermost closes ?_)
    intro found first
    cases first
    exact other

/-- A skip takes the shortest front part after which it may end. -/
theorem isShortest_skip (level : SyncLevel) (depth : Nat) (lexemes : List Lexeme) :
    level.IsShortest depth (level.skip depth lexemes).1 (level.skip depth lexemes).2 := by
  -- The induction follows the walk, at any depth.
  induction lexemes generalizing depth with
  | nil => exact ⟨.exhausted, fun front _ _ _ => Nat.zero_le front.length⟩
  | cons lexeme rest ih =>
    unfold skip
    split
    · rename_i stops
      refine ⟨?_, fun front _ _ _ => Nat.zero_le front.length⟩
      rcases Bool.or_eq_true_iff.1 stops with starts | boundary
      · exact .declaration starts
      · rcases Bool.and_eq_true_iff.1 boundary with ⟨outside, stops⟩
        exact .boundary (of_decide_eq_true outside) stops
    · rename_i passes
      split
      · rename_i opens
        exact (ih (depth + 1)).cons passes ⟨by simp [opens], by simp [opens]⟩
          (depthAfter_opening opens)
      · rename_i closes
        split
        · rename_i nested
          refine (ih (depth - 1)).cons passes ⟨by simp [closes], fun _ outermost => ?_⟩
            (depthAfter_closing closes)
          rcases outermost with one | ⟨zero, -⟩ <;> omega
        · refine isShortest_closing passes closes ?_
          rcases Nat.eq_zero_or_pos depth with zero | positive
          · cases level with
            | topLevel => exact .inr ⟨zero, rfl⟩
            | statement => simp [stopsAt, closes, zero, isBoundary] at passes
          · exact .inl (by omega)
      · rename_i isSemicolon
        split
        · rename_i outside
          exact .single passes (.semicolon [] outside isSemicolon)
        · rename_i inside
          exact (ih depth).cons passes ⟨fun _ => inside, by simp [isSemicolon]⟩
            (depthAfter_other (by simp [isSemicolon]) (by simp [isSemicolon]))
      · rename_i noOpening noClosing noSemicolon
        exact (ih depth).cons passes ⟨(absurd · noSemicolon), (absurd · noClosing)⟩
          (depthAfter_other noOpening noClosing)

/-- A skip inside of a block or a class body stays in front of a brace that closes none of the
braces it has passed. -/
theorem IsShortest.braceDepth_ne_zero (shortest : IsShortest .statement depth run left)
    {front behind : List Lexeme} {closing : Lexeme} (whole : run = front ++ closing :: behind)
    (closes : closing.token = .rBrace) : braceDepth depth front ≠ 0 := by
  intro outside
  have ends : Ends .statement depth front (closing :: (behind ++ left)) :=
    .boundary outside (by rw [closes]; rfl)
  have bound := shortest.least front _ (by simp [whole]) ends
  rw [whole, List.length_append, List.length_cons] at bound
  omega

end SyncLevel

/-- Where each closing brace closes one that is open before it, all braces are counted. -/
theorem openBraces_of_closed {depth : Nat} {run : List Lexeme}
    (closed : ∀ front closing behind, run = front ++ closing :: behind →
      closing.token = .rBrace → braceDepth depth front ≠ 0) :
    openBraces depth (run.map Lexeme.toPlacedToken) = some (braceDepth depth run) := by
  induction run generalizing depth with
  | nil => rfl
  | cons lexeme rest ih =>
    have behindFirst : ∀ front closing behind, rest = front ++ closing :: behind →
        closing.token = .rBrace → braceDepth (depthAfter depth lexeme) front ≠ 0 := by
      intro front closing behind whole
      exact closed (lexeme :: front) closing behind (by rw [whole, List.cons_append])
    have later := ih behindFirst
    rw [List.map_cons, braceDepth_cons, ← later]
    by_cases opens : lexeme.token = .lBrace
    · rw [openBraces_opening opens, depthAfter_opening opens]
    by_cases closes : lexeme.token = .rBrace
    · have inside : depth ≠ 0 := closed [] lexeme rest rfl closes
      rcases Nat.exists_eq_succ_of_ne_zero inside with ⟨outer, rfl⟩
      rw [openBraces_closing closes, depthAfter_closing closes, Nat.succ_sub_one]
    · rw [openBraces_other opens closes, depthAfter_other opens closes]

theorem ofTokens?_eq_none_iff (run : List Lexeme) :
    ErrorNode.ofTokens? (run.map Lexeme.toPlacedToken) = none ↔ run = [] := by
  cases run <;> simp [ErrorNode.ofTokens?]

/-- The error node of a run holds the run, and extends from its first to its last lexeme. -/
theorem skipped_and_range_of_mem_ofTokens? {run : List Lexeme} {node : ErrorNode}
    (member : node ∈ ErrorNode.ofTokens? (run.map Lexeme.toPlacedToken)) :
    node.skipped = run.map Lexeme.toPlacedToken ∧
    ∃ first ∈ run.head?, ∃ last ∈ run.getLast?,
      node.range = first.range.through last.range := by
  cases run with
  | nil => cases member
  | cons first rest =>
    cases member
    refine ⟨rfl, first, rfl, _, List.getLast?_cons, ?_⟩
    rw [List.getLast?_map]
    cases rest.getLast? <;> rfl

/-- What a synchronization skips.  In every state it passes over the shortest run of lexemes after
which a skip may end, and the parse is in its normal mode again.  The run is the content of one
error node, which extends from its first to its last lexeme; there is none where nothing is skipped.
Inside of a block or a class body each closing brace of the run closes one that was opened in it. -/
theorem State.synchronize_shortest (state : State) (level : SyncLevel) :
    ∃ run left, state.rest = run ++ left ∧ level.IsShortest 0 run left ∧
      (state.synchronize level).2.rest = left ∧
      (state.synchronize level).2.index = state.index + run.length ∧
      (state.synchronize level).2.recovering = false ∧
      ((state.synchronize level).1 = none ↔ run = []) ∧
      (∀ node ∈ (state.synchronize level).1,
        node.skipped = run.map Lexeme.toPlacedToken ∧
        ∃ first ∈ run.head?, ∃ last ∈ run.getLast?,
          node.range = first.range.through last.range) ∧
      (level = .statement →
        openBraces 0 (run.map Lexeme.toPlacedToken) = some (braceDepth 0 run)) := by
  have shortest := level.isShortest_skip 0 state.rest
  refine ⟨_, _, (level.skip_append 0 state.rest).symm, shortest, rfl, rfl, rfl,
    ofTokens?_eq_none_iff _, fun _ => skipped_and_range_of_mem_ofTokens?, ?_⟩
  rintro rfl
  exact openBraces_of_closed fun _ _ _ => shortest.braceDepth_ne_zero

end ScriptTree.Grammar
