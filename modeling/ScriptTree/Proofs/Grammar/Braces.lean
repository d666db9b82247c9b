import ScriptTree.Proofs.Grammar.Avoidance
import ScriptTree.Proofs.Grammar.Conservation
import ScriptTree.Proofs.Grammar.Modes
import ScriptTree.Proofs.Node.Braces

/-!
# How productions treat braces

In well-braced lexemes a production that is read inside of a declaration closes
no brace that it did not open, and leaves one brace open for each array
initializer that it gave up.  So where the list of a body ends, its own brace is
still open, and the brace that closes the body is there to be taken.  Whether it
is the match depends only on what was given up in between.
-/

namespace ScriptTree.Grammar

/-! ## Nodes of what productions yield -/

/-- The nodes that a production adds to the tree. -/
def Production.nodes : (production : Production) → production.Value → List Node
  | .identifier, value | .directName, value => [value.assembly.node]
  | .typeReference, value => [value.assembly.node]
  | .operation _, value | .initialValue, value | .condition, value => [value.toNode]
  | .elements _, (items, _) => items.map fun item => item.1.toNode
  | .arraySize, value => value.toList.map fun written => written.size.toNode
  | .initializer, value => value.toList.map fun written => written.value.toNode
  | .variableDeclaration, value => [value.toNode]
  | .assignmentTail, value => [value.right.toNode]
  | .block, value => [value.toNode]
  | .statements, items => items.map Statement.toNode
  | .statement, item => item.toList.map Statement.toNode
  | .branch, value => value.nodes
  | .parentClause, value => value.toList.map fun written => written.name.assembly.node
  | .instanceBody _, (body, _) => body.toList.map Block.toNode
  | .declarationBody, (body, _) => [body.toNode]
  | .parameterList, value => [value.assembly.node]
  | .classItem, item => (item.bind ClassItem.member?).toList.map ClassMember.toNode
  | .classItems, items => (items.filterMap ClassItem.member?).map ClassMember.toNode
  | .classBody, value => [value.assembly.node]
  | .declaration, item => item.toList.map Declaration.toNode
  | .declarations, items => items.map Declaration.toNode
  | _, _ => []

/-- The nodes of the statements of a block are those of the items, in order. -/
theorem Production.nodes_statements (item : Option Statement) (skipped : Option ErrorNode)
    (more : List Statement) :
    nodes .statements (item.toList ++ (skipped.map Statement.error).toList ++ more) =
      nodes .statement item ++ ((skipped.toList.map fun node => node.assembly.node) ++
        nodes .statements more) := by
  cases item <;> cases skipped <;> simp [nodes, Statement.toNode, Statement.assembly]

theorem Production.nodes_classItems (item : Option ClassItem) (skipped : Option ErrorNode)
    (more : List ClassItem) :
    nodes .classItems
        (item.toList ++ (skipped.map fun node => ClassItem.member (.error node)).toList ++ more) =
      nodes .classItem item ++ ((skipped.toList.map fun node => node.assembly.node) ++
        nodes .classItems more) := by
  rcases item with _ | _ | _ <;> cases skipped <;> rfl

theorem Production.nodes_declarations (item : Option Declaration) (skipped : Option ErrorNode)
    (more : List Declaration) :
    nodes .declarations (item.toList ++ (skipped.map Declaration.error).toList ++ more) =
      nodes .declaration item ++ ((skipped.toList.map fun node => node.assembly.node) ++
        nodes .declarations more) := by
  cases item <;> cases skipped <;> rfl

/-- Whether a production takes no brace. -/
def Production.isPlain (production : Production) : Bool :=
  production.avoids .lBrace && production.avoids .rBrace

/-- The tokens in a node are among those of its slots. -/
theorem held_subset_of_bag {assembly : Assembly} {slots : List Slot}
    (same : assembly.bag = Slot.bag slots) : assembly.node.held ⊆ Slot.placed slots := by
  intro placed member
  have among : placed ∈ assembly.bag := member
  rw [same] at among
  exact among

theorem held_subset_listSlots {items : List (Expression × Option Range)} {node : Node}
    (member : node ∈ items.map fun item => item.1.toNode) :
    node.held ⊆ Slot.placed (Expression.listSlots items) := by
  induction items with
  | nil => cases member
  | cons item rest ih =>
    rw [Expression.listSlots, Slot.placed_append, Slot.placed_append]
    rcases List.mem_cons.mp member with rfl | later
    · exact fun placed held => by
        simp [held_subset_of_bag item.1.bag_assembly held]
    · exact fun placed held => by simp [ih later held]

/-- The nodes of a plain production hold no other tokens than it took. -/
theorem Production.held_subset {production : Production} (plain : production.isPlain = true)
    (value : production.Value) {node : Node} (member : node ∈ production.nodes value) :
    node.held ⊆ production.placed value := by
  cases production with
  | identifier | directName | typeReference | operation | condition | parameterList =>
    rw [List.mem_singleton.mp member]
    exact held_subset_of_bag value.bag_assembly
  | elements => exact held_subset_listSlots member
  | assignmentTail =>
    rw [List.mem_singleton.mp member]
    intro placed held
    simp [Production.placed, Production.slots, AssignmentTail.slots,
      held_subset_of_bag value.right.bag_assembly held]
  | arraySize =>
    cases value with
    | none => cases member
    | some size =>
      rw [List.mem_singleton.mp member]
      intro placed held
      simp [Production.placed, Production.slots, ArraySize.slots,
        held_subset_of_bag size.size.bag_assembly held]
  | parentClause =>
    cases value with
    | none => cases member
    | some clause =>
      rw [List.mem_singleton.mp member]
      intro placed held
      simp [Production.placed, Production.slots, ParentClause.slots,
        held_subset_of_bag clause.name.bag_assembly held]
  | initialValue | initializer | variableDeclaration | block | statements | statement | branch
  | instanceBody | declarationBody | classItem | classItems | classBody | declaration
  | declarations => cases plain
  | _ => cases member

/-! ## Tidy steps -/

/-- Between two states some nodes are read that leave a brace open for each initializer among them
that was given up, and close none but their own; and all bodies among them reach to closing
braces. -/
def Tidy (lexemes : List Lexeme) (state next : State) (nodes : List Node) : Prop :=
  state.rest <:+ lexemes →
    (∃ taken, state.rest = taken ++ next.rest ∧
      openBraces 0 (taken.map Lexeme.toPlacedToken) = some (Node.openCount nodes)) ∧
    Node.AllReach (lexemes.map Lexeme.toPlacedToken) nodes

variable {lexemes : List Lexeme} {state next : State}

namespace Tidy

/-- Where nothing is taken, no brace is. -/
theorem of_rest (same : next.rest = state.rest) : Tidy lexemes state next [] :=
  fun _ => ⟨⟨[], same.symm, rfl⟩, Node.allReach_nil⟩

/-- Two tidy parts of a parse make a tidy one. -/
theorem append {between : State} {early late : List Node} (first : Tidy lexemes state between early)
    (second : Tidy lexemes between next late) : Tidy lexemes state next (early ++ late) := by
  intro suffix
  rcases first suffix with ⟨⟨taken, whole, walks⟩, reach⟩
  have suffixLater : between.rest <:+ lexemes :=
    (whole ▸ List.suffix_append taken between.rest).trans suffix
  rcases second suffixLater with ⟨⟨takenLater, wholeLater, walksLater⟩, reachLater⟩
  refine ⟨⟨taken ++ takenLater, by rw [whole, wholeLater, List.append_assoc], ?_⟩,
    Node.allReach_append.mpr ⟨reach, reachLater⟩⟩
  rw [List.map_append, openBraces_append, walks, Node.openCount_append, Nat.add_comm]
  exact openBraces_of_zero walksLater _

/-- A node around others that owns no braces itself. -/
theorem wrap {nodes : List Node} (tidy : Tidy lexemes state next nodes) {node : Node}
    (children : node.children = nodes) (noBody : node.isBody = false)
    (closed : node.leavesOpen = false) : Tidy lexemes state next [node] := by
  intro suffix
  rcases tidy suffix with ⟨walks, reach⟩
  rw [Node.openCount_singleton, children, closed, Node.allReach_singleton, children]
  exact ⟨walks, Node.reaches_of_not_isBody noBody, reach⟩

/-- A node without children and tokens of its own. -/
theorem bare {node : Node} (tidy : Tidy lexemes state next []) (children : node.children = [])
    (tokens : node.tokens = []) : Tidy lexemes state next [node] := by
  have closed : node.leavesOpen = false := by simp [Node.leavesOpen, tokens]
  intro suffix
  rcases tidy suffix with ⟨walks, -⟩
  rw [Node.openCount_singleton, children, closed, Node.allReach_singleton, children]
  refine ⟨walks, ?_, Node.allReach_nil⟩
  intro _ opening owned
  rw [tokens] at owned
  cases owned

end Tidy

/-! ## Plain steps -/

/-- Where no brace is taken, nodes that hold none are added. -/
theorem tidy_of_plain (taken : List Lexeme) {nodes : List Node}
    (whole : state.rest = taken ++ next.rest)
    (plain : ∀ lexeme ∈ taken, lexeme.token ≠ .lBrace ∧ lexeme.token ≠ .rBrace)
    (quiet : ∀ node ∈ nodes, node.IsQuiet) : Tidy lexemes state next nodes := by
  intro _
  refine ⟨⟨taken, whole, ?_⟩, Node.IsQuiet.allReach quiet⟩
  rw [Node.IsQuiet.openCount_eq_zero quiet]
  apply openBraces_of_plain
  intro placed member
  rcases List.mem_map.mp member with ⟨lexeme, among, rfl⟩
  exact plain lexeme among

/-- What takes no brace is tidy. -/
theorem Taking.tidy {α : Type} {recognize : Token → Option α} {value : α} {lexeme : Lexeme}
    (taken : Takes state recognize value lexeme next) (noOpening : recognize .lBrace = none)
    (noClosing : recognize .rBrace = none) : Tidy lexemes state next [] := by
  have plain : lexeme.token ≠ .lBrace ∧ lexeme.token ≠ .rBrace := by
    constructor <;>
    · intro found
      have recognized := taken.recognized
      simp_all
  refine tidy_of_plain [lexeme] taken.front ?_ nofun
  simpa using plain

/-- A plain production takes no brace. -/
theorem Derivation.plain_taken {production : Production} {value : production.Value}
    (reads : Reads production state value next) (plain : production.isPlain = true) :
    ∃ taken, state.rest = taken ++ next.rest ∧
      ∀ lexeme ∈ taken, lexeme.token ≠ .lBrace ∧ lexeme.token ≠ .rBrace := by
  rw [Production.isPlain, Bool.and_eq_true] at plain
  rcases reads.exists_taken with ⟨taken, whole, avoided⟩
  refine ⟨taken, whole, ?_⟩
  intro lexeme member
  have never := avoided lexeme member
  constructor <;>
  · intro found
    rw [found] at never
    simp [Token.isStructural, plain] at never

/-- The nodes of a plain production hold no opening brace. -/
theorem Derivation.isQuiet (spelled : ∀ lexeme ∈ lexemes, lexeme.text.isEmpty = false)
    {production : Production} {value : production.Value}
    (reads : Reads production state value next) (plain : production.isPlain = true)
    (suffix : state.rest <:+ lexemes) : ∀ node ∈ production.nodes value, node.IsQuiet := by
  rcases reads.plain_taken plain with ⟨taken, whole, none⟩
  have placed := reads.placed fun lexeme member => spelled lexeme (suffix.subset member)
  rw [State.placed, State.placed, whole, List.map_append] at placed
  have same := List.append_cancel_right placed
  intro node member token held
  have among := Production.held_subset plain value member held
  rw [← same] at among
  rcases List.mem_map.mp among with ⟨lexeme, here, rfl⟩
  exact (none lexeme here).1

/-- A plain production takes no brace, and adds nothing but quiet nodes. -/
theorem Derivation.tidy_plain (spelled : ∀ lexeme ∈ lexemes, lexeme.text.isEmpty = false)
    {production : Production} {value : production.Value}
    (reads : Reads production state value next) (plain : production.isPlain = true) :
    Tidy lexemes state next (production.nodes value) := by
  intro suffix
  rcases reads.plain_taken plain with ⟨taken, whole, none⟩
  exact tidy_of_plain taken whole none (reads.isQuiet spelled plain suffix) suffix

/-- A plain production that adds nothing to the tree. -/
theorem Derivation.tidy_nil {production : Production} {value : production.Value}
    (reads : Reads production state value next) (plain : production.isPlain = true) :
    Tidy lexemes state next [] := by
  rcases reads.plain_taken plain with ⟨taken, whole, none⟩
  exact tidy_of_plain taken whole none nofun

/-! ## Skips -/

theorem plain_splitSemicolon (rest : List Lexeme) :
    ∀ placed ∈ (SyncLevel.splitSemicolon rest).1.map Lexeme.toPlacedToken,
      placed.token ≠ .lBrace ∧ placed.token ≠ .rBrace := by
  unfold SyncLevel.splitSemicolon
  split
  · exact nofun
  · split
    · simp_all
    · exact nofun

/-- A skip closes what it opens: none of the braces that it is inside of ends it before. -/
theorem openBraces_skip {tokens : List PlacedToken} (braced : WellBraced tokens) {outer : Nat}
    {passed : List PlacedToken} {depth : Nat} {rest : List Lexeme}
    (whole : tokens = passed ++ rest.map Lexeme.toPlacedToken)
    (walks : openBraces 0 passed = some (outer + depth)) :
    openBraces depth ((SyncLevel.statement.skip depth rest).1.map Lexeme.toPlacedToken) =
      some 0 := by
  induction rest generalizing passed depth with
  | nil =>
    rcases braced.exists_count whole with ⟨_, found, closed⟩
    rw [walks] at found
    cases found
    cases depth with
    | zero => rfl
    | succ => cases closed
  | cons lexeme rest ih =>
    have further : ∀ {deeper : Nat},
        openBraces (outer + depth) [lexeme.toPlacedToken] = some (outer + deeper) →
        openBraces deeper ((SyncLevel.statement.skip deeper rest).1.map Lexeme.toPlacedToken) =
          some 0 := by
      intro deeper step
      have wholeRest : tokens =
          (passed ++ [lexeme.toPlacedToken]) ++ rest.map Lexeme.toPlacedToken := by
        rw [whole]
        simp
      refine ih wholeRest ?_
      rw [openBraces_append, walks]
      exact step
    unfold SyncLevel.skip
    split
    · rename_i stops
      cases depth with
      | zero => rfl
      | succ depth =>
        rcases braced.exists_next whole walks with ⟨next, later, first, nested⟩
        cases first
        simp [SyncLevel.stopsAt, nested] at stops
    · rename_i passes
      split
      · rename_i opens
        rw [List.map_cons, openBraces_opening opens]
        exact further (by rw [openBraces_opening opens]; rfl)
      · rename_i closes
        cases depth with
        | zero => simp [SyncLevel.stopsAt, closes, SyncLevel.isBoundary] at passes
        | succ depth =>
          split
          · rw [List.map_cons, openBraces_closing closes]
            exact further (by rw [← Nat.add_assoc, openBraces_closing closes]; rfl)
          · rename_i last
            have innermost : depth = 0 := by omega
            rw [innermost, List.map_cons, openBraces_closing closes]
            exact openBraces_of_plain (plain_splitSemicolon rest) 0
      · rename_i semicolon
        have other : lexeme.token ≠ .lBrace ∧ lexeme.token ≠ .rBrace := by simp [semicolon]
        split
        · rename_i outside
          rw [outside]
          exact openBraces_of_plain (by simpa using other) 0
        · rw [List.map_cons, openBraces_other other.1 other.2]
          exact further (by rw [openBraces_other other.1 other.2]; rfl)
      · rename_i noOpening noClosing _
        rw [List.map_cons, openBraces_other noOpening noClosing]
        exact further (by rw [openBraces_other noOpening noClosing]; rfl)

/-- The error node of tokens that were skipped closes what they open. -/
theorem Tidy.of_skipped (skipped : Option ErrorNode) (taken : List Lexeme)
    (whole : state.rest = taken ++ next.rest)
    (walks : openBraces 0 (taken.map Lexeme.toPlacedToken) = some 0) :
    Tidy lexemes state next (skipped.toList.map fun node => node.assembly.node) := by
  intro _
  rw [Node.openCount_skipped]
  exact ⟨⟨taken, whole, walks⟩, Node.allReach_skipped skipped _⟩

/-- What is skipped between the elements of a body closes what it opens. -/
theorem Resumes.tidy (braced : WellBraced (lexemes.map Lexeme.toPlacedToken)) {start : State}
    {skipped : Option ErrorNode} (resumes : Resumes .statement start state skipped next)
    (goesOn : endsList start = false) (below : state.rest <:+ start.rest) :
    Tidy lexemes state next (skipped.toList.map fun node => node.assembly.node) := by
  intro suffix
  cases resumes with
  | onward => exact Tidy.of_skipped none [] rfl rfl suffix
  | synchronized =>
    rcases suffix with ⟨before, whole⟩
    have parts : lexemes.map Lexeme.toPlacedToken =
        before.map Lexeme.toPlacedToken ++ state.rest.map Lexeme.toPlacedToken := by
      rw [← whole, List.map_append]
    rcases braced.exists_count parts with ⟨count, walks, -⟩
    exact Tidy.of_skipped _ _ (SyncLevel.skip_append .statement 0 state.rest).symm
      (openBraces_skip braced parts walks) ⟨before, whole⟩
  | @skippedOne lexeme rest idle stuck front =>
    have first : start.rest = lexeme :: rest := by
      rw [← front]
      exact (below.eq_of_length_le (Nat.not_lt.mp idle)).symm
    have plain : lexeme.token ≠ .lBrace ∧ lexeme.token ≠ .rBrace := by
      constructor
      · intro opens
        simp [State.synchronize, front, SyncLevel.skip, SyncLevel.stopsAt, SyncLevel.isBoundary,
          opens, Token.isTopLevelOnly, ErrorNode.ofTokens?] at stuck
      · intro closes
        simp [endsList, State.peek, first, closes] at goesOn
    refine Tidy.of_skipped (some _) [lexeme] front (openBraces_of_plain ?_ 0) suffix
    simpa using plain

/-! ## Bodies and initializers -/

/-- Where the list of a body ends with the brace of the body still open, a closing brace is
taken. -/
theorem Derivation.exists_takes_closing (braced : WellBraced (lexemes.map Lexeme.toPlacedToken))
    {closing : Option Range} (closes : Reads .closingBrace state closing next)
    (ends : endsList state = true) (normal : state.recovering = false)
    {passed : List PlacedToken} {count : Nat}
    (whole : lexemes.map Lexeme.toPlacedToken = passed ++ state.rest.map Lexeme.toPlacedToken)
    (walks : openBraces 0 passed = some (count + 1)) :
    ∃ last, Takes state (State.only .rBrace) () last next ∧ closing = some last.range := by
  cases closes with
  | closingBraceTaken taken => exact ⟨_, taken, rfl⟩
  | closingBraceMissing declined =>
    rcases braced.exists_next whole walks with ⟨found, later, front, nested⟩
    rcases List.map_eq_cons_iff.mp front with ⟨last, rest, frontState, rfl, rfl⟩
    have isClosing : last.token = .rBrace := by
      rw [endsList, State.peek, frontState] at ends
      simpa [nested] using ends
    have refused := declined normal last (by rw [frontState]; rfl)
    rw [isClosing] at refused
    cases refused

/-- A body takes the closing brace after its list, and owns it. -/
theorem tidy_body (braced : WellBraced (lexemes.map Lexeme.toPlacedToken))
    {opening : Lexeme} {afterOpening afterItems : State} {closing : Option Range} {node : Node}
    (taken : Takes state (State.only .lBrace) () opening afterOpening)
    (items : Tidy lexemes afterOpening afterItems node.children)
    (ends : endsList afterItems = true) (normal : afterItems.recovering = false)
    (closes : Reads .closingBrace afterItems closing next)
    (tokens : node.tokens = ⟨.lBrace, opening.range⟩ ::
      (Part.optional .rBrace closing).filterMap Part.token?)
    (body : node.isBody = true) : Tidy lexemes state next [node] := by
  have opens := only_eq_some_iff.mp taken.recognized
  have closed := Node.leavesOpen_of_isBody body
  intro suffix
  have suffixLater := taken.moves.rest_suffix.trans suffix
  rcases items suffixLater with ⟨⟨inside, split, walks⟩, reach⟩
  rcases suffix with ⟨before, whole⟩
  have parts : lexemes.map Lexeme.toPlacedToken =
      before.map Lexeme.toPlacedToken ++ (opening.toPlacedToken ::
        (inside.map Lexeme.toPlacedToken ++ afterItems.rest.map Lexeme.toPlacedToken)) := by
    simp [← whole, taken.front, split]
  rcases braced.exists_count parts with ⟨outer, walksBefore, -⟩
  have walksInside : openBraces 0 (before.map Lexeme.toPlacedToken ++
      opening.toPlacedToken :: inside.map Lexeme.toPlacedToken) =
        some (Node.openCount node.children + outer + 1) := by
    rw [openBraces_append, walksBefore, Option.bind_some, openBraces_opening opens,
      openBraces_of_zero walks, Nat.add_assoc]
  rcases closes.exists_takes_closing braced ends normal (by simpa using parts) walksInside with
    ⟨last, takenLast, rfl⟩
  have isClosing := only_eq_some_iff.mp takenLast.recognized
  have owned : node.tokens = [opening.toPlacedToken, last.toPlacedToken] := by
    rw [tokens, ← opens, ← isClosing]
    rfl
  rw [Node.openCount_singleton, closed, Node.allReach_singleton]
  refine ⟨⟨opening :: (inside ++ [last]), ?_, ?_⟩, ?_, reach⟩
  · rw [taken.front, split, takenLast.front]
    simp
  · rw [List.map_cons, openBraces_opening opens, List.map_append, openBraces_append,
      openBraces_of_zero walks]
    exact openBraces_closing isClosing
  · intro _ found member brace
    rw [owned] at member ⊢
    have same : found = opening.toPlacedToken := by
      rcases List.mem_cons.mp member with same | later
      · exact same
      · rw [List.mem_singleton.mp later, isClosing] at brace
        cases brace
    refine ⟨before.map Lexeme.toPlacedToken, inside.map Lexeme.toPlacedToken,
      last.toPlacedToken, next.rest.map Lexeme.toPlacedToken, ?_, rfl, isClosing, ?_⟩
    · rw [parts, same, takenLast.front]
      rfl
    · rw [Node.openCount_singleton, closed]
      exact walks

/-- An array initializer is closed, or it was given up and leaves its brace open. -/
theorem tidy_arrayInitializer (spelled : ∀ lexeme ∈ lexemes, lexeme.text.isEmpty = false)
    {opening : Lexeme} {afterOpening afterItems : State}
    {items : List (Expression × Option Range)} {gap closing : Option Range}
    (taken : Takes state (State.only .lBrace) () opening afterOpening)
    (readsElements : Reads (.elements true) afterOpening (items, gap) afterItems)
    (closes : Reads (.expected .rBrace) afterItems closing next) :
    Tidy lexemes state next
      [(Expression.arrayInitializer opening.range items gap closing).toNode] := by
  have opens := only_eq_some_iff.mp taken.recognized
  have children := Expression.children_arrayInitializer opening.range items gap closing
  intro suffix
  have suffixLater := taken.moves.rest_suffix.trans suffix
  rcases readsElements.plain_taken rfl with ⟨inside, split, none⟩
  have quiet : ∀ node ∈ items.map fun item => item.1.toNode, node.IsQuiet :=
    readsElements.isQuiet spelled rfl suffixLater
  have walks : ∀ count, openBraces count (inside.map Lexeme.toPlacedToken) = some count :=
    openBraces_of_plain (by simpa using none)
  rw [Node.openCount_singleton, Node.allReach_singleton, children,
    Node.IsQuiet.openCount_eq_zero quiet, Expression.leavesOpen_arrayInitializer]
  refine ⟨?_, Node.reaches_of_not_isBody rfl, Node.IsQuiet.allReach quiet⟩
  cases closes with
  | @expectedTaken _ _ last _ takenLast =>
    refine ⟨opening :: (inside ++ [last]), by rw [taken.front, split, takenLast.front]; simp, ?_⟩
    rw [List.map_cons, openBraces_opening opens, List.map_append, openBraces_append, walks]
    exact openBraces_closing (only_eq_some_iff.mp takenLast.recognized)
  | expectedMissing =>
    refine ⟨opening :: inside, by rw [taken.front, split, State.rest_fail]; rfl, ?_⟩
    rw [List.map_cons, openBraces_opening opens, walks]
    rfl
  | expectedIdle =>
    refine ⟨opening :: inside, by rw [taken.front, split]; rfl, ?_⟩
    rw [List.map_cons, openBraces_opening opens, walks]
    rfl

/-! ## Productions -/

/-- Whether a production may take braces, and is no list of declarations. -/
def Production.isBraced : Production → Bool
  | .initialValue | .initializer | .variableDeclaration | .block | .statements | .statement
  | .branch | .instanceBody _ | .declarationBody | .classItem | .classItems | .classBody
  | .declaration => true
  | _ => false

/-- Whatever a declaration consists of is tidy, and so is a declaration. -/
theorem Derivation.tidy (braced : WellBraced (lexemes.map Lexeme.toPlacedToken))
    (spelled : ∀ lexeme ∈ lexemes, lexeme.text.isEmpty = false)
    {production : Production} {value : production.Value}
    (reads : Reads production state value next) (within : production.isBraced = true)
    (normal : production.isList = false ∨ state.recovering = false) :
    Tidy lexemes state next (production.nodes value) := by
  induction reads with
  | initialElements taken readsElements closes =>
    exact tidy_arrayInitializer spelled taken readsElements closes
  | initialExpression _ readsValue => exact readsValue.tidy_plain spelled rfl
  | initializerAbsent => exact Tidy.of_rest rfl
  | initializerWritten taken _ initial => exact (taken.tidy rfl rfl).append (initial rfl (.inl rfl))
  | variableDeclaration taken readsType readsName readsSize _ ends _ _ _ initializer =>
    refine Tidy.wrap ((taken.tidy rfl rfl).append ((readsType.tidy_plain spelled rfl).append
      ((readsName.tidy_plain spelled rfl).append ((readsSize.tidy_plain spelled rfl).append
        ((initializer rfl (.inl rfl)).append (ends.tidy_nil rfl)))))) ?_ rfl rfl
    rw [VariableDeclaration.children_toNode]
    simp [Production.nodes]
  | blockMissing => exact Tidy.bare (Tidy.of_rest (State.rest_fail ..)) rfl rfl
  | @blockWritten _ opening _ items _ closing _ taken readsItems closes inner =>
    have children := Block.children_written opening.range items closing
    have calm := readsItems.normal_of_isList rfl taken.normal_next
    have tokens : (Block.written opening.range items closing).toNode.tokens =
        ⟨.lBrace, opening.range⟩ :: (Part.optional .rBrace closing).filterMap Part.token? := by
      simp [Block.toNode, Block.assembly, Part.token?, -List.filterMap_map]
    exact tidy_body braced taken (children ▸ inner rfl (.inr taken.normal_next))
      (readsItems.endsList_next (.inl rfl)) calm closes tokens rfl
  | statementsEnd | classItemsEnd => exact Tidy.of_rest rfl
  | @statementsNext _ item _ skipped _ more _ goesOn readsItem resumes _ statement later =>
    rw [Production.nodes_statements]
    exact (statement rfl (.inl rfl)).append
      ((resumes.tidy braced goesOn readsItem.rest_suffix).append
        (later rfl (.inr resumes.normal)))
  | statementIf taken readsCondition _ _ _ consequence =>
    refine Tidy.wrap ((taken.tidy rfl rfl).append ((readsCondition.tidy_plain spelled rfl).append
      (consequence rfl (.inl rfl)))) ?_ rfl rfl
    simp [Statement.children_ifStatement, Production.nodes]
  | statementIfElse taken readsCondition _ otherwise _ _ consequence alternative =>
    refine Tidy.wrap ((taken.tidy rfl rfl).append ((readsCondition.tidy_plain spelled rfl).append
      ((consequence rfl (.inl rfl)).append ((otherwise.tidy rfl rfl).append
        (alternative rfl (.inl rfl)))))) ?_ rfl rfl
    simp [Statement.children_ifStatement, Production.nodes]
  | statementReturn taken _ ends =>
    refine Tidy.wrap ((taken.tidy rfl rfl).append (ends.tidy_nil rfl)) ?_ rfl rfl
    exact Statement.children_returnStatement _
  | statementReturnValue taken _ readsValue ends =>
    refine Tidy.wrap ((taken.tidy rfl rfl).append ((readsValue.tidy_plain spelled rfl).append
      (ends.tidy_nil rfl))) ?_ rfl rfl
    exact Statement.children_returnStatement _
  | statementVariable _ declaration => exact declaration rfl (.inl rfl)
  | statementBlock _ _ block => exact block rfl (.inl rfl)
  | statementExpression _ readsExpression _ ends =>
    refine Tidy.wrap ((readsExpression.tidy_plain spelled rfl).append (ends.tidy_nil rfl)) ?_
      rfl rfl
    exact Statement.children_expressionStatement _
  | statementAssignment _ readsTarget _ readsTail =>
    refine Tidy.wrap ((readsTarget.tidy_plain spelled rfl).append
      ((Tidy.of_rest (State.rest_checkTarget ..)).append (readsTail.tidy_plain spelled rfl))) ?_
        rfl rfl
    exact AssignmentStatement.children_toNode _
  | statementAbsent => exact Tidy.of_rest (State.rest_fail ..)
  | statementRejected => exact Tidy.of_rest (State.rest_reject ..)
  | branchRecovering => exact Tidy.bare (Tidy.of_rest rfl) rfl rfl
  | branchBlock _ _ _ readsSemicolon block =>
    exact (block rfl (.inl rfl)).append (readsSemicolon.tidy_nil rfl)
  | branchStatement _ _ _ statement => exact statement rfl (.inl rfl)
  | branchMissing _ _ _ statement => exact Tidy.bare (statement rfl (.inl rfl)) rfl rfl
  | instanceBlock _ _ _ readsSemicolon body =>
    exact (body rfl (.inl rfl)).append (readsSemicolon.tidy_nil rfl)
  | instanceForward taken =>
    refine Tidy.append (Tidy.of_rest ?_) (taken.tidy rfl rfl)
    split <;> simp
  | instanceIdle => exact Tidy.of_rest rfl
  | instanceBare => exact Tidy.of_rest (State.rest_fail ..)
  | bodyIdle => exact Tidy.bare (Tidy.of_rest rfl) rfl rfl
  | bodyMissing _ _ _ body => exact body rfl (.inl rfl)
  | bodyWritten _ _ _ readsSemicolon body =>
    exact (body rfl (.inl rfl)).append (readsSemicolon.tidy_nil rfl)
  | classVariable _ declaration => exact declaration rfl (.inl rfl)
  | classAbandoned _ readsTarget => exact readsTarget.tidy_nil rfl
  | classAssignment _ readsTarget _ readsTail =>
    refine Tidy.wrap ((readsTarget.tidy_plain spelled rfl).append
      ((Tidy.of_rest (State.rest_checkTarget ..)).append (readsTail.tidy_plain spelled rfl))) ?_
        rfl rfl
    exact AssignmentStatement.children_toNode _
  | classRejected => exact Tidy.of_rest (State.rest_reject ..)
  | @classItemsNext _ item _ skipped _ more _ goesOn readsItem resumes _ member later =>
    rw [Production.nodes_classItems]
    exact (member rfl (.inl rfl)).append
      ((resumes.tidy braced goesOn readsItem.rest_suffix).append
        (later rfl (.inr resumes.normal)))
  | classBodyMissing => exact Tidy.bare (Tidy.of_rest (State.rest_fail ..)) rfl rfl
  | @classBodyWritten _ opening _ items _ closing _ taken readsItems closes inner =>
    have children := ClassBody.children_written opening.range items closing
    have calm := readsItems.normal_of_isList rfl taken.normal_next
    have tokens : (ClassBody.written opening.range items closing).assembly.node.tokens =
        ⟨.lBrace, opening.range⟩ :: (Part.optional .rBrace closing).filterMap Part.token? := by
      simp [ClassBody.assembly, Part.token?, -List.filterMap_map]
    exact tidy_body braced taken (children ▸ inner rfl (.inr taken.normal_next))
      (readsItems.endsList_next (.inr rfl)) calm closes tokens rfl
  | declarationInstance taken readsName readsParent _ _ _ body =>
    refine Tidy.wrap ((taken.tidy rfl rfl).append ((readsName.tidy_plain spelled rfl).append
      ((readsParent.tidy_plain spelled rfl).append (body rfl (.inl rfl))))) ?_ rfl rfl
    exact InstanceDeclaration.children_toNode _
  | declarationPrototype taken readsName opens readsParent closes _ _ _ _ _ body =>
    refine Tidy.wrap ((taken.tidy rfl rfl).append ((readsName.tidy_plain spelled rfl).append
      ((opens.tidy_nil rfl).append ((readsParent.tidy_plain spelled rfl).append
        ((closes.tidy_nil rfl).append (body rfl (.inl rfl))))))) ?_ rfl rfl
    exact PrototypeDeclaration.children_toNode _
  | declarationFunction taken readsType readsName readsParameters _ _ _ _ body =>
    refine Tidy.wrap ((taken.tidy rfl rfl).append ((readsType.tidy_plain spelled rfl).append
      ((readsName.tidy_plain spelled rfl).append ((readsParameters.tidy_plain spelled rfl).append
        (body rfl (.inl rfl)))))) ?_ rfl rfl
    exact FunctionDeclaration.children_toNode _
  | declarationNamelessClass taken readsName =>
    refine Tidy.wrap ((taken.tidy rfl rfl).append ((readsName.tidy_plain spelled rfl).append
      (Tidy.bare (Tidy.of_rest rfl) ?_ ?_))) (ClassDeclaration.children_toNode _) rfl rfl
    · rfl
    · rfl
  | declarationUnfinishedClass taken readsName _ _ _ _ body =>
    refine Tidy.wrap ((taken.tidy rfl rfl).append ((readsName.tidy_plain spelled rfl).append
      (body rfl (.inl rfl)))) ?_ rfl rfl
    exact ClassDeclaration.children_toNode _
  | declarationClass taken readsName _ _ _ readsSemicolon _ body =>
    refine Tidy.wrap ((taken.tidy rfl rfl).append ((readsName.tidy_plain spelled rfl).append
      ((body rfl (.inl rfl)).append (readsSemicolon.tidy_nil rfl)))) ?_ rfl rfl
    exact ClassDeclaration.children_toNode _
  | declarationVariable _ declaration => exact declaration rfl (.inl rfl)
  | declarationRejected => exact Tidy.of_rest (State.rest_reject ..)
  | _ => cases within

/-- All bodies in a list of declarations reach to closing braces, whatever is skipped between the
declarations. -/
theorem Derivation.allReach (braced : WellBraced (lexemes.map Lexeme.toPlacedToken))
    (spelled : ∀ lexeme ∈ lexemes, lexeme.text.isEmpty = false)
    {production : Production} {value : production.Value}
    (reads : Reads production state value next) (outer : production = .declarations)
    (suffix : state.rest <:+ lexemes) :
    Node.AllReach (lexemes.map Lexeme.toPlacedToken) (production.nodes value) := by
  induction reads with
  | declarationsEnd => exact Node.allReach_nil
  | @declarationsNext _ item _ skipped _ more _ _ readsItem resumes _ _ later =>
    rw [Production.nodes_declarations, Node.allReach_append, Node.allReach_append]
    exact ⟨(readsItem.tidy braced spelled rfl (.inl rfl) suffix).2, Node.allReach_skipped skipped _,
      later outer ((resumes.moves.rest_suffix.trans readsItem.rest_suffix).trans suffix)⟩
  | _ => cases outer

end ScriptTree.Grammar
