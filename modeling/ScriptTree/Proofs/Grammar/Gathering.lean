import ScriptTree.Proofs.Conservation
import ScriptTree.Proofs.Grammar.Collecting

/-!
# What holds of every node

The nodes of a program are names, types, the nodes of expressions, and the nodes
that frame these.  So a property of nodes that every frame has is a property of
every node that a production yields, once it is known of names, of types, and of
the expressions that are read as a whole.
-/

namespace ScriptTree

namespace Grammar

/-- A property of nodes that every frame has, and that is known of the other nodes wherever the
parse is `ready` to read them. -/
structure Spreads (ready : State → Prop) (holds : Node → Prop) : Prop where
  kept : ∀ {state next : State}, Moves state next → ready state → ready next
  frame : ∀ node : Node, node.kind.isFrame = true → holds node
  name : ∀ {state next : State} {lexeme : Lexeme},
    Takes state (State.only .identifier) () lexeme next → ready state →
      holds (⟨lexeme.text, lexeme.range⟩ : Identifier).assembly.node
  nameMissing : ∀ state : State, ready state →
    holds (Identifier.missing state.anchor).assembly.node
  type : ∀ {state next : State} {value : TypeReference},
    Reads .typeReference state value next → ready state → holds value.assembly.node
  operation : ∀ {power : Nat} {state next : State} {value : Expression},
    Reads (.operation power) state value next → ready state →
      Node.Every holds [value.toNode]

/-- From a state where the parse is ready it comes to one, and the nodes that it adds to the tree
have a property. -/
def Gathers (ready : State → Prop) (holds : Node → Prop) (state next : State)
    (nodes : List Node) : Prop :=
  ready state → ready next ∧ Node.Every holds nodes

variable {ready : State → Prop} {holds : Node → Prop} {state between next : State}

namespace Gathers

theorem refl (state : State) : Gathers ready holds state state [] :=
  fun begun => ⟨begun, Node.every_nil⟩

/-- What is gathered in two parts of a parse is gathered in order. -/
theorem append {early late : List Node} (first : Gathers ready holds state between early)
    (second : Gathers ready holds between next late) :
    Gathers ready holds state next (early ++ late) := by
  intro begun
  rcases first begun with ⟨readyBetween, everyEarly⟩
  rcases second readyBetween with ⟨readyNext, everyLate⟩
  exact ⟨readyNext, Node.every_append.mpr ⟨everyEarly, everyLate⟩⟩

theorem andThen {nodes : List Node} (first : Gathers ready holds state between nodes)
    (second : Gathers ready holds between next []) : Gathers ready holds state next nodes := by
  simpa using first.append second

/-- A node around what was gathered is gathered, if it holds what is asked. -/
theorem wrap {nodes : List Node} (gathers : Gathers ready holds state next nodes) {node : Node}
    (children : node.children = nodes) (here : holds node) :
    Gathers ready holds state next [node] := by
  intro begun
  rcases gathers begun with ⟨readyNext, every⟩
  exact ⟨readyNext, Node.every_singleton.mpr ⟨here, children ▸ every⟩⟩

section

variable (kept : ∀ {state next : State}, Moves state next → ready state → ready next)

include kept

/-- A move adds no node to the tree. -/
theorem of_moves (moves : Moves state next) : Gathers ready holds state next [] :=
  fun begun => ⟨kept moves begun, Node.every_nil⟩

theorem of_takes {α : Type} {recognize : Token → Option α} {value : α} {lexeme : Lexeme}
    (taken : Takes state recognize value lexeme next) : Gathers ready holds state next [] :=
  of_moves kept taken.moves

end

end Gathers

namespace Spreads

theorem moves (spreads : Spreads ready holds) (moves : Moves state next) :
    Gathers ready holds state next [] :=
  .of_moves spreads.kept moves

theorem take {α : Type} {recognize : Token → Option α} {value : α} {lexeme : Lexeme}
    (spreads : Spreads ready holds) (taken : Takes state recognize value lexeme next) :
    Gathers ready holds state next [] :=
  .of_takes spreads.kept taken

/-- What spreads over the nodes around names, types and expressions is collected. -/
theorem collects (spreads : Spreads ready holds) : Collects (Gathers ready holds) where
  refl := Gathers.refl
  append := Gathers.append
  take := fun taken => spreads.take taken
  fail := fun _ _ => spreads.moves (moves_fail ..)
  reportMissing := fun _ _ => spreads.moves (moves_reportMissing ..)
  reject := fun _ _ => spreads.moves (acts_reject ..).moves
  resume := fun resumes => spreads.moves resumes.moves
  name := fun taken begun => (spreads.take taken).wrap rfl (spreads.name taken begun) begun
  nameMissing := fun state begun =>
    (spreads.moves (moves_fail ..)).wrap rfl (spreads.nameMissing state begun) begun
  nameIdle := fun state _ begun =>
    (Gathers.refl state).wrap rfl (spreads.nameMissing state begun) begun
  type := fun reads begun => (spreads.moves reads.moves).wrap rfl (spreads.type reads begun) begun
  operation := fun reads begun => ⟨spreads.kept reads.moves begun, spreads.operation reads begun⟩
  dropped := fun reads => spreads.moves reads.moves
  frame := fun node plain related =>
    related.wrap rfl (spreads.frame node (NodeKind.isFrame_of_isPlainFrame plain))
  assignment := by
    intro state between next target tail left right
    have sides := (left.andThen (spreads.moves (moves_checkTarget ..))).append right
    exact sides.wrap (AssignmentStatement.children_toNode _) (spreads.frame _ rfl)
  conditional := fun _ related => related.wrap rfl (spreads.frame _ rfl)

end Spreads

/-- What is known of names, types and expressions holds of every node that a production yields. -/
theorem Derivation.gathers (spreads : Spreads ready holds) {production : Production}
    {value : production.Value} (reads : Reads production state value next)
    (whole : production.isChain = false) :
    Gathers ready holds state next (production.trees value) :=
  reads.collects spreads.collects whole

/-! ## Properties of leaves -/

/-- A property of nodes that only names, types and literals can lack, and that is known of those
which are read where the parse is `ready`. -/
structure MarksLeaves (ready : State → Prop) (holds : Node → Prop) : Prop where
  kept : ∀ {state next : State}, Moves state next → ready state → ready next
  plain : ∀ node : Node, node.kind.isLeaf = false → holds node
  name : ∀ {state next : State} {lexeme : Lexeme},
    Takes state (State.only .identifier) () lexeme next → ready state →
      holds (⟨lexeme.text, lexeme.range⟩ : Identifier).assembly.node
  nameMissing : ∀ state : State, ready state →
    holds (Identifier.missing state.anchor).assembly.node
  type : ∀ {state next : State} {value : TypeReference},
    Reads .typeReference state value next → ready state → holds value.assembly.node
  literal : ∀ {state next : State} {literal : Literal} {lexeme : Lexeme},
    Takes state Literal.ofToken? literal lexeme next → ready state →
      holds (literal.expression lexeme).toNode

/-- What is known of the leaves holds of every node of an expression. -/
theorem Derivation.gathers_expression (marks : MarksLeaves ready holds) {production : Production}
    {value : production.Value} (reads : Reads production state value next)
    (expression : production.isExpression = true) :
    Gathers ready holds state next (production.trees value) := by
  have take : ∀ {state next : State} {α : Type} {recognize : Token → Option α} {value : α}
      {lexeme : Lexeme}, Takes state recognize value lexeme next →
        Gathers ready holds state next [] := fun taken => .of_takes marks.kept taken
  have moves : ∀ {state next : State}, Moves state next → Gathers ready holds state next [] :=
    fun moves => .of_moves marks.kept moves
  have name : ∀ {state next : State} {value : Identifier},
      Reads .directName state value next →
        Gathers ready holds state next [value.assembly.node] := by
    intro state next value readsName
    cases readsName with
    | nameTaken taken => exact fun begun => (take taken).wrap rfl (marks.name taken begun) begun
    | nameMissing =>
      exact fun begun => (moves (moves_fail ..)).wrap rfl (marks.nameMissing _ begun) begun
  have plain : ∀ node : Node, node.kind.isLeaf = false → node.isFaulty = false → holds node :=
    fun node parts _ => marks.plain node parts
  induction reads with
  | operation _ _ first tails =>
    intro begun
    rcases (first rfl).append (tails rfl) begun with ⟨readyNext, every⟩
    exact ⟨readyNext, (every_foldl_binary plain _ _).mpr every⟩
  | operatorsEnd | accessesEnd => exact .refl _
  | operatorsNext taken _ _ right tails =>
    exact ((take taken).append (right rfl)).append (tails rfl)
  | operandSigned taken _ inner =>
    exact ((take taken).append (inner rfl)).wrap (Expression.children_unary ..)
      (marks.plain _ rfl)
  | operandPlain _ _ _ head tails =>
    intro begun
    rcases (head rfl).append (tails rfl) begun with ⟨readyNext, every⟩
    exact ⟨readyNext, (every_foldl_access plain _ _).mpr every⟩
  | primaryParenthesized taken _ closes inner =>
    exact (((take taken).append (inner rfl)).andThen (moves closes.moves)).wrap
      (Expression.children_parenthesized ..) (marks.plain _ rfl)
  | @primaryLiteral _ literal _ _ taken =>
    intro begun
    refine (take taken).wrap ?_ (marks.literal taken begun) begun
    cases literal <;> rfl
  | primaryMissing => exact (moves (moves_fail ..)).wrap rfl (marks.plain _ rfl)
  | accessesIndex taken _ closes _ inner _ more =>
    exact (((take taken).append (inner rfl)).andThen (moves closes.moves)).append (more rfl)
  | accessesMember taken readsName _ _ more =>
    exact ((take taken).append (name readsName)).append (more rfl)
  | accessesEmptyCall taken closes _ more =>
    exact ((take taken).append (take closes)).append (more rfl)
  | accessesCall taken _ _ _ items more =>
    exact ((take taken).append (items rfl)).append (more rfl)
  | argumentsLast _ _ closes argument => exact (argument rfl).andThen (moves closes.moves)
  | argumentsTrailing _ taken closes argument =>
    exact (((argument rfl).andThen (take taken)).andThen (moves (moves_fail ..))).andThen
      (take closes)
  | argumentsNext _ taken _ _ argument more =>
    exact ((argument rfl).andThen (take taken)).append (more rfl)
  | _ => cases expression

/-- What is known of the leaves of expressions is known of expressions. -/
theorem MarksLeaves.spreads (marks : MarksLeaves ready holds) : Spreads ready holds where
  kept := marks.kept
  frame := fun node frame => marks.plain node (NodeKind.isLeaf_eq_false_of_isFrame frame)
  name := marks.name
  nameMissing := marks.nameMissing
  type := marks.type
  operation := fun reads begun => (reads.gathers_expression marks rfl begun).2

end Grammar

/-- What holds of the root of a tree and throughout its declarations holds of every node. -/
theorem ParseResult.forall_mem_descendants {holds : Node → Prop} {result : ParseResult}
    (root : holds result.root)
    (below : Node.Every holds (result.program.declarations.map Declaration.toNode)) :
    ∀ node ∈ result.root.descendants, holds node := by
  have every := Node.every_singleton.mpr ⟨root, result.children_root ▸ below⟩
  rwa [Node.Every, List.flatMap_singleton] at every

/-- What is known of names, types and expressions holds of every node in the tree of a source. -/
theorem forall_mem_descendants_root {ready : Grammar.State → Prop} {holds : Node → Prop}
    (spreads : Grammar.Spreads ready holds) {source : String} (options : ParseOptions)
    (begun : ready (.ofLexemes (Lexing.ofSource source).lexemes)) :
    ∀ node ∈ (parse source options).root.descendants, holds node := by
  rcases exists_reads_parse source options with ⟨final, reads, -⟩
  exact ParseResult.forall_mem_descendants (spreads.frame _ rfl)
    (reads.gathers spreads rfl begun).2

end ScriptTree
