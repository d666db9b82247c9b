import ScriptTree.Proofs.Grammar.Acceptance
import ScriptTree.Proofs.Grammar.Collecting
import ScriptTree.Proofs.Grammar.Grouping
import ScriptTree.Proofs.Node.Parts
import ScriptTree.Proofs.Node.Written

/-!
# Expressions of a parse without a report

What is read without a report is complete, and the lexemes that it took are what it
is written as.  Its operands bind as tightly as its operators ask for.  All of this
is handed down from an expression to its parts.  So each node of an expression, and
each name, comes from an expression that could be read by itself, from lexemes that
stand in a row.
-/

namespace ScriptTree

/-- The kinds of expressions that may stand where any expression may; an array initializer is none,
since only a variable can have it for a value. -/
def NodeKind.isExpression : NodeKind → Bool
  | .binaryExpression | .unaryExpression | .arrayAccess | .memberAccess | .callExpression
  | .parenthesizedExpression | .identifier | .number | .string | .boolean => true
  | _ => false

theorem NodeKind.isExpression_eq_false_of_isFrame {kind : NodeKind} (frame : kind.isFrame = true) :
    kind.isExpression = false := by
  cases kind <;> cases frame <;> rfl

/-- A complete expression with operands that bind tightly enough, which some of the lexemes are
read as. -/
structure Expression.StandsIn (lexemes : List Lexeme) (expression : Expression) : Prop where
  complete : expression.isComplete = true
  grouped : expression.isGrouped = true
  exists_own : ∃ own, own <:+: lexemes ∧ List.Forall₂ Lexeme.Fills own expression.slots

/-- Parts stand where the expression stands. -/
theorem Expression.StandsIn.of_mem_parts {lexemes : List Lexeme} {expression part : Expression}
    (stands : expression.StandsIn lexemes) (member : part ∈ expression.parts) :
    part.StandsIn lexemes where
  complete := isComplete_of_mem_parts stands.complete member
  grouped := isGrouped_of_mem_parts stands.grouped member
  exists_own := by
    rcases stands.exists_own with ⟨own, within, fills⟩
    rcases Slot.exists_infix_of_forall₂ fills (slots_infix_of_mem_parts member)
      with ⟨less, inside, fillsPart⟩
    exact ⟨less, inside.trans within, fillsPart⟩

/-- A node of an expression is the node of one that stands in the lexemes. -/
def Node.StandsIn (lexemes : List Lexeme) (node : Node) : Prop :=
  node.kind.isExpression = true →
    ∃ expression : Expression, expression.toNode = node ∧ expression.StandsIn lexemes

theorem Node.standsIn_of_isExpression_eq_false {lexemes : List Lexeme} {node : Node}
    (other : node.kind.isExpression = false) : node.StandsIn lexemes := by
  intro expression
  rw [expression] at other
  cases other

theorem Expression.StandsIn.every {lexemes : List Lexeme} {expression : Expression}
    (stands : expression.StandsIn lexemes) :
    Node.Every (Node.StandsIn lexemes) [expression.toNode] := by
  refine every_of_parts (StandsIn lexemes) ?_ ?_ of_mem_parts stands
  · intro node kind
    exact Node.standsIn_of_isExpression_eq_false (by rw [kind]; rfl)
  · intro expression stands _
    exact ⟨expression, rfl, stands⟩

namespace Grammar

variable {state between next : State} {lexemes : List Lexeme}

/-- What a production takes without a report fills the slots of its value. -/
theorem Derivation.exists_own {production : Production} {value : production.Value}
    (reads : Reads production state value next) (plain : production.IsPlain)
    (sound : state.Sound) (clean : next.Clean) :
    ∃ own, own ++ next.rest = state.rest ∧
      List.Forall₂ Lexeme.Fills own (production.slots value) := by
  rcases reads.rest_suffix with ⟨own, whole⟩
  have written := reads.marks_of_clean plain sound clean
  have placed := reads.placed sound.spelled
  rw [State.marks, State.marks, ← whole, List.map_append] at written
  rw [State.placed, State.placed, ← whole, List.map_append] at placed
  exact ⟨own, whole, Slot.forall₂_fills (List.append_cancel_right written)
    (List.append_cancel_right placed)⟩

/-- What was taken since a state is among the lexemes that this state faces the end of. -/
theorem infix_of_append {own : List Lexeme} (whole : own ++ next.rest = state.rest)
    (suffix : state.rest <:+ lexemes) : own <:+: lexemes :=
  (whole ▸ List.prefix_append own next.rest).isInfix.trans suffix.isInfix

/-- If nothing was reported up to the second state, each expression among the nodes stands in the
lexemes that the first state faces the end of. -/
def Places (lexemes : List Lexeme) (state next : State) (nodes : List Node) : Prop :=
  Moves state next ∧ (state.Sound → state.rest <:+ lexemes → next.Clean →
    Node.Every (Node.StandsIn lexemes) nodes)

namespace Places

theorem of_moves (moves : Moves state next) : Places lexemes state next [] :=
  ⟨moves, fun _ _ _ => Node.every_nil⟩

theorem append {early late : List Node} (first : Places lexemes state between early)
    (second : Places lexemes between next late) : Places lexemes state next (early ++ late) := by
  refine ⟨first.1.trans second.1, fun sound suffix clean => Node.every_append.mpr ⟨?_, ?_⟩⟩
  · exact first.2 sound suffix (second.1.clean (first.1.sound sound) clean)
  · exact second.2 (first.1.sound sound) (first.1.rest_suffix.trans suffix) clean

theorem wrap {node : Node} (below : Places lexemes state next node.children)
    (frame : node.kind.isFrame = true) : Places lexemes state next [node] := by
  refine ⟨below.1, fun sound suffix clean => Node.every_singleton.mpr ⟨?_, ?_⟩⟩
  · exact Node.standsIn_of_isExpression_eq_false (NodeKind.isExpression_eq_false_of_isFrame frame)
  · exact below.2 sound suffix clean

theorem of_name {lexeme : Lexeme} (taken : Takes state (State.only .identifier) () lexeme next) :
    Places lexemes state next [(⟨lexeme.text, lexeme.range⟩ : Identifier).assembly.node] := by
  have reads : Reads .directName state _ next := .nameTaken taken
  refine ⟨reads.moves, fun sound suffix clean => ?_⟩
  rcases reads.exists_own trivial sound clean with ⟨own, whole, fills⟩
  have stands : (Expression.identifier ⟨lexeme.text, lexeme.range⟩).StandsIn lexemes :=
    { complete := reads.isComplete_of_clean trivial sound clean
      grouped := rfl
      exists_own := ⟨own, infix_of_append whole suffix, fills⟩ }
  exact stands.every

theorem of_operation {power : Nat} {value : Expression}
    (reads : Reads (.operation power) state value next) :
    Places lexemes state next [value.toNode] := by
  refine ⟨reads.moves, fun sound suffix clean => Expression.StandsIn.every ?_⟩
  rcases reads.exists_own trivial sound clean with ⟨own, whole, fills⟩
  exact
    { complete := reads.isComplete_of_clean trivial sound clean
      grouped := reads.binds.1
      exists_own := ⟨own, infix_of_append whole suffix, fills⟩ }

end Places

/-- The expressions that productions add to the tree stand in the lexemes. -/
theorem collects_places (lexemes : List Lexeme) : Collects (Places lexemes) where
  refl := fun _ => .of_moves .refl
  append := Places.append
  take := fun taken => .of_moves taken.moves
  fail := fun _ _ => .of_moves (moves_fail ..)
  reportMissing := fun _ _ => .of_moves (moves_reportMissing ..)
  reject := fun _ _ => .of_moves (acts_reject ..).moves
  resume := fun resumes => .of_moves resumes.moves
  name := Places.of_name
  nameMissing := fun _ => ⟨moves_fail .., fun _ _ clean => absurd clean (not_clean_fail _ _)⟩
  nameIdle := fun _ recovering =>
    ⟨.refl, fun _ _ clean => absurd (recovering.symm.trans clean.normal) nofun⟩
  type := fun reads => ⟨reads.moves, fun _ _ _ => Node.every_singleton.mpr
    ⟨Node.standsIn_of_isExpression_eq_false rfl, Node.every_nil⟩⟩
  operation := Places.of_operation
  dropped := fun reads => .of_moves reads.moves
  frame := fun _ plain below => below.wrap (NodeKind.isFrame_of_isPlainFrame plain)
  assignment := by
    intro state between next target tail left right
    have checked : Places lexemes between (between.checkTarget target) [] :=
      .of_moves (moves_checkTarget ..)
    refine Places.wrap ?_ rfl
    rw [AssignmentStatement.children_toNode]
    exact left.append (checked.append right)
  conditional := fun _ below => below.wrap rfl

end Grammar

end ScriptTree
