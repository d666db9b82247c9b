import ScriptTree.Proofs.Node.Braces

/-!
# The faults of a tree

A node is faulty if it is an error node or stands for something that is missing.
A property of the places where the faulty nodes of a tree start is a property of
the parts that the tree is put together from, since a node that is written with
a token of its own, or is of a kind that is never left out, is not faulty.
-/

namespace ScriptTree

namespace Node

/-- Whether the faulty nodes among some nodes and below them start at allowed offsets only. -/
def FaultsAt (allowed : Nat → Prop) (nodes : List Node) : Prop :=
  ∀ node ∈ nodes.flatMap descendants, node.isFaulty = true → allowed node.range.span.start

variable {allowed : Nat → Prop}

@[simp]
theorem faultsAt_nil : FaultsAt allowed [] :=
  every_nil

/-- The faults among two groups of nodes are those of each. -/
@[simp]
theorem faultsAt_append {first second : List Node} :
    FaultsAt allowed (first ++ second) ↔ FaultsAt allowed first ∧ FaultsAt allowed second :=
  every_append

/-- The faults of a node are itself and those below. -/
theorem faultsAt_singleton {node : Node} :
    FaultsAt allowed [node] ↔
      (node.isFaulty = true → allowed node.range.span.start) ∧ FaultsAt allowed node.children :=
  every_singleton

/-- Around some nodes, a node that is not faulty itself makes no difference. -/
theorem faultsAt_of_sound {node : Node} (sound : node.isFaulty = false) :
    FaultsAt allowed [node] ↔ FaultsAt allowed node.children := by
  rw [faultsAt_singleton, sound]
  simp

/-- A node without children. -/
theorem faultsAt_of_bare {node : Node} (bare : node.children = [])
    (start : node.isFaulty = true → allowed node.range.span.start) : FaultsAt allowed [node] := by
  rw [faultsAt_singleton, bare]
  exact ⟨start, faultsAt_nil⟩

/-- Faults at some offsets are faults at more of them. -/
theorem FaultsAt.mono {nodes : List Node} {wider : Nat → Prop}
    (faults : FaultsAt allowed nodes) (weaker : ∀ offset, allowed offset → wider offset) :
    FaultsAt wider nodes :=
  fun node member faulty => weaker _ (faults node member faulty)

/-- A node is without errors exactly when no node in it is faulty. -/
theorem hasError_eq_false_iff {node : Node} :
    node.hasError = false ↔ ∀ inner ∈ node.descendants, inner.isFaulty = false := by
  rw [hasError, List.any_eq_false]
  simp

end Node

/-! ## Nodes that are written -/

/-- An identifier with a name is not faulty. -/
theorem Identifier.isFaulty_node {name : Identifier} (written : name.name.isEmpty = false) :
    name.assembly.node.isFaulty = false :=
  written

/-- A block that was begun is not faulty itself. -/
theorem Block.isFaulty_written (opening : Range) (statements : List Statement)
    (closing : Option Range) : (written opening statements closing).toNode.isFaulty = false :=
  rfl

theorem ClassBody.isFaulty_written (opening : Range) (items : List ClassItem)
    (closing : Option Range) :
    (written opening items closing).assembly.node.isFaulty = false :=
  rfl

theorem ParameterList.isFaulty_written (opening : Range)
    (parameters : List (Parameter × Option Range)) (closing : Option Range) :
    (written opening parameters closing).assembly.node.isFaulty = false :=
  rfl

end ScriptTree
