import ScriptTree.Proofs.Node.Braces
import ScriptTree.Proofs.Syntax.Parts

/-!
# The nodes of an expression

The children of an expression are the nodes of its parts; only the arguments of a
call stand in a list of their own.  So a property of nodes holds throughout the
tree of an expression if it holds of argument lists, and if it follows from
something that every expression hands down to its parts.
-/

namespace ScriptTree

/-- The kinds of the nodes that expressions are made of. -/
def NodeKind.isWithinExpression : NodeKind → Bool
  | .binaryExpression | .unaryExpression | .arrayAccess | .memberAccess | .callExpression
  | .argumentList | .parenthesizedExpression | .arrayInitializer | .identifier | .number
  | .string | .boolean | .error => true
  | _ => false

theorem Node.every_of_forall {holds : Node → Prop} {nodes : List Node}
    (each : ∀ node ∈ nodes, Every holds [node]) : Every holds nodes := by
  induction nodes with
  | nil => exact every_nil
  | cons node rest ih =>
    rw [List.forall_mem_cons] at each
    exact every_cons.mpr ⟨each.1, ih each.2⟩

/-- What a stack of trees leads to, it leads to with everything below. -/
theorem Node.descendants_subset_visitStack (stack : List Node) :
    ∀ node ∈ visitStack stack, node.descendants ⊆ visitStack stack := by
  fun_induction visitStack stack with
  | case1 => exact List.forall_mem_nil _
  | case2 node rest ih =>
    refine List.forall_mem_cons.mpr ⟨?_, fun below member => ?_⟩
    · rw [descendants, visitStack, List.append_nil, visitStack_append]
      exact List.cons_subset_cons node (List.subset_append_left ..)
    · exact List.subset_cons_of_subset node (ih below member)

/-- What holds throughout a tree holds throughout each tree below. -/
theorem Node.every_of_mem_descendants {holds : Node → Prop} {root node : Node}
    (every : Every holds [root]) (member : node ∈ root.descendants) : Every holds [node] := by
  rw [Every, List.flatMap_singleton] at every ⊢
  exact fun below within => every below (descendants_subset_visitStack _ node member within)

namespace Expression

/-- What holds of argument lists holds of all children of an expression once it holds throughout
the parts of that expression. -/
theorem every_children {holds : Node → Prop}
    (list : ∀ node : Node, node.kind = .argumentList → holds node) {expression : Expression}
    (each : ∀ part ∈ expression.parts, Node.Every holds [part.toNode]) :
    Node.Every holds expression.toNode.children := by
  have listed : ∀ {items : List (Expression × Option Range)},
      (∀ part ∈ items.map (·.1), Node.Every holds [part.toNode]) →
        Node.Every holds (items.map fun item => item.1.toNode) := by
    intro items each
    refine Node.every_of_forall fun node member => ?_
    rcases List.mem_map.mp member with ⟨item, among, rfl⟩
    exact each item.1 (List.mem_map_of_mem among)
  cases expression with
  | binary operator left sign right =>
    rw [children_binary]
    exact Node.every_of_forall (by simpa [parts] using each)
  | unary operator sign operand =>
    rw [children_unary]
    exact each operand (by simp [parts])
  | arrayAccess array opening index closing =>
    rw [children_arrayAccess]
    exact Node.every_of_forall (by simpa [parts] using each)
  | memberAccess object dot member =>
    rw [children_memberAccess]
    exact Node.every_of_forall (by simpa [parts, toNode, assembly] using each)
  | call function opening items closing =>
    rcases children_call function opening items closing with ⟨arguments, children, kind, -, inner⟩
    rw [parts, List.forall_mem_cons] at each
    rw [children, Node.every_cons]
    exact ⟨each.1, Node.every_singleton.mpr ⟨list _ kind, inner ▸ listed each.2⟩⟩
  | parenthesized opening inner closing =>
    rw [children_parenthesized]
    exact each inner (by simp [parts])
  | arrayInitializer opening elements gap closing =>
    rw [children_arrayInitializer]
    exact listed each
  | boolean | number | string | identifier | error => exact Node.every_nil

/-- What an expression hands down to its parts gives each node of its tree what it implies. -/
theorem every_of_parts {holds : Node → Prop} (keeps : Expression → Prop)
    (list : ∀ node : Node, node.kind = .argumentList → holds node)
    (here : ∀ {expression : Expression}, keeps expression → holds expression.toNode)
    (below : ∀ {expression part : Expression}, keeps expression → part ∈ expression.parts →
      keeps part) {expression : Expression} (kept : keeps expression) :
    Node.Every holds [expression.toNode] := by
  refine Node.every_singleton.mpr ⟨here kept, every_children list fun part member => ?_⟩
  have := sizeOf_lt_of_mem_parts member
  exact every_of_parts keeps list here below (below kept member)
termination_by sizeOf expression

theorem isWithinExpression_kind_toNode (expression : Expression) :
    expression.toNode.kind.isWithinExpression = true := by
  cases expression <;> rfl

/-- What holds of nodes of the kinds that expressions are made of holds throughout the tree of an
expression. -/
theorem every_of_isWithinExpression {holds : Node → Prop}
    (within : ∀ node : Node, node.kind.isWithinExpression = true → holds node)
    (expression : Expression) : Node.Every holds [expression.toNode] := by
  refine every_of_parts (fun _ => True) ?_ ?_ (fun _ _ => trivial) trivial
  · intro node kind
    exact within node (by rw [kind]; rfl)
  · intro expression _
    exact within _ (isWithinExpression_kind_toNode expression)

end Expression

end ScriptTree
