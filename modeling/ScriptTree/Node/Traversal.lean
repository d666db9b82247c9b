import ScriptTree.Node

/-!
# Walking a tree

Two walks visit a node and everything below it in source order.  `descendants`
keeps a stack of nodes still to be visited and pushes the children of a node in
front of it.  `events` follows the nesting of the tree, with one event on the
way down and one on the way up.
-/

namespace ScriptTree.Node

mutual

/-- The number of nodes in a tree. -/
def size : Node → Nat
  | .mk _ _ _ children => 1 + forestSize children

/-- How many nodes there are in some trees. -/
def forestSize : List (Field × Node) → Nat
  | [] => 0
  | (_, child) :: rest => child.size + forestSize rest

end

/-- How many nodes are below or on a stack. -/
def stackSize : List Node → Nat
  | [] => 0
  | node :: rest => node.size + stackSize rest

theorem stackSize_append (first second : List Node) :
    stackSize (first ++ second) = stackSize first + stackSize second := by
  induction first with
  | nil => simp [stackSize]
  | cons node rest ih => simp [stackSize, ih, Nat.add_assoc]

/-- The children of a node make one node less than the node has. -/
theorem stackSize_children (node : Node) :
    stackSize node.children + 1 = node.size := by
  obtain ⟨content, range, tokens, children⟩ := node
  simp only [Node.children, fields, size]
  induction children with
  | nil => rfl
  | cons entry rest ih =>
    obtain ⟨field, child⟩ := entry
    simp only [List.map_cons, stackSize, forestSize]
    omega

/-- The nodes that a stack of trees leads to, each before its descendants. -/
def visitStack : List Node → List Node
  | [] => []
  | node :: rest => node :: visitStack (node.children ++ rest)
termination_by stack => stackSize stack
decreasing_by
  have := stackSize_children node
  simp only [stackSize, stackSize_append]
  omega

/-- The node and everything below it, each node before its descendants. -/
def descendants (node : Node) : List Node :=
  visitStack [node]

/-- Whether the tree holds an error node or a missing node. -/
def hasError (node : Node) : Bool :=
  node.descendants.any isFaulty

/-- A step of a walk that follows the nesting of the tree. -/
inductive Event where
  | visit (node : Node)
  | leave (node : Node)

mutual

/-- A node is visited, then its children are, and then it is left. -/
def events : Node → List Event
  | .mk content range tokens children =>
    .visit (.mk content range tokens children) ::
      (forestEvents children ++ [.leave (.mk content range tokens children)])

/-- The events of some trees, one tree after the other. -/
def forestEvents : List (Field × Node) → List Event
  | [] => []
  | (_, child) :: rest => child.events ++ forestEvents rest

end

/-- The node that is visited, if this is a visit. -/
def Event.visited? : Event → Option Node
  | .visit node => some node
  | .leave _ => none

/-- The deepest nesting that a run of events reaches, starting from nesting `depth`. -/
def maxDepthFrom (depth : Nat) : List Event → Nat
  | [] => depth
  | .visit _ :: rest => max depth (maxDepthFrom (depth + 1) rest)
  | .leave _ :: rest => max depth (maxDepthFrom (depth - 1) rest)

/-- The nesting of the most deeply nested node; the root alone has depth one. -/
def maxDepth (node : Node) : Nat :=
  maxDepthFrom 0 node.events

mutual

/-- Every node below and including this one with its depth, where this one has depth `depth`. -/
def outline (depth : Nat) (field : Option Field) : Node → List (Nat × Option Field × Node)
  | .mk content range tokens children =>
    (depth, field, .mk content range tokens children) :: forestOutline (depth + 1) children

/-- The outlines of the children of a node, all at the same depth. -/
def forestOutline (depth : Nat) : List (Field × Node) → List (Nat × Option Field × Node)
  | [] => []
  | (field, child) :: rest => child.outline depth (some field) ++ forestOutline depth rest

end

end ScriptTree.Node
