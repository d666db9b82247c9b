import Mathlib.Order.Bounds.Defs
import ScriptTree.Proofs.Node.Held

/-!
# The two walks of a tree

One walk keeps a stack of the nodes that it still has to visit, the other one
follows the nesting of the tree.  They visit the same nodes in the same order.
The events of the second walk are nested like the nodes are: between the visit
and the leave of a node there are the events of its children, child after child,
and nothing else.  So each leave closes the node that was opened last, in the end
nothing is open, and the most nodes that are open at a time are as many as the tree
is high.
-/

namespace ScriptTree.Node

variable {node : Node} {nodes others outer inner : List Node} {run later more : List Event}

/-! ## Nested events -/

/-- Events that are nested as some trees are: those of each tree are the visit of its root, the
events of the children of the root, and the leave of the root, and the events of the next tree come
after that. -/
inductive Nested : List Node → List Event → Prop
  | nil : Nested [] []
  | tree {node : Node} {siblings : List Node} {run later : List Event}
      (children : Nested node.children run) (rest : Nested siblings later) :
      Nested (node :: siblings) (.visit node :: (run ++ .leave node :: later))

namespace Nested

/-- Two runs that are nested, one behind the other, are nested. -/
theorem append (first : Nested nodes run) (second : Nested others later) :
    Nested (nodes ++ others) (run ++ later) := by
  induction first with
  | nil => exact second
  | tree children rest _ ih =>
    rw [List.cons_append, List.cons_append, List.append_assoc, List.cons_append]
    exact .tree children ih

/-- There is one way to nest events as some trees are. -/
theorem unique (first : Nested nodes run) (second : Nested nodes later) : run = later := by
  induction first generalizing later with
  | nil =>
    cases second
    rfl
  | tree _ _ inside after =>
    cases second with
    | tree children rest => rw [inside children, after rest]

/-- The stack of nodes to be visited leads to the nodes that nested events visit, whatever trees are
pending on it. -/
theorem visitStack_eq (nested : Nested nodes run) :
    visitStack nodes = run.filterMap Event.visited? := by
  induction nested with
  | nil => rw [visitStack, List.filterMap_nil]
  | @tree node siblings run later _ _ inside after =>
    have left : Event.visited? (.leave node) = none := rfl
    have visited : Event.visited? (.visit node) = some node := rfl
    rw [visitStack, visitStack_append, inside, after, List.filterMap_cons_some visited,
      List.filterMap_append, List.filterMap_cons_none left]

end Nested

mutual

/-- The walk along the nesting has nested events. -/
theorem nested_events (node : Node) : Nested [node] node.events := by
  match node with
  | .mk content range tokens children => exact .tree (nested_forestEvents children) .nil

/-- The events of the children are nested. -/
theorem nested_forestEvents (children : List (Field × Node)) :
    Nested (children.map (·.2)) (forestEvents children) := by
  match children with
  | [] => exact .nil
  | (field, child) :: rest => exact (nested_events child).append (nested_forestEvents rest)

end

/-! ## Open nodes -/

/-- What events do to the nodes that are open, the innermost one first: a visit opens a node, and a
leave closes the node that was opened last. -/
inductive Opens : List Node → List Event → List Node → Prop
  | done (outer : List Node) : Opens outer [] outer
  | visit {outer inner : List Node} {run : List Event} (node : Node)
      (rest : Opens (node :: outer) run inner) : Opens outer (.visit node :: run) inner
  | leave {outer inner : List Node} {run : List Event} (node : Node)
      (rest : Opens outer run inner) : Opens (node :: outer) (.leave node :: run) inner

/-- Nested events close what they open. -/
theorem Nested.opens (nested : Nested nodes run) (rest : Opens outer more inner) :
    Opens outer (run ++ more) inner := by
  induction nested generalizing outer more with
  | nil => exact rest
  | tree _ _ inside after =>
    rw [List.cons_append, List.append_assoc, List.cons_append]
    exact .visit _ (inside (.leave _ (after rest)))

/-! ## Heights -/

mutual

/-- The number of nodes on the longest way down from a node, itself included. -/
def height : Node → Nat
  | .mk _ _ _ children => 1 + forestHeight children

/-- The height of the highest tree. -/
def forestHeight : List (Field × Node) → Nat
  | [] => 0
  | (_, child) :: rest => max child.height (forestHeight rest)

end

/-- The height of the highest of some trees. -/
def highest (nodes : List Node) : Nat :=
  (nodes.map height).foldr max 0

/-- A node is one higher than the highest of its children. -/
theorem height_eq (node : Node) : node.height = 1 + highest node.children := by
  obtain ⟨content, range, tokens, children⟩ := node
  rw [height]
  refine congrArg (1 + ·) ?_
  change forestHeight children = highest (children.map (·.2))
  induction children with
  | nil => rfl
  | cons entry rest ih => rw [forestHeight, ih]; rfl

/-! ## Depths -/

/-- The greatest depth is never below the depth a run starts at. -/
theorem le_maxDepthFrom (depth : Nat) (run : List Event) : depth ≤ maxDepthFrom depth run := by
  rcases run with _ | ⟨_ | _, rest⟩
  · exact Nat.le_refl depth
  · exact Nat.le_max_left ..
  · exact Nat.le_max_left ..

/-- The numbers of nodes that are open at some time in a run, where the nodes `outer` are open at
its start. -/
def openCounts (outer : List Node) (run : List Event) : Set Nat :=
  {count | ∃ before after inner, run = before ++ after ∧ Opens outer before inner ∧
    inner.length = count}

/-- No more nodes are open after a part of a run than the deepest nesting of the run. -/
theorem Opens.length_le (opens : Opens outer run inner) (after : List Event) :
    inner.length ≤ maxDepthFrom outer.length (run ++ after) := by
  induction opens with
  | done outer => exact le_maxDepthFrom ..
  | visit node _ ih => exact ih.trans (Nat.le_max_right ..)
  | leave node _ ih => exact ih.trans (Nat.le_max_right ..)

/-- The deepest nesting of a run is reached. -/
theorem Opens.maxDepthFrom_mem (opens : Opens outer run inner) :
    maxDepthFrom outer.length run ∈ openCounts outer run := by
  induction opens with
  | done outer => exact ⟨[], [], outer, rfl, .done outer, rfl⟩
  | @visit outer inner run node rest ih =>
    rcases ih with ⟨before, after, opened, divided, opens, reached⟩
    refine ⟨.visit node :: before, after, opened, congrArg _ divided, .visit node opens, ?_⟩
    have deep := le_maxDepthFrom (outer.length + 1) run
    rw [reached, maxDepthFrom, List.length_cons]
    omega
  | @leave outer inner run node rest ih =>
    rcases ih with ⟨before, after, opened, divided, opens, reached⟩
    have deepest : maxDepthFrom (node :: outer).length (.leave node :: run) =
        max (outer.length + 1) (maxDepthFrom outer.length run) := rfl
    rcases Nat.le_total (maxDepthFrom outer.length run) (outer.length + 1) with lower | higher
    · refine ⟨[], .leave node :: run, node :: outer, rfl, .done _, ?_⟩
      rw [deepest, Nat.max_eq_left lower, List.length_cons]
    · refine ⟨.leave node :: before, after, opened, congrArg _ divided, .leave node opens, ?_⟩
      rw [deepest, Nat.max_eq_right higher, reached]

/-- The greatest depth of a run is the greatest number of nodes that are open at some time. -/
theorem Opens.isGreatest (opens : Opens outer run inner) :
    IsGreatest (openCounts outer run) (maxDepthFrom outer.length run) := by
  refine ⟨opens.maxDepthFrom_mem, ?_⟩
  rintro count ⟨before, after, opened, rfl, reached, rfl⟩
  exact reached.length_le after

/-- Nested events reach as deep as their trees are high, wherever they begin. -/
theorem Nested.maxDepthFrom_append (nested : Nested nodes run) (depth : Nat) (more : List Event) :
    maxDepthFrom depth (run ++ more) = max (depth + highest nodes) (maxDepthFrom depth more) := by
  induction nested generalizing depth more with
  | nil => exact (Nat.max_eq_right (le_maxDepthFrom depth more)).symm
  | @tree node siblings run later _ _ inside after =>
    have here :
        highest (node :: siblings) = max (1 + highest node.children) (highest siblings) := by
      rw [← height_eq]
      rfl
    have deep := le_maxDepthFrom depth more
    rw [List.cons_append, List.append_assoc, List.cons_append, maxDepthFrom, inside, maxDepthFrom,
      Nat.add_sub_cancel, after, here]
    omega

/-! ## Both walks -/

/-- The deepest nesting of the walk through a tree is the height of the tree. -/
theorem maxDepth_eq_height (node : Node) : node.maxDepth = node.height := by
  have deepest := (nested_events node).maxDepthFrom_append 0 []
  have alone : highest [node] = node.height := Nat.max_eq_left (Nat.zero_le _)
  rw [List.append_nil, alone, Nat.zero_add] at deepest
  exact deepest.trans (Nat.max_eq_left (Nat.zero_le _))

/-- The walk that keeps a stack visits the nodes that the walk along the nesting visits, in the same
order.  The events of the latter are nested like the nodes, and in no other way; all that is opened
is closed again, the innermost node first; and the deepest nesting, which is the greatest number of
nodes that are open at a time, is the height of the tree. -/
theorem descendants_eq_visited (node : Node) :
    node.descendants = node.events.filterMap Event.visited? ∧
      (∀ run, Nested [node] run ↔ run = node.events) ∧
      Opens [] node.events [] ∧
      node.maxDepth = node.height ∧ IsGreatest (openCounts [] node.events) node.height := by
  have nested := nested_events node
  have closed := nested.opens (.done [])
  rw [List.append_nil] at closed
  refine ⟨nested.visitStack_eq, ?_, closed, node.maxDepth_eq_height, ?_⟩
  · intro run
    constructor
    · exact fun other => other.unique nested
    · rintro rfl
      exact nested
  · rw [← maxDepth_eq_height]
    exact closed.isGreatest

end ScriptTree.Node
