import Mathlib.Data.List.Forall2
import ScriptTree.Format.TreeDrawing
import ScriptTree.Proofs.Coherence
import ScriptTree.Proofs.Node.Address
import ScriptTree.Proofs.Node.Captions
import ScriptTree.Snapshot

/-!
# One line for each node

The drawing of a tree has the lines of its nodes in the order in which the nodes are
visited.  In front of a node there are two characters for each of its ancestors below
the root and two for the node itself, and they tell which of them have siblings behind
them.  The connectors are handed down from line to line; here they are found from the
address of the node alone.

No line is broken by what it shows, since what labels a node stands on one line of the
source.
-/

namespace ScriptTree

open Piece (isLineBreak OnOneLine onOneLine_nil onOneLine_cons onOneLine_append)

/-! ## Text without line breaks -/

theorem NodeKind.isLineBreak_icon (kind : NodeKind) : isLineBreak kind.icon = false := by
  cases kind <;> decide

namespace Node

variable {node : Node}

/-- A node is drawn on one line if its caption is on one line. -/
theorem onOneLine_drawnText (caption : OnOneLine node.content.caption.toList) :
    OnOneLine node.drawnText := by
  have kind : OnOneLine node.kind.label.toList := by
    cases node.kind <;> decide
  have cut : OnOneLine (cutCaption node.content.caption.toList) := by
    unfold cutCaption
    split
    · exact onOneLine_append.mpr
        ⟨fun character member => caption character (List.mem_of_mem_take member), by decide⟩
    · exact caption
  refine onOneLine_append.mpr ⟨kind, onOneLine_append.mpr ⟨?_, ?_⟩⟩
  · split
    · exact onOneLine_nil
    · exact onOneLine_cons.mpr ⟨by decide, cut⟩
  · split <;> decide

theorem onOneLine_margin (numbered : Bool) (node : Node) : OnOneLine (margin numbered node) := by
  have digit : ∀ character ∈ lineNumber node.range.start.line, character.isDigit = true := by
    intro character member
    rcases List.mem_append.mp member with filler | digit
    · rw [List.eq_of_mem_replicate filler]
      rfl
    · exact Nat.isDigit_of_mem_toDigits (by decide) (by decide) digit
  unfold margin
  split
  · refine onOneLine_append.mpr ⟨fun character member => ?_, by decide⟩
    exact Piece.isLineBreak_of_accepts (by decide) (by decide) (digit character member)
  · exact onOneLine_nil

/-! ## Connectors -/

/-- The connectors in front of the node at an address: two characters for each of its ancestors
below the root, the outermost one first, and two for the node itself. -/
def connectors (root : Node) (address : List Nat) : List Char :=
  ((between address).flatMap fun above =>
      if root.hasLaterSibling above then ['│', ' '] else [' ', ' ']) ++
    if root.hasLaterSibling address then ['├', '─'] else ['└', '─']

/-- The connectors in front of a node are on one line. -/
theorem onOneLine_connectors (root : Node) (address : List Nat) :
    OnOneLine (root.connectors address) := by
  refine onOneLine_append.mpr ⟨?_, by split <;> decide⟩
  intro character member
  rcases List.mem_flatMap.mp member with ⟨above, -, among⟩
  have pair : OnOneLine (if root.hasLaterSibling above then ['│', ' '] else [' ', ' ']) := by
    split <;> decide
  exact pair character among

/-- Below the root, a node is connected by a corner exactly if it is the last one. -/
theorem connectors_singleton (root : Node) (index : Nat) :
    root.connectors [index] = connector root.fields[index + 1]?.isNone := by
  rw [connectors, between_singleton, hasLaterSibling_singleton]
  cases root.fields[index + 1]? <;> rfl

/-- A node hands its rail down to those below it. -/
theorem connectors_cons {child : Node} {field : Field} {index : Nat} {address : List Nat}
    (under : node.fields[index]? = some (field, child)) (below : address ≠ []) :
    node.connectors (index :: address) =
      rail node.fields[index + 1]?.isNone ++ child.connectors address := by
  have here : (if node.hasLaterSibling [index] then ['│', ' '] else [' ', ' ']) =
      rail node.fields[index + 1]?.isNone := by
    rw [hasLaterSibling_singleton]
    cases node.fields[index + 1]? <;> rfl
  have inner : ∀ above ∈ between address,
      (if node.hasLaterSibling (index :: above) then ['│', ' '] else [' ', ' ']) =
        if child.hasLaterSibling above then ['│', ' '] else [' ', ' '] := by
    intro above member
    rw [hasLaterSibling_cons under (ne_nil_of_mem_between member)]
  rw [connectors, connectors, between_cons below, List.flatMap_cons, here, List.flatMap_map,
    List.flatMap_congr inner, hasLaterSibling_cons under below, List.append_assoc]

/-- What a line shows of the node at an address, behind what the ancestors of the tree leave. -/
def Draws (numbered : Bool) (rails : List Char) (root : Node) (address : List Nat)
    (line : List Char) : Prop :=
  ∃ field node, root.childAt? address = some (field, node) ∧
    line = margin numbered node ++ (rails ++ (root.connectors address ++
      (' ' :: node.kind.icon :: ' ' :: (field.label.toList ++ (':' :: ' ' :: node.drawnText)))))

/-- A child is drawn as its own line and the lines of its children, further in. -/
theorem childLines_eq (numbered : Bool) (rails : List Char) (isLast : Bool) (field : Field)
    (node : Node) :
    childLines numbered rails isLast field node =
      drawnLine numbered rails isLast field node ::
        forestLines numbered (rails ++ rail isLast) node.fields := by
  cases node
  rfl

mutual

/-- Below a node the lines draw the nodes at the addresses below, in this order. -/
theorem forall₂_draws (numbered : Bool) (rails : List Char) (node : Node) :
    List.Forall₂ (Draws numbered rails node) (forestAddresses 0 node.fields)
      (forestLines numbered rails node.fields) := by
  match node with
  | .mk content range tokens children =>
    exact forall₂_draws_forest numbered rails (.mk content range tokens children) [] children rfl

/-- The lines of children are drawn in the order of their addresses. -/
theorem forall₂_draws_forest (numbered : Bool) (rails : List Char) (node : Node)
    (passed children : List (Field × Node)) (whole : node.fields = passed ++ children) :
    List.Forall₂ (Draws numbered rails node) (forestAddresses passed.length children)
      (forestLines numbered rails children) := by
  match children with
  | [] => exact .nil
  | (field, child) :: rest =>
    have under : node.fields[passed.length]? = some (field, child) := by simp [whole]
    have last : node.fields[passed.length + 1]?.isNone = rest.isEmpty := by
      cases rest <;> simp [whole]
    have below := forall₂_draws numbered (rails ++ rail rest.isEmpty) child
    have later := forall₂_draws_forest numbered rails node (passed ++ [(field, child)]) rest
      (by simp [whole])
    rw [List.length_append] at later
    rw [forestAddresses, forestLines, childLines_eq, addresses_eq]
    refine List.rel_append (List.Forall₂.cons ?_ ?_) later
    · refine ⟨field, child, under, ?_⟩
      rw [connectors_singleton, last]
      rfl
    -- Below the child the address goes on, and the rail of the child stands in front.
    · refine List.forall₂_map_left_iff.mpr (below.imp ?_)
      rintro address line ⟨inner, node, found, drawn⟩
      have longer : address ≠ [] := by
        rintro rfl
        cases found
      refine ⟨inner, node, (childAt?_cons under longer).trans found, ?_⟩
      rw [connectors_cons under longer, last, drawn, List.append_assoc, List.append_assoc]

end

/-- A line is not broken by what it shows. -/
theorem Draws.onOneLine {numbered : Bool} {address : List Nat} {line : List Char}
    (draws : Draws numbered [] node address line)
    (captions : ∀ below ∈ node.descendants, OnOneLine below.content.caption.toList) :
    OnOneLine line := by
  rcases draws with ⟨field, below, found, rfl⟩
  have name : OnOneLine field.label.toList := by
    cases field <;> decide
  have text := onOneLine_drawnText (captions below (mem_descendants_of_childAt? found))
  simp only [onOneLine_append, onOneLine_cons]
  exact ⟨onOneLine_margin numbered below, onOneLine_nil, onOneLine_connectors node address,
    by decide, below.kind.isLineBreak_icon, by decide, name, by decide, by decide, text⟩

/-! ## The lines of a tree -/

/-- Lists that are related one by one are so at each place. -/
theorem exists_getElem?_of_forall₂ {α β : Type} {related : α → β → Prop} {first : List α}
    {second : List β} (each : List.Forall₂ related first second) {number : Nat} {value : α}
    (found : first[number]? = some value) :
    ∃ other, second[number]? = some other ∧ related value other := by
  induction each generalizing number with
  | nil => cases found
  | cons here _ ih =>
    cases number with
    | zero =>
      cases found
      exact ⟨_, rfl, here⟩
    | succ number => exact ih found

variable {root : Node} {number : Nat}

/-- The node that is visited at some place after the root is drawn by the line at that place. -/
theorem exists_draws_of_visited (numbered : Bool)
    (visited : root.descendants[number + 1]? = some node) :
    ∃ address line, root.addresses[number + 1]? = some address ∧ root.at? address = some node ∧
      (root.drawingLines numbered)[number + 1]? = some line ∧
      Draws numbered [] root address line := by
  have placed : (root.addresses.map root.at?)[number + 1]? = some (some node) := by
    rw [map_at?_addresses, List.getElem?_map, visited]
    rfl
  rw [List.getElem?_map, Option.map_eq_some_iff] at placed
  rcases placed with ⟨address, found, present⟩
  have below := found
  rw [addresses_eq, List.getElem?_cons_succ] at below
  rcases exists_getElem?_of_forall₂ (forall₂_draws numbered [] root) below with ⟨line, drawn, draws⟩
  exact ⟨address, line, found, present, drawn, draws⟩

/-- There is one line for each node. -/
theorem length_drawingLines (numbered : Bool) (root : Node) :
    (root.drawingLines numbered).length = root.descendants.length := by
  have visited := congrArg List.length (map_at?_addresses root)
  rw [List.length_map, List.length_map, addresses_eq, List.length_cons] at visited
  rw [← visited, drawingLines, List.length_cons, (forall₂_draws numbered [] root).length_eq]

/-- No line of a drawing holds a line feed. -/
theorem onOneLine_drawingLines (numbered : Bool)
    (captions : ∀ below ∈ root.descendants, OnOneLine below.content.caption.toList) :
    ∀ line ∈ root.drawingLines numbered, OnOneLine line := by
  intro line member
  rcases List.mem_cons.mp member with rfl | below
  · have text := onOneLine_drawnText (captions root root.mem_descendants)
    exact onOneLine_cons.mpr
      ⟨root.kind.isLineBreak_icon, onOneLine_cons.mpr ⟨by decide, text⟩⟩
  · rcases List.mem_iff_getElem?.mp below with ⟨number, found⟩
    rcases exists_getElem?_of_forall₂ (forall₂_draws numbered [] root).flip found with
      ⟨address, -, draws⟩
    exact Draws.onOneLine draws captions

end Node

/-! ## Counting nodes -/

namespace Snapshot

mutual

/-- A snapshot has as many nodes as the tree. -/
theorem nodeCount_ofNodeUnder (withRanges : Bool) (field : Option Field) (node : Node) :
    (ofNodeUnder withRanges field node).nodeCount = node.descendants.length := by
  match node with
  | .mk content range tokens children =>
    rw [Node.descendants_eq, List.length_cons, ofNodeUnder, nodeCount,
      listCount_ofForest withRanges children, Nat.add_comm]
    rfl

/-- A snapshot has as many nodes as the tree. -/
theorem listCount_ofForest (withRanges : Bool) (children : List (Field × Node)) :
    listCount (ofForest withRanges children) =
      ((children.map (·.2)).flatMap Node.descendants).length := by
  match children with
  | [] => rfl
  | (field, child) :: rest =>
    rw [ofForest, listCount, nodeCount_ofNodeUnder withRanges (some field) child,
      listCount_ofForest withRanges rest, List.map_cons, List.flatMap_cons, List.length_append]

end

end Snapshot

/-- The drawing of every source has one line for each node, and each line ends in a line feed and
contains no other.  The first one shows the root.  Each other one shows the node that is visited at
its place, behind two characters for each ancestor of the node below the root, which tell whether
that ancestor has a sibling behind it, and two characters which tell the same of the node. -/
theorem drawing_lines (source : String) (options : ParseOptions)
    (settings : List (String × String)) :
    let result := parse source options
    let root := result.root
    let numbered := showsLineNumbers settings
    ∃ lines : List (List Char),
      (root.drawing numbered).toList = lines.flatMap (· ++ ['\n']) ∧
      (∀ line ∈ lines, '\n' ∉ line) ∧
      lines.length = (Snapshot.ofProgram result.program).nodeCount ∧
      (Snapshot.ofProgram result.program).nodeCount = root.descendants.length ∧
      lines[0]? = some (root.kind.icon :: ' ' :: root.drawnText) ∧
      root.addresses.map root.at? = root.descendants.map some ∧
      root.addresses.Pairwise (· < ·) ∧
      ∀ number node, root.descendants[number + 1]? = some node →
        ∃ address field, root.addresses[number + 1]? = some address ∧
          root.childAt? address = some (field, node) ∧
          lines[number + 1]? = some (Node.margin numbered node ++ (root.connectors address ++
            (' ' :: node.kind.icon :: ' ' ::
              (field.label.toList ++ (':' :: ' ' :: node.drawnText))))) := by
  intro result root numbered
  have captions : ∀ node ∈ root.descendants, OnOneLine node.content.caption.toList :=
    fun _ => onOneLine_caption_parse source options
  have lines := Node.onOneLine_drawingLines numbered captions
  have count : (Snapshot.ofProgram result.program).nodeCount = root.descendants.length :=
    Snapshot.nodeCount_ofNodeUnder ..
  refine ⟨root.drawingLines numbered, String.toList_ofList, fun line member => ?_, ?_, count, rfl,
    root.map_at?_addresses, root.pairwise_addresses, fun number node visited => ?_⟩
  · exact (lines line member).not_mem
  · rw [count, Node.length_drawingLines]
  · rcases Node.exists_draws_of_visited numbered visited with
      ⟨address, line, placed, present, drawn, field, shown, found, rfl⟩
    have same := (Node.at?_of_childAt? found).symm.trans present
    cases same
    exact ⟨address, field, placed, found, drawn⟩

end ScriptTree
