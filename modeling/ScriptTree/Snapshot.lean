import ScriptTree.Node.Assembly
import ScriptTree.Text.NameMap

/-!
# Snapshots

A snapshot is a plain copy of a tree in terms of texts: the kind of each node,
its caption, the field it is stored under, and a few attributes.  Every output
format can be written from it, and it can be read back.  Without ranges, two
snapshots are equal exactly when the trees have the same shape and content.
-/

namespace ScriptTree

/-- What a snapshot tells about a node beyond its kind and its text. -/
abbrev Attributes := NameMap String

/-- A tree in which only texts are left. -/
inductive Snapshot where
  | mk (nodeType label : String) (field : Option String) (attributes : Attributes)
      (children : List Snapshot)

namespace Snapshot

mutual

/-- Whether two snapshots are equal, decided along their structure. -/
def decideEq : (first second : Snapshot) → Decidable (first = second)
  | .mk type label field attributes children, .mk type' label' field' attributes' children' =>
    if head : type = type' ∧ label = label' ∧ field = field' ∧ attributes = attributes' then
      match decideListEq children children' with
      | .isTrue same => .isTrue (by simp [head, same])
      | .isFalse different => .isFalse (by simp [different])
    else
      .isFalse (by
        intro equal
        injection equal with types labels fields attributes
        exact head ⟨types, labels, fields, attributes⟩)

/-- Whether two lists of snapshots are equal. -/
def decideListEq : (first second : List Snapshot) → Decidable (first = second)
  | [], [] => .isTrue rfl
  | [], _ :: _ => .isFalse nofun
  | _ :: _, [] => .isFalse nofun
  | head :: tail, head' :: tail' =>
    match decideEq head head' with
    | .isFalse different => .isFalse fun equal => different (List.cons.inj equal).1
    | .isTrue same =>
      match decideListEq tail tail' with
      | .isFalse different => .isFalse fun equal => different (List.cons.inj equal).2
      | .isTrue more => .isTrue (by rw [same, more])

end

instance : DecidableEq Snapshot := decideEq

mutual

/-- The number of nodes in a snapshot. -/
def nodeCount : Snapshot → Nat
  | .mk _ _ _ _ children => 1 + listCount children

/-- How many nodes there are in some snapshots. -/
def listCount : List Snapshot → Nat
  | [] => 0
  | child :: rest => child.nodeCount + listCount rest

end

/-- The attributes of a node: whether it is missing, how many tokens it skips, and its range. -/
def attributesOf (withRanges : Bool) (node : Node) : Attributes :=
  let missing := if node.isMissing then [("missing", "true")] else []
  let skipped :=
    if node.isError && !node.tokens.isEmpty then [("skipped", toString node.tokens.length)]
    else []
  let range := if withRanges then [("range", node.range.display)] else []
  NameMap.ofList (missing ++ skipped ++ range)

mutual

/-- The snapshot of a node that is stored under a field, or under none. -/
def ofNodeUnder (withRanges : Bool) (field : Option Field) : Node → Snapshot
  | .mk content range tokens children =>
    .mk content.kind.label content.caption (field.map Field.label)
      (attributesOf withRanges (.mk content range tokens children))
      (ofForest withRanges children)

/-- The snapshots of children, each under its field. -/
def ofForest (withRanges : Bool) : List (Field × Node) → List Snapshot
  | [] => []
  | (field, child) :: rest =>
    ofNodeUnder withRanges (some field) child :: ofForest withRanges rest

end

/-- The snapshot of a node and everything below it. -/
def ofNode (withRanges : Bool) (node : Node) : Snapshot :=
  ofNodeUnder withRanges none node

/-- The snapshot of a whole program, with ranges. -/
def ofProgram (program : Program) : Snapshot :=
  ofNode true program.toNode

end Snapshot

end ScriptTree
