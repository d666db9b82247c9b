import ScriptTree.Node

/-!
# S-expressions

A node is its kind and its children in parentheses.  A child is preceded by the
name of its field, except in a node whose children are one list.  A missing node
is marked in front of its kind.
-/

namespace ScriptTree.Node

/-- The opening of an S-expression: the parenthesis, a mark where needed, and the kind. -/
def sexpHead (node : Node) : List Char :=
  '(' :: ((if node.isMissing then "MISSING ".toList else []) ++ node.kind.label.toList)

mutual

/-- A node between parentheses: its head, and then its children. -/
def sexpText : Node → List Char
  | .mk content range tokens children =>
    sexpHead (.mk content range tokens children) ++
      (sexpChildren content.kind.isList children ++ [')'])

/-- The children, each after a blank, with or without the names of their fields. -/
def sexpChildren (bare : Bool) : List (Field × Node) → List Char
  | [] => []
  | (field, child) :: rest =>
    ' ' :: ((if bare then [] else field.label.toList ++ [':', ' ']) ++
      (child.sexpText ++ sexpChildren bare rest))

end

/-- A node as a nested expression on one line or several. -/
def sexp (node : Node) : String :=
  String.ofList node.sexpText

end ScriptTree.Node
