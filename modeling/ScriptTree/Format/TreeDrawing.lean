import ScriptTree.Node

/-!
# Tree drawings

One line for each node, quick to scan by eye.  Nesting is drawn with connectors
of two columns a level; a node is shown by an icon, its field, its kind and its
caption.  Long captions are cut.
-/

namespace ScriptTree

/-- The sign that stands for a kind of nodes. -/
def NodeKind.icon : NodeKind → Char
  | .program => '⧉'
  | .instanceDeclaration => '◆'
  | .prototypeDeclaration => '◇'
  | .functionDeclaration => 'ƒ'
  | .classDeclaration => '▣'
  | .variableDeclaration => 'ν'
  | .block | .classBody => '▢'
  | .assignmentStatement => '≔'
  | .ifStatement => '⑂'
  | .returnStatement => '↩'
  | .binaryExpression | .unaryExpression => '±'
  | .callExpression => '⊕'
  | .number | .string | .boolean => '◌'
  | .identifier => '◦'
  | .type => 'τ'
  | .parameterList | .argumentList | .arrayInitializer => '⋯'
  | .error => '✗'
  | .parameter | .expressionStatement | .arrayAccess | .memberAccess
  | .parenthesizedExpression => '○'

namespace Node

/-- The number of characters of a caption that are drawn. -/
def captionLimit : Nat := 30

/-- A caption that is too long is cut off, and dots tell so. -/
def cutCaption (caption : List Char) : List Char :=
  if captionLimit < caption.length then caption.take captionLimit ++ ['.', '.', '.'] else caption

/-- The kind and the caption of a node, and a mark on a missing one. -/
def drawnText (node : Node) : List Char :=
  let caption := node.content.caption.toList
  node.kind.label.toList ++
    ((if caption.isEmpty then [] else ' ' :: cutCaption caption) ++
      (if node.isMissing then " (missing)".toList else []))

/-- The number of a line in two digits or more. -/
def lineNumber (line : Nat) : List Char :=
  let digits := Nat.toDigits 10 (line + 1)
  List.replicate (2 - digits.length) '0' ++ digits

/-- What stands before the connector of a node: the number of its first line, if asked for. -/
def margin (numbered : Bool) (node : Node) : List Char :=
  if numbered then lineNumber node.range.start.line ++ [' '] else []

/-- The corner or the fork in front of a node. -/
def connector (isLast : Bool) : List Char :=
  if isLast then ['└', '─'] else ['├', '─']

/-- What a node leaves in front of the lines of its descendants. -/
def rail (isLast : Bool) : List Char :=
  if isLast then [' ', ' '] else ['│', ' ']

/-- The line of one node: the rails of the nodes above it, its connector, icon, field and
caption. -/
def drawnLine (numbered : Bool) (rails : List Char) (isLast : Bool) (field : Field)
    (node : Node) : List Char :=
  margin numbered node ++ (rails ++ (connector isLast ++
    (' ' :: node.kind.icon :: ' ' :: (field.label.toList ++ (':' :: ' ' :: node.drawnText)))))

mutual

/-- The lines of a child and its descendants; `rails` is what its ancestors leave. -/
def childLines (numbered : Bool) (rails : List Char) (isLast : Bool) (field : Field) :
    Node → List (List Char)
  | .mk content range tokens children =>
    drawnLine numbered rails isLast field (.mk content range tokens children) ::
      forestLines numbered (rails ++ rail isLast) children

/-- The lines of children, in order.  The last child has no rail below it. -/
def forestLines (numbered : Bool) (rails : List Char) :
    List (Field × Node) → List (List Char)
  | [] => []
  | (field, child) :: rest =>
    childLines numbered rails rest.isEmpty field child ++ forestLines numbered rails rest

end

/-- The lines of a tree; the one of the root has neither connector nor number. -/
def drawingLines (numbered : Bool) (node : Node) : List (List Char) :=
  (node.kind.icon :: ' ' :: node.drawnText) :: forestLines numbered [] node.fields

/-- The lines of a tree, each with a line feed after it. -/
def drawing (numbered : Bool) (node : Node) : String :=
  String.ofList ((node.drawingLines numbered).flatMap (· ++ ['\n']))

end Node

/-- Whether some settings ask for line numbers. -/
def showsLineNumbers (settings : List (String × String)) : Bool :=
  (settings.find? (·.1 = "show-linum")).any fun setting => setting.2 ≠ "false"

end ScriptTree
