import ScriptTree.Node.Assembly
import ScriptTree.Number.Integer

/-!
# Looking up positions

Which nodes lie under a position.  Ranges are half open, so the boundary of two
adjacent nodes belongs to the second one, and an empty node is never found.  The
program itself is found up to and including the end of the source.
-/

namespace ScriptTree

/-! ## White space -/

namespace Text

/-- The characters with the Unicode property White_Space. -/
def isWhiteSpace (character : Char) : Bool :=
  let code := character.toNat
  (0x9 ≤ code && code ≤ 0xd) || code = 0x20 || code = 0x85 || code = 0xa0 || code = 0x1680 ||
    (0x2000 ≤ code && code ≤ 0x200a) || code = 0x2028 || code = 0x2029 || code = 0x202f ||
      code = 0x205f || code = 0x3000

/-- A text without the white space at its ends. -/
def trim (text : List Char) : List Char :=
  ((text.dropWhile isWhiteSpace).reverse.dropWhile isWhiteSpace).reverse

end Text

/-! ## Nodes under a position -/

/-- Why no node was found at a position. -/
inductive LookupError where
  | missingColon
  | badLine (text : String)
  | badColumn (text : String)
  | notFound (position : Position)
deriving DecidableEq

/-- What a failed search says to its reader. -/
def LookupError.message : LookupError → String
  | .missingColon => "Invalid position format: expected format line:column"
  | .badLine text => s!"Invalid position format: invalid line number: {text}"
  | .badColumn text => s!"Invalid position format: invalid column number: {text}"
  | .notFound position => s!"No element found at position {position.display}"

namespace Position

/-- The texts before and after the first colon. -/
def splitColon? : List Char → Option (List Char × List Char)
  | [] => none
  | ':' :: rest => some ([], rest)
  | character :: rest =>
    (splitColon? rest).map fun (line, column) => (character :: line, column)

/-- A line or a column as it may be written, with blanks around it. -/
def coordinate? (text : List Char) : Option Nat :=
  Number.unsigned64? (Text.trim text)

/-- Read a position from its line and its column with a colon between them. -/
def read (text : String) : Except LookupError Position :=
  match splitColon? text.toList with
  | none => .error .missingColon
  | some (lineText, columnText) =>
    match coordinate? lineText with
    | none => .error (.badLine (String.ofList lineText))
    | some line =>
      match coordinate? columnText with
      | none => .error (.badColumn (String.ofList columnText))
      | some column => .ok ⟨line, column⟩

end Position

namespace Node

mutual

/-- The path from a node down to the deepest one that covers a position, the node included. -/
def pathDown (position : Position) : Node → List Node
  | .mk content range tokens children =>
    .mk content range tokens children :: pathAmong position children

/-- The path that starts with the first of some nodes that covers a position. -/
def pathAmong (position : Position) : List (Field × Node) → List Node
  | [] => []
  | (_, child) :: rest =>
    if child.range.covers position then child.pathDown position else pathAmong position rest

end

/-- The line that describes a node on a path. -/
def pathLine (node : Node) : String :=
  s!"- {node.kind.label}: {node.content.caption}"

end Node

namespace Program

/-- Every node that holds a position, from the program down to the deepest one. -/
def nodesAt (program : Program) (position : Position) : List Node :=
  if position.Before program.range.start ∨ program.range.stop.Before position then
    []
  else
    program.toNode.pathDown position

/-- The innermost node at a position. -/
def deepestAt (program : Program) (position : Position) : Except LookupError Node :=
  match (program.nodesAt position).getLast? with
  | some node => .ok node
  | none => .error (.notFound position)

/-- One line for each node that holds a position. -/
def describeAt (program : Program) (position : Position) : String :=
  match program.nodesAt position with
  | [] => "No AST nodes at this position"
  | nodes => "\n".intercalate (nodes.map Node.pathLine)

end Program

end ScriptTree
