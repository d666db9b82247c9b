import ScriptTree.Node.Kind
import ScriptTree.Syntax.Program

/-!
# The uniform tree

Every node is seen through the same small interface: its content, its range,
the tokens it owns itself, and its children, each under a field and in source
order.  The kind, the label and the operator of a node are functions of its
content.
-/

namespace ScriptTree

/-- What a node is, apart from its parts: its kind, with the data that kind carries. -/
inductive Content where
  | program
  | instanceDeclaration
  | prototypeDeclaration
  | functionDeclaration
  | parameterList
  | parameter (qualifier : Option VariableKind)
  | variableDeclaration (kind : VariableKind)
  | classDeclaration
  | classBody
  | block
  | assignmentStatement (operator : AssignmentOperator)
  | expressionStatement
  | ifStatement
  | returnStatement
  | binaryExpression (operator : BinaryOperator)
  | unaryExpression (operator : UnaryOperator)
  | arrayAccess
  | memberAccess
  | callExpression
  | argumentList
  | parenthesizedExpression
  | arrayInitializer
  | identifier (name : String)
  | type (name : TypeName)
  | number (text : String)
  | string (raw : String)
  | boolean (value : Bool)
  | error
deriving DecidableEq

namespace Content

/-- The kind of node that a content makes. -/
def kind : Content → NodeKind
  | .program => .program
  | .instanceDeclaration => .instanceDeclaration
  | .prototypeDeclaration => .prototypeDeclaration
  | .functionDeclaration => .functionDeclaration
  | .parameterList => .parameterList
  | .parameter _ => .parameter
  | .variableDeclaration _ => .variableDeclaration
  | .classDeclaration => .classDeclaration
  | .classBody => .classBody
  | .block => .block
  | .assignmentStatement _ => .assignmentStatement
  | .expressionStatement => .expressionStatement
  | .ifStatement => .ifStatement
  | .returnStatement => .returnStatement
  | .binaryExpression _ => .binaryExpression
  | .unaryExpression _ => .unaryExpression
  | .arrayAccess => .arrayAccess
  | .memberAccess => .memberAccess
  | .callExpression => .callExpression
  | .argumentList => .argumentList
  | .parenthesizedExpression => .parenthesizedExpression
  | .arrayInitializer => .arrayInitializer
  | .identifier _ => .identifier
  | .type _ => .type
  | .number _ => .number
  | .string _ => .string
  | .boolean _ => .boolean
  | .error => .error

/-- The text that a single-token node carries. -/
def label? : Content → Option String
  | .identifier name => some name
  | .type name => some name.text
  | .number text => some text
  | .string raw => some raw
  | .boolean true => some "true"
  | .boolean false => some "false"
  | _ => none

/-- The operator of an operation or an assignment, and the keyword of a variable. -/
def operator? : Content → Option String
  | .binaryExpression operator => some operator.spelling
  | .unaryExpression operator => some operator.spelling
  | .assignmentStatement operator => some operator.spelling
  | .variableDeclaration kind => some kind.spelling
  | .parameter qualifier => qualifier.map VariableKind.spelling
  | _ => none

/-- The one text that describes a node: its label, else its operator, else nothing. -/
def caption (content : Content) : String :=
  (content.label?.or content.operator?).getD ""

end Content

/-- A node of the tree: what it is, where it is, its own tokens, and its children by field. -/
inductive Node where
  | mk (content : Content) (range : Range) (tokens : List PlacedToken)
      (children : List (Field × Node))

namespace Node

/-- What a node is. -/
def content : Node → Content
  | .mk content _ _ _ => content

/-- The kind of a node. -/
def kind (node : Node) : NodeKind :=
  node.content.kind

/-- Where a node is. -/
def range : Node → Range
  | .mk _ range _ _ => range

/-- The keywords, the punctuation and the operators of a node; for an error node, what it skips. -/
def tokens : Node → List PlacedToken
  | .mk _ _ tokens _ => tokens

/-- The children with the fields they are stored under, in source order. -/
def fields : Node → List (Field × Node)
  | .mk _ _ _ children => children

/-- The children of a node in order, whatever their fields are. -/
def children (node : Node) : List Node :=
  node.fields.map (·.2)

/-- Every child under a field. -/
def childrenUnder (node : Node) (field : Field) : List Node :=
  (node.fields.filter (·.1 = field)).map (·.2)

/-- The first child under a field. -/
def child? (node : Node) (field : Field) : Option Node :=
  (node.fields.find? (·.1 = field)).map (·.2)

/-- The source text under the node. -/
def text (node : Node) (source : String) : String :=
  node.range.text source

/-- Whether a node stands for a part that could not be read. -/
def isError (node : Node) : Bool :=
  node.kind = .error

/-- An empty stand-in for a part that the source lacks. -/
def isMissing (node : Node) : Bool :=
  match node.content with
  | .identifier name => name.isEmpty
  | .type name => name = .missing
  | .error | .block | .classBody | .parameterList | .argumentList =>
    node.tokens.isEmpty && node.fields.isEmpty
  | _ => false

/-- Whether a node stands for a part that could not be read or is missing. -/
def isFaulty (node : Node) : Bool :=
  node.isError || node.isMissing

/-- What a listing shows for the node: its label, else its operator, else its kind. -/
def displayLabel (node : Node) : String :=
  (node.content.label?.or node.content.operator?).getD node.kind.label

end Node

end ScriptTree
