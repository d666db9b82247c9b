import ScriptTree.Diagnostic
import ScriptTree.Json
import ScriptTree.Node

/-!
# Trees as JSON

A node is an object with a member for every field of its kind, one for the data
that its kind carries, its own tokens, and its range.  An absent child is null
and a list of children is an array.  Where a field can hold nodes of several
kinds, the node says which variant it is.
-/

/-! ## Places and diagnostics as JSON -/

namespace ScriptTree

/-- A position as an object. -/
def Position.toJson (position : Position) : Json :=
  .object [("line", .ofNat position.line), ("column", .ofNat position.column)]

/-- A span as an object with its two ends. -/
def Span.toJson (span : Span) : Json :=
  .object [("start", .ofNat span.start), ("end", .ofNat span.stop)]

/-- A range with its byte offsets and with the positions of its two ends. -/
def Range.toJson (range : Range) : Json :=
  .object
    [("span", range.span.toJson), ("start", range.start.toJson), ("end", range.stop.toJson)]

/-- A token by its name. -/
def Token.toJson (token : Token) : Json :=
  .string token.name

/-- A diagnostic with everything its message was made of. -/
def Diagnostic.toJson (diagnostic : Diagnostic) : Json :=
  .object
    [("range", diagnostic.range.toJson),
      ("severity", .string diagnostic.problem.severity.name),
      ("code", .string diagnostic.problem.code.name),
      ("message", .string diagnostic.problem.message),
      ("expected", .ofList Token.toJson diagnostic.problem.expectedTokens),
      ("found", .ofOption Token.toJson diagnostic.problem.found),
      ("source", .string diagnostic.source)]

/-! ## Nodes -/

/-- A token with its place. -/
def PlacedToken.toJson (placed : PlacedToken) : Json :=
  .object [("token", placed.token.toJson), ("range", placed.range.toJson)]

/-- The variant of a node among the nodes that can stand in its place. -/
def NodeKind.variant : NodeKind → String
  | .instanceDeclaration => "instance"
  | .prototypeDeclaration => "prototype"
  | .functionDeclaration => "function"
  | .variableDeclaration => "variable"
  | .classDeclaration => "class"
  | .assignmentStatement => "assignment"
  | .expressionStatement => "expression"
  | .ifStatement => "if"
  | .returnStatement => "return"
  | .binaryExpression => "binary"
  | .unaryExpression => "unary"
  | .callExpression => "call"
  | .parenthesizedExpression => "parenthesized"
  | .error => "error"
  | kind => kind.label

/-- Whether a field of a kind can hold nodes of several kinds. -/
def NodeKind.hasVariants (kind : NodeKind) : Field → Bool
  | .name | .parent | .body | .returnType | .parameters | .type | .member => false
  | .arguments => kind = .argumentList
  | _ => true

/-- The name of the member for a field. -/
def Field.memberName : Field → String
  | .type => "type_ref"
  | field => field.label

/-- A builtin type is its name; the name of a class stands apart. -/
def TypeName.toJson : TypeName → Json
  | .named name => .object [("kind", .string "named"), ("name", .string name)]
  | .missing => .object [("kind", .string "missing")]
  | builtin => .object [("kind", .string builtin.text)]

/-- The member for the data that a kind carries. -/
def Content.member? : Content → Option (String × Json)
  | .parameter qualifier =>
    some ("qualifier", .ofOption (fun kind => .string kind.spelling) qualifier)
  | .variableDeclaration kind => some ("kind", .string kind.spelling)
  | .assignmentStatement operator => some ("operator", .string operator.spelling)
  | .binaryExpression operator => some ("operator", .string operator.spelling)
  | .unaryExpression operator => some ("operator", .string operator.spelling)
  | .identifier name => some ("name", .string name)
  | .type name => some ("kind", name.toJson)
  | .number text => some ("text", .string text)
  | .string raw => some ("raw", .string raw)
  | .boolean value => some ("value", .bool value)
  | _ => none

/-- The member for the tokens that a node owns; the root and single tokens have none. -/
def NodeKind.tokenMember? (kind : NodeKind) : Option String :=
  if kind = .program || kind.isLeaf then none
  else if kind = .error then some "skipped"
  else some "anonymous"

namespace Node

/-- The member for a field, from the children of a node with their fields. -/
def fieldMember (children : List (Field × Json)) (entry : Field × Arity) : String × Json :=
  let values := (children.filter (·.1 = entry.1)).map (·.2)
  (entry.1.memberName,
    match entry.2 with
    | .many => .array values
    | .one | .optional => values.head?.getD .null)

mutual

/-- A node as an object of its fields.  Where a field can hold several kinds of node, the kind is
named. -/
def toJsonAs (withVariant : Bool) : Node → Json
  | .mk content range tokens children =>
    let members := childrenJson content.kind children
    .object
      ((if withVariant then [("type", .string content.kind.variant)] else []) ++
        content.member?.toList ++ content.kind.schema.map (fieldMember members) ++
        (content.kind.tokenMember?.map fun name =>
          (name, Json.ofList PlacedToken.toJson tokens)).toList ++
        [("range", range.toJson)])

/-- The children by their fields. -/
def childrenJson (kind : NodeKind) : List (Field × Node) → List (Field × Json)
  | [] => []
  | (field, child) :: rest =>
    (field, child.toJsonAs (kind.hasVariants field)) :: childrenJson kind rest

end

/-- A node as an object, without the name of its kind. -/
def toJson (node : Node) : Json :=
  node.toJsonAs false

end Node

end ScriptTree
