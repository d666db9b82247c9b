/-!
# Node kinds and fields

Every node of a tree has a kind, and stores its children under fields.  Each
kind has a fixed schema of fields; a field holds exactly one child, at most one,
or a list.  Names follow the customs of tree-sitter grammars.
-/

namespace ScriptTree

/-- The kinds of node. -/
inductive NodeKind where
  | program
  | instanceDeclaration
  | prototypeDeclaration
  | functionDeclaration
  | parameterList
  | parameter
  | variableDeclaration
  | classDeclaration
  | classBody
  | block
  | assignmentStatement
  | expressionStatement
  | ifStatement
  | returnStatement
  | binaryExpression
  | unaryExpression
  | arrayAccess
  | memberAccess
  | callExpression
  | argumentList
  | parenthesizedExpression
  | arrayInitializer
  | identifier
  | type
  | number
  | string
  | boolean
  | error
deriving DecidableEq, Inhabited

/-- The roles that the children of a node play. -/
inductive Field where
  | declarations
  | name
  | parent
  | body
  | returnType
  | parameters
  | type
  | size
  | value
  | members
  | statements
  | left
  | right
  | expression
  | condition
  | consequence
  | alternative
  | operand
  | array
  | index
  | object
  | member
  | function
  | arguments
  | elements
deriving DecidableEq, Inhabited

namespace Field

/-- All fields, in the order in which they were introduced. -/
def all : List Field :=
  [.declarations, .name, .parent, .body, .returnType, .parameters, .type, .size, .value,
    .members, .statements, .left, .right, .expression, .condition, .consequence, .alternative,
    .operand, .array, .index, .object, .member, .function, .arguments, .elements]

/-- What a field is called where trees are written out. -/
def label : Field → String
  | .declarations => "declarations"
  | .name => "name"
  | .parent => "parent"
  | .body => "body"
  | .returnType => "return_type"
  | .parameters => "parameters"
  | .type => "type"
  | .size => "size"
  | .value => "value"
  | .members => "members"
  | .statements => "statements"
  | .left => "left"
  | .right => "right"
  | .expression => "expression"
  | .condition => "condition"
  | .consequence => "consequence"
  | .alternative => "alternative"
  | .operand => "operand"
  | .array => "array"
  | .index => "index"
  | .object => "object"
  | .member => "member"
  | .function => "function"
  | .arguments => "arguments"
  | .elements => "elements"

/-- The field of a label. -/
def ofLabel? (label : String) : Option Field :=
  all.find? fun field => field.label = label

end Field

/-- How many children a field holds. -/
inductive Arity where
  | one
  | optional
  | many
deriving DecidableEq

namespace NodeKind

/-- All kinds, in the order in which they were introduced. -/
def all : List NodeKind :=
  [.program, .instanceDeclaration, .prototypeDeclaration, .functionDeclaration, .parameterList,
    .parameter, .variableDeclaration, .classDeclaration, .classBody, .block,
    .assignmentStatement, .expressionStatement, .ifStatement, .returnStatement,
    .binaryExpression, .unaryExpression, .arrayAccess, .memberAccess, .callExpression,
    .argumentList, .parenthesizedExpression, .arrayInitializer, .identifier, .type, .number,
    .string, .boolean, .error]

/-- What a kind is called where trees are written out. -/
def label : NodeKind → String
  | .program => "program"
  | .instanceDeclaration => "instance_declaration"
  | .prototypeDeclaration => "prototype_declaration"
  | .functionDeclaration => "function_declaration"
  | .parameterList => "parameter_list"
  | .parameter => "parameter"
  | .variableDeclaration => "variable_declaration"
  | .classDeclaration => "class_declaration"
  | .classBody => "class_body"
  | .block => "block"
  | .assignmentStatement => "assignment_statement"
  | .expressionStatement => "expression_statement"
  | .ifStatement => "if_statement"
  | .returnStatement => "return_statement"
  | .binaryExpression => "binary_expression"
  | .unaryExpression => "unary_expression"
  | .arrayAccess => "array_access"
  | .memberAccess => "member_access"
  | .callExpression => "call_expression"
  | .argumentList => "argument_list"
  | .parenthesizedExpression => "parenthesized_expression"
  | .arrayInitializer => "array_initializer"
  | .identifier => "identifier"
  | .type => "type"
  | .number => "number"
  | .string => "string"
  | .boolean => "boolean"
  | .error => "ERROR"

/-- The kind of a label. -/
def ofLabel? (label : String) : Option NodeKind :=
  all.find? fun kind => kind.label = label

/-- The fields of a kind, in source order. -/
def schema : NodeKind → List (Field × Arity)
  | .program => [(.declarations, .many)]
  | .instanceDeclaration => [(.name, .one), (.parent, .optional), (.body, .optional)]
  | .prototypeDeclaration => [(.name, .one), (.parent, .one), (.body, .one)]
  | .functionDeclaration =>
    [(.returnType, .one), (.name, .one), (.parameters, .one), (.body, .one)]
  | .parameterList => [(.parameters, .many)]
  | .parameter => [(.type, .one), (.name, .one)]
  | .variableDeclaration =>
    [(.type, .one), (.name, .one), (.size, .optional), (.value, .optional)]
  | .classDeclaration => [(.name, .one), (.body, .one)]
  | .classBody => [(.members, .many)]
  | .block => [(.statements, .many)]
  | .assignmentStatement => [(.left, .one), (.right, .one)]
  | .expressionStatement => [(.expression, .one)]
  | .ifStatement => [(.condition, .one), (.consequence, .one), (.alternative, .optional)]
  | .returnStatement => [(.value, .optional)]
  | .binaryExpression => [(.left, .one), (.right, .one)]
  | .unaryExpression => [(.operand, .one)]
  | .arrayAccess => [(.array, .one), (.index, .one)]
  | .memberAccess => [(.object, .one), (.member, .one)]
  | .callExpression => [(.function, .one), (.arguments, .one)]
  | .argumentList => [(.arguments, .many)]
  | .parenthesizedExpression => [(.expression, .one)]
  | .arrayInitializer => [(.elements, .many)]
  | .identifier | .type | .number | .string | .boolean | .error => []

/-- The fields that a node of a kind may have. -/
def fields (kind : NodeKind) : List Field :=
  kind.schema.map (·.1)

/-- Whether a node of a kind declares something at the top level. -/
def isDeclaration : NodeKind → Bool
  | .instanceDeclaration | .prototypeDeclaration | .functionDeclaration
  | .variableDeclaration | .classDeclaration => true
  | _ => false

/-- Kinds of expressions that can be assigned to. -/
def isAssignable : NodeKind → Bool
  | .identifier | .memberAccess | .arrayAccess => true
  | _ => false

/-- Kinds that stand for a single token. -/
def isLeaf (kind : NodeKind) : Bool :=
  kind.schema.isEmpty && kind ≠ .error

/-- Kinds whose children are one list. -/
def isList : NodeKind → Bool
  | .program | .block | .classBody | .parameterList | .argumentList | .arrayInitializer => true
  | _ => false

/-- A kind is a list exactly when its schema is one field with many children. -/
theorem isList_iff (kind : NodeKind) :
    kind.isList ↔ ∃ field, kind.schema = [(field, .many)] := by
  cases kind <;> simp [isList, schema]

end NodeKind

end ScriptTree
