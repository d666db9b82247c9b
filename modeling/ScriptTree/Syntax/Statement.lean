import ScriptTree.Syntax.Expression

/-!
# Statements and blocks

Statements appear inside blocks: the bodies of functions, instances and
prototypes, and the branches of an `if`.  Variable declarations are statements
too, and they appear at the top level and in class bodies as well.
-/

namespace ScriptTree

/-- The size of an array between its brackets. -/
structure ArraySize where
  opening : Range
  size : Expression
  closing : Option Range

/-- The value of a variable after its equals sign. -/
structure Initializer where
  sign : Range
  value : Expression

/-- A variable or a constant, of a size and with a value if these are written. -/
structure VariableDeclaration where
  kind : VariableKind
  keyword : Range
  type : TypeReference
  name : Identifier
  size : Option ArraySize
  initializer : Option Initializer
  terminator : Option Range

/-- `sign` is absent where the operator is missing and `=` is taken for granted. -/
structure AssignmentStatement where
  left : Expression
  operator : AssignmentOperator
  sign : Option Range
  right : Expression
  terminator : Option Range

/-- An expression that makes a statement. -/
structure ExpressionStatement where
  expression : Expression
  terminator : Option Range

/-- A `return`, with a value or without. -/
structure ReturnStatement where
  keyword : Range
  value : Option Expression
  terminator : Option Range

mutual

/-- A block of statements. -/
inductive Block where
  /-- The stand-in for a block that the source lacks.  It was not even looked for where the parse
  was recovering already. -/
  | missing (anchor : Range) (wasSought : Bool)
  | written (opening : Range) (statements : List Statement) (closing : Option Range)

/-- A statement with the places of its tokens. -/
inductive Statement where
  | assignmentStatement (assignment : AssignmentStatement)
  | expressionStatement (statement : ExpressionStatement)
  /-- `otherwise` holds the `else` keyword and the branch after it. -/
  | ifStatement (keyword : Range) (condition : Expression) (consequence : Branch)
      (otherwise : Option (Range × Branch))
  | returnStatement (statement : ReturnStatement)
  | variableDeclaration (declaration : VariableDeclaration)
  | block (block : Block)
  | error (node : ErrorNode)

/-- A branch of an `if`; only a block takes a semicolon of the `if`. -/
inductive Branch where
  /-- The stand-in for a branch that the source lacks. -/
  | missing (anchor : Range)
  | written (statement : Statement) (semicolon : Option Range)

end

namespace Block

/-- Whether a block is missing. -/
def isMissing : Block → Bool
  | .missing _ _ => true
  | .written _ _ _ => false

/-- The statements of a block. -/
def statements : Block → List Statement
  | .missing _ _ => []
  | .written _ statements _ => statements

end Block

namespace Branch

/-- The statement of a branch.  There is an error node where it is missing. -/
def statement : Branch → Statement
  | .missing anchor => .error (.missing anchor)
  | .written statement _ => statement

/-- The semicolon that may follow the block of a branch. -/
def semicolon : Branch → Option Range
  | .missing _ => none
  | .written _ semicolon => semicolon

end Branch

end ScriptTree
