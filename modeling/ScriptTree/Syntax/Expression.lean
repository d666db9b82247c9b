import ScriptTree.Syntax.Operator
import ScriptTree.Syntax.Terminal

/-!
# Expressions

An expression records the places of the tokens that belong to it: `sign`,
`opening` and `closing` are ranges of tokens that the constructor determines.
An optional place is absent where the source lacks the token.  Arguments and
elements come with the comma that follows them.
-/

namespace ScriptTree

/-- Expressions with the places of their tokens.  A closing bracket that is missing has no place. -/
inductive Expression where
  | binary (operator : BinaryOperator) (left : Expression) (sign : Range) (right : Expression)
  | unary (operator : UnaryOperator) (sign : Range) (operand : Expression)
  | arrayAccess (array : Expression) (opening : Range) (index : Expression)
      (closing : Option Range)
  | memberAccess (object : Expression) (dot : Range) (member : Identifier)
  | call (function : Expression) (opening : Range)
      (arguments : List (Expression × Option Range)) (closing : Option Range)
  | parenthesized (opening : Range) (inner : Expression) (closing : Option Range)
  | boolean (literal : BooleanLiteral)
  | number (literal : NumberLiteral)
  | string (literal : StringNode)
  | identifier (name : Identifier)
  /-- `gap` is the place where the last element was sought and not found. -/
  | arrayInitializer (opening : Range) (elements : List (Expression × Option Range))
      (gap : Option Range) (closing : Option Range)
  | error (node : ErrorNode)

namespace Expression

/-- Only names, members and array elements can be assigned to. -/
def isAssignable : Expression → Bool
  | .identifier _ | .memberAccess _ _ _ | .arrayAccess _ _ _ _ => true
  | _ => false

/-- Whether an expression could not be read. -/
def isError : Expression → Bool
  | .error _ => true
  | _ => false

/-- The stand-in for an absent expression. -/
def isMissing : Expression → Bool
  | .error node => node.isMissing
  | _ => false

/-- The stand-in for an expression that the source lacks. -/
def missing (anchor : Range) : Expression :=
  .error (.missing anchor)

end Expression

end ScriptTree
