import ScriptTree.Check
import ScriptTree.Format.SExpression
import ScriptTree.Node.Assembly

/-!
# Checks of expressions
-/

namespace ScriptTree

namespace Identifier

/-- Compares the text of a name. -/
def check (expected : String) : Check Identifier :=
  Check.inside ".name" Identifier.name (Check.text expected)

end Identifier

namespace ErrorNode

/-- Compares how many tokens an error node skips. -/
def checkSkippedCount (expected : Nat) : Check ErrorNode :=
  Check.count "skipped tokens" ErrorNode.skipped expected

/-- The source text under the error node. -/
def checkText (source expected : String) : Check ErrorNode :=
  Check.inside "" (fun node => node.range.text source) (Check.text expected)

/-- Demands that an error node stands for something missing, and counts the tokens it skips
otherwise. -/
def checkMissing : Check ErrorNode := fun path node =>
  Check.require node.isMissing
    s!"{path}: Expected a missing node, found {node.skipped.length} skipped tokens"

end ErrorNode

/-- The two operands of a binary expression. -/
structure Operands where
  left : Expression
  right : Expression

namespace Operands

/-- Checks the left operand. -/
def checkLeft (check : Check Expression) : Check Operands :=
  Check.inside ".left" Operands.left check

/-- Checks the right operand. -/
def checkRight (check : Check Expression) : Check Operands :=
  Check.inside ".right" Operands.right check

end Operands

/-- The two parts of an array access. -/
structure Element where
  array : Expression
  index : Expression

namespace Element

/-- Checks what is indexed. -/
def checkArray (check : Check Expression) : Check Element :=
  Check.inside ".array" Element.array check

/-- Checks the expression between the brackets. -/
def checkIndex (check : Check Expression) : Check Element :=
  Check.inside ".index" Element.index check

end Element

/-- The two parts of a member access. -/
structure Member where
  object : Expression
  member : Identifier

namespace Member

/-- Checks what a member is taken of. -/
def checkObject (check : Check Expression) : Check Member :=
  Check.inside ".object" Member.object check

/-- Compares the name of the member. -/
def checkMember (expected : String) : Check Member :=
  Check.inside ".member" Member.member (Identifier.check expected)

end Member

/-- What is called and with what. -/
structure Application where
  function : Expression
  arguments : List Expression

namespace Expression

/-- What an expression is called in the text of a failure. -/
def kindLabel (expression : Expression) : String :=
  expression.toNode.kind.label

/-- An expression's name, if it is one. -/
def identifier? : Expression → Option Identifier
  | .identifier name => some name
  | _ => none

/-- An expression's number, if it is one. -/
def number? : Expression → Option NumberLiteral
  | .number literal => some literal
  | _ => none

/-- An expression's string, if it is one. -/
def string? : Expression → Option StringNode
  | .string literal => some literal
  | _ => none

/-- An expression's truth value, if it is one. -/
def boolean? : Expression → Option BooleanLiteral
  | .boolean literal => some literal
  | _ => none

/-- The error node that stands in for an expression. -/
def error? : Expression → Option ErrorNode
  | .error node => some node
  | _ => none

/-- The error node of an expression that is missing. -/
def missing? (expression : Expression) : Option ErrorNode :=
  expression.error?.filter ErrorNode.isMissing

/-- The operator of a binary expression, with what stands on its two sides. -/
def binary? : Expression → Option (BinaryOperator × Operands)
  | .binary operator left _ right => some (operator, ⟨left, right⟩)
  | _ => none

/-- The operator of a unary expression, with what it is applied to. -/
def unary? : Expression → Option (UnaryOperator × Expression)
  | .unary operator _ operand => some (operator, operand)
  | _ => none

/-- The parts of a call, without the commas between its arguments. -/
def call? : Expression → Option Application
  | .call function _ arguments _ => some ⟨function, arguments.map (·.1)⟩
  | _ => none

/-- The object of a member access, with the member. -/
def memberAccess? : Expression → Option Member
  | .memberAccess object _ member => some ⟨object, member⟩
  | _ => none

/-- The array of an array access, with the index. -/
def arrayAccess? : Expression → Option Element
  | .arrayAccess array _ index _ => some ⟨array, index⟩
  | _ => none

/-- The expression between two parentheses. -/
def parenthesized? : Expression → Option Expression
  | .parenthesized _ inner _ => some inner
  | _ => none

/-- The elements of an array initializer, without the commas between them. -/
def elements? : Expression → Option (List Expression)
  | .arrayInitializer _ elements _ _ => some (elements.map (·.1))
  | _ => none

/-- Compares how an expression is written as an S-expression. -/
def checkSexp (expected : String) : Check Expression := fun path expression =>
  Check.require (expression.toNode.sexp = expected) s!"{path}: S-expression mismatch"

/-- Checks an expression that has to be this name. -/
def checkIdentifier (expected : String) : Check Expression :=
  Check.ofKind "identifier" kindLabel identifier? (Identifier.check expected)

/-- A number, compared by its text in the source. -/
def checkNumber (expected : String) : Check Expression :=
  Check.ofKind "number" kindLabel number?
    (Check.inside "" NumberLiteral.text (Check.text expected))

/-- A string literal, compared by the text that it denotes. -/
def checkString (expected : String) : Check Expression :=
  Check.ofKind "string" kindLabel string? (Check.inside "" StringNode.value (Check.text expected))

/-- Checks an expression that has to be this truth value. -/
def checkBoolean (expected : Bool) : Check Expression :=
  Check.ofKind "boolean" kindLabel boolean? fun path literal =>
    Check.require (literal.value = expected)
      s!"{path}: Expected {expected}, found {literal.value}"

/-- The stand-in for an expression that the source lacks. -/
def checkMissing : Check Expression :=
  Check.ofKind "a missing expression" kindLabel missing? fun _ _ => .ok ()

/-- Checks an expression that has to be an error node. -/
def checkError (check : Check ErrorNode) : Check Expression :=
  Check.ofKind "ERROR" kindLabel error? check

/-- Checks an expression that has to be binary: the spelling of its operator, and then its
operands. -/
def checkBinary (operator : String) (check : Check Operands) : Check Expression :=
  Check.ofKind "binary_expression" kindLabel binary? <|
    Check.every
      [Check.inside ".operator" (fun parts => parts.1.spelling) (Check.text operator),
        Check.inside "" (·.2) check]

/-- Checks an expression that has to be unary: the spelling of its operator, and then its
operand. -/
def checkUnary (operator : String) (check : Check Expression) : Check Expression :=
  Check.ofKind "unary_expression" kindLabel unary? <|
    Check.every
      [Check.inside ".operator" (fun parts => parts.1.spelling) (Check.text operator),
        Check.inside "" (·.2) check]

/-- The operand of a unary expression. -/
def checkOperand (check : Check Expression) : Check Expression :=
  Check.inside ".operand" id check

/-- Checks an expression that has to be a call. -/
def checkCall (check : Check Application) : Check Expression :=
  Check.ofKind "call_expression" kindLabel call? check

/-- Checks an expression that has to be a member access. -/
def checkMemberAccess (check : Check Member) : Check Expression :=
  Check.ofKind "member_access" kindLabel memberAccess? check

/-- Checks an expression that has to be an array access. -/
def checkArrayAccess (check : Check Element) : Check Expression :=
  Check.ofKind "array_access" kindLabel arrayAccess? check

/-- The expression between parentheses. -/
def checkParenthesized (check : Check Expression) : Check Expression :=
  Check.ofKind "parenthesized_expression" kindLabel parenthesized?
    (Check.inside ".expression" id check)

/-- Checks an expression that has to be an array initializer. -/
def checkInitializer (check : Check (List Expression)) : Check Expression :=
  Check.ofKind "array_initializer" kindLabel elements? check

/-- Compares how many elements an array initializer has. -/
def checkElementCount (expected : Nat) : Check (List Expression) :=
  Check.count "elements" id expected

/-- Checks one element of an array initializer, counted from zero. -/
def checkElement (index : Nat) (check : Check Expression) : Check (List Expression) :=
  Check.item "element" "elements" id index check

end Expression

namespace Application

/-- A call of a function that is named by an identifier. -/
def checkCallee (expected : String) : Check Application :=
  Check.inside ".function" Application.function (Expression.checkIdentifier expected)

/-- Checks what is called. -/
def checkFunction (check : Check Expression) : Check Application :=
  Check.inside ".function" Application.function check

/-- Compares how many arguments a call has. -/
def checkArgumentCount (expected : Nat) : Check Application :=
  Check.count "arguments" Application.arguments expected

/-- Checks one argument of a call, counted from zero. -/
def checkArgument (index : Nat) (check : Check Expression) : Check Application :=
  Check.item "argument" "arguments" Application.arguments index check

end Application

end ScriptTree
