import ScriptTree.Syntax.Statement

/-!
# Declarations and programs

The five forms of a declaration:

* `instance name (parent) block`, or `instance name (parent);`
* `prototype name (parent) block`
* `func type name (parameters) block`
* `class name` with a body of members
* `var` or `const`, a type, a name, and an optional size and value

A trailing semicolon after a body is optional.
-/

namespace ScriptTree

/-- The parent of an instance between its parentheses. -/
structure ParentClause where
  opening : Range
  name : Identifier
  closing : Option Range

/-- Without a body an instance is a forward declaration. -/
structure InstanceDeclaration where
  keyword : Range
  name : Identifier
  parent : Option ParentClause
  body : Option Block
  semicolon : Option Range

/-- A prototype of some class. -/
structure PrototypeDeclaration where
  keyword : Range
  name : Identifier
  opening : Option Range
  parent : Identifier
  closing : Option Range
  body : Block
  semicolon : Option Range

/-- A parameter.  Its keyword may be left out. -/
structure Parameter where
  qualifier : Option (VariableKind × Range)
  type : TypeReference
  name : Identifier

/-- Parameters come with the comma that follows them. -/
inductive ParameterList where
  | missing (anchor : Range)
  | written (opening : Range) (parameters : List (Parameter × Option Range))
      (closing : Option Range)

/-- The parameters of a list, without their commas. -/
def ParameterList.parameters : ParameterList → List Parameter
  | .missing _ => []
  | .written _ parameters _ => parameters.map (·.1)

/-- A function with its body. -/
structure FunctionDeclaration where
  keyword : Range
  returnType : TypeReference
  name : Identifier
  parameters : ParameterList
  body : Block
  semicolon : Option Range

/-- What stands in a class. -/
inductive ClassMember where
  | variableDeclaration (declaration : VariableDeclaration)
  | assignmentStatement (assignment : AssignmentStatement)
  | error (node : ErrorNode)

/-- What a class body is read as: its members, and targets of assignments that were given up
before their operator.  An abandoned target is no node of the tree. -/
inductive ClassItem where
  | member (content : ClassMember)
  | abandoned (target : Expression)

/-- The member that an item of a class is, unless it was abandoned. -/
def ClassItem.member? : ClassItem → Option ClassMember
  | .member content => some content
  | .abandoned _ => none

/-- The body of a class. -/
inductive ClassBody where
  | missing (anchor : Range)
  | written (opening : Range) (items : List ClassItem) (closing : Option Range)

namespace ClassBody

/-- Whether a body is missing. -/
def isMissing : ClassBody → Bool
  | .missing _ => true
  | .written _ _ _ => false

/-- The members of a class. -/
def members : ClassBody → List ClassMember
  | .missing _ => []
  | .written _ items _ => items.filterMap ClassItem.member?

end ClassBody

/-- A class with its members. -/
structure ClassDeclaration where
  keyword : Range
  name : Identifier
  body : ClassBody
  semicolon : Option Range

/-- What stands at the top level of a source. -/
inductive Declaration where
  | instanceDeclaration (declaration : InstanceDeclaration)
  | prototypeDeclaration (declaration : PrototypeDeclaration)
  | functionDeclaration (declaration : FunctionDeclaration)
  | variableDeclaration (declaration : VariableDeclaration)
  | classDeclaration (declaration : ClassDeclaration)
  | error (node : ErrorNode)

namespace Declaration

/-- The declared name; an error node declares none. -/
def name? : Declaration → Option Identifier
  | .instanceDeclaration declaration => some declaration.name
  | .prototypeDeclaration declaration => some declaration.name
  | .functionDeclaration declaration => some declaration.name
  | .variableDeclaration declaration => some declaration.name
  | .classDeclaration declaration => some declaration.name
  | .error _ => none

end Declaration

/-- A whole source file.  Its range covers the source, leading and trailing blanks included. -/
structure Program where
  declarations : List Declaration
  range : Range

end ScriptTree
