import ScriptTree.Check.Expression

/-!
# Checks of statements and declarations
-/

namespace ScriptTree

/-- The kinds of some nodes, for the text of a failure. -/
def kindList (nodes : List Node) : String :=
  ", ".intercalate (nodes.map fun node => node.kind.label)

/-- A count whose failure lists the kinds of what is there. -/
def Check.countOfNodes {α : Type} (plural : String) (nodes : α → List Node) (expected : Nat) :
    Check α := fun path part =>
  let actual := (nodes part).length
  Check.require (actual = expected)
    (path ++ s!"Expected {expected} {plural}, found {actual} {plural}: [{kindList (nodes part)}]")

namespace TypeReference

/-- Compares the text that a type is named by. -/
def check (expected : String) : Check TypeReference :=
  Check.inside ".type" (fun reference => reference.type.text) (Check.text expected)

end TypeReference

namespace VariableDeclaration

/-- Compares the keyword that a variable is declared with. -/
def checkKind (expected : VariableKind) : Check VariableDeclaration := fun path declaration =>
  Check.require (declaration.kind = expected)
    s!"{path}: Expected a {expected.spelling} declaration, found {declaration.kind.spelling}"

/-- Compares the name of a variable. -/
def checkName (expected : String) : Check VariableDeclaration :=
  Check.inside "" VariableDeclaration.name (Identifier.check expected)

/-- Compares the type of a variable. -/
def checkType (expected : String) : Check VariableDeclaration :=
  Check.inside "" VariableDeclaration.type (TypeReference.check expected)

/-- Demands a size, of whatever kind. -/
def checkArray : Check VariableDeclaration := fun path declaration =>
  Check.require declaration.size.isSome s!"{path}: Expected an array declaration"

/-- Checks the expression between the brackets of the size. -/
def checkSize (check : Check Expression) : Check VariableDeclaration :=
  Check.present ".size" "Expected an array size"
    (fun declaration => declaration.size.map ArraySize.size) check

/-- Checks the initial value, which has to be there. -/
def checkValue (check : Check Expression) : Check VariableDeclaration :=
  Check.present ".value" "Expected an initializer"
    (fun declaration => declaration.initializer.map Initializer.value) check

/-- Demands that no initial value is given. -/
def checkNoValue : Check VariableDeclaration := fun path declaration =>
  Check.require declaration.initializer.isNone s!"{path}: Expected no initializer"

end VariableDeclaration

namespace AssignmentStatement

/-- Compares the operator of an assignment. -/
def checkOperator (expected : AssignmentOperator) : Check AssignmentStatement :=
  fun path assignment =>
    Check.require (assignment.operator = expected)
      (s!"{path}: Expected operator {expected.spelling}, " ++
        s!"found {assignment.operator.spelling}")

/-- Checks what is assigned to. -/
def checkLeft (check : Check Expression) : Check AssignmentStatement :=
  Check.inside ".left" AssignmentStatement.left check

/-- Checks what is assigned. -/
def checkRight (check : Check Expression) : Check AssignmentStatement :=
  Check.inside ".right" AssignmentStatement.right check

end AssignmentStatement

namespace ReturnStatement

/-- Checks the returned value, which has to be there. -/
def checkValue (check : Check Expression) : Check ReturnStatement :=
  Check.present ".value" "Expected a return value" ReturnStatement.value check

/-- Demands that nothing is returned. -/
def checkNoValue : Check ReturnStatement := fun path statement =>
  Check.require statement.value.isNone s!"{path}: Expected a bare return"

end ReturnStatement

/-- The condition and the branches of an `if`. -/
structure Choice where
  condition : Expression
  consequence : Statement
  alternative : Option Statement

namespace Choice

/-- Checks the condition, inside of its parentheses or not. -/
def checkCondition (check : Check Expression) : Check Choice :=
  Check.inside ".condition" Choice.condition check

/-- Checks the statement that follows the condition. -/
def checkConsequence (check : Check Statement) : Check Choice :=
  Check.inside ".consequence" Choice.consequence check

/-- Checks the statement that follows the `else`, which has to be there. -/
def checkAlternative (check : Check Statement) : Check Choice :=
  Check.present ".alternative" "Expected an else branch" Choice.alternative check

/-- Demands that there is no `else`. -/
def checkNoAlternative : Check Choice := fun path choice =>
  Check.require choice.alternative.isNone s!"{path}: Expected no else branch"

end Choice

namespace Block

/-- Compares how many statements a block has, and draws them if there are more or fewer. -/
def checkStatementCount (expected : Nat) : Check Block := fun path block =>
  Check.countOfNodes "statements" (fun block : Block => block.statements.map Statement.toNode)
    expected s!"{path}: " block

/-- Checks one statement of a block, counted from zero. -/
def checkStatement (index : Nat) (check : Check Statement) : Check Block :=
  Check.item "statement" "statements" Block.statements index check

/-- The stand-in for a block that the source lacks. -/
def checkMissing : Check Block := fun path block =>
  Check.require block.isMissing s!"{path}: Expected a missing block"

end Block

namespace Statement

/-- What the kind of a statement is called in messages. -/
def kindLabel (statement : Statement) : String :=
  statement.toNode.kind.label

/-- A statement's assignment, if it is one. -/
def assignment? : Statement → Option AssignmentStatement
  | .assignmentStatement assignment => some assignment
  | _ => none

/-- The expression of a statement that is made of an expression and a semicolon. -/
def expression? : Statement → Option Expression
  | .expressionStatement statement => some statement.expression
  | _ => none

/-- The parts of an `if`, without its keywords and the semicolons after its branches. -/
def choice? : Statement → Option Choice
  | .ifStatement _ condition consequence otherwise =>
    some ⟨condition, consequence.statement, otherwise.map fun branch => branch.2.statement⟩
  | _ => none

/-- A statement's `return`, if it is one. -/
def returnStatement? : Statement → Option ReturnStatement
  | .returnStatement statement => some statement
  | _ => none

/-- The variable that a statement declares. -/
def variableDeclaration? : Statement → Option VariableDeclaration
  | .variableDeclaration declaration => some declaration
  | _ => none

/-- A statement's block, if it is one. -/
def block? : Statement → Option Block
  | .block body => some body
  | _ => none

/-- The error node that stands in for a statement. -/
def error? : Statement → Option ErrorNode
  | .error node => some node
  | _ => none

/-- Checks a statement that has to be an assignment. -/
def checkAssignment (check : Check AssignmentStatement) : Check Statement :=
  Check.ofKind "assignment_statement" kindLabel assignment? check

/-- The expression of an expression statement. -/
def checkExpression (check : Check Expression) : Check Statement :=
  Check.ofKind "expression_statement" kindLabel expression? (Check.inside ".expression" id check)

/-- Checks a statement that has to be an `if`. -/
def checkIf (check : Check Choice) : Check Statement :=
  Check.ofKind "if_statement" kindLabel choice? check

/-- Checks a statement that has to be a `return`. -/
def checkReturn (check : Check ReturnStatement) : Check Statement :=
  Check.ofKind "return_statement" kindLabel returnStatement? check

/-- Checks a statement that has to declare a variable. -/
def checkVariable (check : Check VariableDeclaration) : Check Statement :=
  Check.ofKind "variable_declaration" kindLabel variableDeclaration? check

/-- Checks a statement that has to be a block. -/
def checkBlock (check : Check Block) : Check Statement :=
  Check.ofKind "block" kindLabel block? check

/-- Checks a statement that has to be an error node. -/
def checkError (check : Check ErrorNode) : Check Statement :=
  Check.ofKind "ERROR" kindLabel error? check

end Statement

namespace InstanceDeclaration

/-- Compares the name of an instance. -/
def checkName (expected : String) : Check InstanceDeclaration :=
  Check.inside "" InstanceDeclaration.name (Identifier.check expected)

/-- The name between the parentheses after the name of an instance. -/
def parentName? (declaration : InstanceDeclaration) : Option Identifier :=
  declaration.parent.map ParentClause.name

/-- Compares the parent of an instance, which has to be there. -/
def checkParent (expected : String) : Check InstanceDeclaration :=
  Check.present ".parent" s!"Expected parent '{expected}', found no parent" parentName?
    (Identifier.check expected)

/-- Demands that an instance has no parent, and names the one it has. -/
def checkNoParent : Check InstanceDeclaration := fun path declaration =>
  match declaration.parentName? with
  | none => .ok ()
  | some parent => .error s!"{path}: Expected no parent, found '{parent.name}'"

/-- A declaration without a body. -/
def checkForward : Check InstanceDeclaration := fun path declaration =>
  Check.require declaration.body.isNone
    s!"{path}: Expected a forward declaration, found a body"

/-- Checks the body of an instance, which has to be there. -/
def checkBody (check : Check Block) : Check InstanceDeclaration :=
  Check.present ".body" "Expected a body, found a forward declaration" InstanceDeclaration.body
    check

end InstanceDeclaration

namespace PrototypeDeclaration

/-- Compares the name of a prototype. -/
def checkName (expected : String) : Check PrototypeDeclaration :=
  Check.inside "" PrototypeDeclaration.name (Identifier.check expected)

/-- Compares the class that a prototype is one of. -/
def checkParent (expected : String) : Check PrototypeDeclaration :=
  Check.inside ".parent" PrototypeDeclaration.parent (Identifier.check expected)

/-- Checks the body of a prototype. -/
def checkBody (check : Check Block) : Check PrototypeDeclaration :=
  Check.inside ".body" PrototypeDeclaration.body check

end PrototypeDeclaration

namespace Parameter

/-- Compares the name of a parameter. -/
def checkName (expected : String) : Check Parameter :=
  Check.inside "" Parameter.name (Identifier.check expected)

/-- Compares the type of a parameter. -/
def checkType (expected : String) : Check Parameter :=
  Check.inside "" Parameter.type (TypeReference.check expected)

/-- Demands that a parameter is declared with this keyword. -/
def checkQualifier (expected : VariableKind) : Check Parameter := fun path parameter =>
  Check.require (parameter.qualifier.map (·.1) = some expected)
    s!"{path}: Expected qualifier {expected.spelling}"

end Parameter

namespace FunctionDeclaration

/-- The parameters of a function, without the commas between them. -/
def parameterList (declaration : FunctionDeclaration) : List Parameter :=
  declaration.parameters.parameters

/-- Compares the name of a function. -/
def checkName (expected : String) : Check FunctionDeclaration :=
  Check.inside "" FunctionDeclaration.name (Identifier.check expected)

/-- Compares the type that a function returns. -/
def checkReturnType (expected : String) : Check FunctionDeclaration :=
  Check.inside ".return" FunctionDeclaration.returnType (TypeReference.check expected)

/-- Compares how many parameters a function has. -/
def checkParameterCount (expected : Nat) : Check FunctionDeclaration :=
  Check.count "parameters" parameterList expected

/-- Checks one parameter of a function, counted from zero. -/
def checkParameter (index : Nat) (check : Check Parameter) : Check FunctionDeclaration :=
  Check.item "parameter" "parameters" parameterList index check

/-- Checks the body of a function. -/
def checkBody (check : Check Block) : Check FunctionDeclaration :=
  Check.inside ".body" FunctionDeclaration.body check

end FunctionDeclaration

namespace ClassMember

/-- What the kind of a class member is called in messages. -/
def kindLabel (member : ClassMember) : String :=
  member.toNode.kind.label

/-- The variable that a class member declares. -/
def variableDeclaration? : ClassMember → Option VariableDeclaration
  | .variableDeclaration declaration => some declaration
  | _ => none

/-- A class member's assignment, if it is one. -/
def assignment? : ClassMember → Option AssignmentStatement
  | .assignmentStatement assignment => some assignment
  | _ => none

/-- The error node that stands in for a class member. -/
def error? : ClassMember → Option ErrorNode
  | .error node => some node
  | _ => none

/-- Checks a member that has to declare a variable. -/
def checkVariable (check : Check VariableDeclaration) : Check ClassMember :=
  Check.ofKind "variable_declaration" kindLabel variableDeclaration? check

/-- Checks a member that has to be an assignment. -/
def checkAssignment (check : Check AssignmentStatement) : Check ClassMember :=
  Check.ofKind "assignment_statement" kindLabel assignment? check

/-- Checks a member that has to be an error node. -/
def checkError (check : Check ErrorNode) : Check ClassMember :=
  Check.ofKind "ERROR" kindLabel error? check

end ClassMember

namespace ClassDeclaration

/-- The members of a class, without the semicolons between them. -/
def memberList (declaration : ClassDeclaration) : List ClassMember :=
  declaration.body.members

/-- Compares the name of a class. -/
def checkName (expected : String) : Check ClassDeclaration :=
  Check.inside "" ClassDeclaration.name (Identifier.check expected)

/-- Compares how many members a class has. -/
def checkMemberCount (expected : Nat) : Check ClassDeclaration :=
  Check.count "members" memberList expected

/-- Checks one member of a class, counted from zero. -/
def checkMember (index : Nat) (check : Check ClassMember) : Check ClassDeclaration :=
  Check.item "member" "members" memberList index check

end ClassDeclaration

namespace Declaration

/-- What the kind of a declaration is called in messages. -/
def kindLabel (declaration : Declaration) : String :=
  declaration.toNode.kind.label

/-- A declaration's instance, if it declares one. -/
def instanceDeclaration? : Declaration → Option InstanceDeclaration
  | .instanceDeclaration declaration => some declaration
  | _ => none

/-- A declaration's prototype, if it declares one. -/
def prototypeDeclaration? : Declaration → Option PrototypeDeclaration
  | .prototypeDeclaration declaration => some declaration
  | _ => none

/-- A declaration's function, if it declares one. -/
def functionDeclaration? : Declaration → Option FunctionDeclaration
  | .functionDeclaration declaration => some declaration
  | _ => none

/-- A declaration's variable, if it declares one. -/
def variableDeclaration? : Declaration → Option VariableDeclaration
  | .variableDeclaration declaration => some declaration
  | _ => none

/-- A declaration's class, if it declares one. -/
def classDeclaration? : Declaration → Option ClassDeclaration
  | .classDeclaration declaration => some declaration
  | _ => none

/-- The error node that stands in for a declaration. -/
def error? : Declaration → Option ErrorNode
  | .error node => some node
  | _ => none

/-- Checks a declaration that has to be one of an instance. -/
def checkInstance (check : Check InstanceDeclaration) : Check Declaration :=
  Check.ofKind "instance_declaration" kindLabel instanceDeclaration? check

/-- Checks a declaration that has to be one of a prototype. -/
def checkPrototype (check : Check PrototypeDeclaration) : Check Declaration :=
  Check.ofKind "prototype_declaration" kindLabel prototypeDeclaration? check

/-- Checks a declaration that has to be one of a function. -/
def checkFunction (check : Check FunctionDeclaration) : Check Declaration :=
  Check.ofKind "function_declaration" kindLabel functionDeclaration? check

/-- Checks a declaration that has to be one of a variable. -/
def checkVariable (check : Check VariableDeclaration) : Check Declaration :=
  Check.ofKind "variable_declaration" kindLabel variableDeclaration? check

/-- Checks a declaration that has to be one of a class. -/
def checkClass (check : Check ClassDeclaration) : Check Declaration :=
  Check.ofKind "class_declaration" kindLabel classDeclaration? check

/-- Checks a declaration that has to be an error node. -/
def checkError (check : Check ErrorNode) : Check Declaration :=
  Check.ofKind "ERROR" kindLabel error? check

end Declaration

end ScriptTree
