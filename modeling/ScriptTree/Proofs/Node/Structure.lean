import ScriptTree.Node.Assembly
import ScriptTree.Proofs.Syntax.Erased

/-!
# From a node back to the typed tree

The content of a node and the fields of its children say which typed part the node
was assembled from, but for places.  Reading a node back puts that part together
from what its children were read as.  One node may stand for parts of several
types: a name is an expression as well, a variable is a statement, a member of a
class and a declaration.  So what a node is read as is a `Fragment`, and whoever
holds the node says of which type the part is.
-/

namespace ScriptTree

/-- A part of the typed tree. -/
inductive Fragment where
  | identifier (name : Identifier)
  | type (reference : TypeReference)
  | error (node : ErrorNode)
  | expression (value : Expression)
  | arguments (items : List Expression)
  | variable (declaration : VariableDeclaration)
  | assignment (assignment : AssignmentStatement)
  | block (block : Block)
  | statement (statement : Statement)
  | parameter (parameter : Parameter)
  | parameterList (parameters : ParameterList)
  | classBody (body : ClassBody)
  | declaration (declaration : Declaration)
  | program (declarations : List Declaration)
deriving Inhabited

namespace Fragment

/-! ## Fragments of one type

What is of another type becomes a stand-in. -/

/-- A name, or else the stand-in for one. -/
def toIdentifier : Fragment → Identifier
  | .identifier value => value
  | _ => .missing default

/-- A type, or else the stand-in for one. -/
def toType : Fragment → TypeReference
  | .type value => value
  | _ => .missing default

/-- An expression.  Names and errors are expressions, too. -/
def toExpression : Fragment → Expression
  | .expression value => value
  | .identifier value => .identifier value
  | .error value => .error value
  | _ => .missing default

/-- The arguments of a call, none if there is no list. -/
def toArguments : Fragment → List Expression
  | .arguments values => values
  | _ => []

/-- A block, or else the stand-in for one. -/
def toBlock : Fragment → Block
  | .block value => value
  | _ => .missing default true

/-- A statement.  What may stand elsewhere as well is a statement, too. -/
def toStatement : Fragment → Statement
  | .statement value => value
  | .assignment value => .assignmentStatement value
  | .variable value => .variableDeclaration value
  | .block value => .block value
  | .error value => .error value
  | _ => .error (.missing default)

/-- A branch without its semicolon, which is not part of the structure. -/
def toBranch (fragment : Fragment) : Branch :=
  .written fragment.toStatement none

/-- A parameter, or else one of stand-ins. -/
def toParameter : Fragment → Parameter
  | .parameter value => value
  | _ => ⟨none, .missing default, .missing default⟩

/-- A parameter list, or else the stand-in for one. -/
def toParameterList : Fragment → ParameterList
  | .parameterList value => value
  | _ => .missing default

/-- A class member.  It may be a variable, an assignment or an error. -/
def toMember : Fragment → ClassMember
  | .variable value => .variableDeclaration value
  | .assignment value => .assignmentStatement value
  | .error value => .error value
  | _ => .error (.missing default)

/-- The body of a class, or else the stand-in for one. -/
def toClassBody : Fragment → ClassBody
  | .classBody value => value
  | _ => .missing default

/-- A declaration.  Variables and errors are declarations, too. -/
def toDeclaration : Fragment → Declaration
  | .declaration value => value
  | .variable value => .variableDeclaration value
  | .error value => .error value
  | _ => .error (.missing default)

/-! ## Putting fragments together -/

/-- What stands under a field, if anything does. -/
def under? (children : List (Field × Fragment)) (field : Field) : Option Fragment :=
  (children.find? (·.1 = field)).map (·.2)

/-- What is stored under a field, or the fragment that stands for nothing. -/
def under (children : List (Field × Fragment)) (field : Field) : Fragment :=
  (under? children field).getD default

/-- The part that a node stands for: the node is missing or not, skips some tokens, and has children
that were read already. -/
def ofContent (isMissing : Bool) (skipped : Nat) (children : List (Field × Fragment)) :
    Content → Fragment
  | .program => .program (children.map fun child => child.2.toDeclaration)
  | .instanceDeclaration =>
    .declaration (.instanceDeclaration
      { keyword := default
        name := (under children .name).toIdentifier
        parent := (under? children .parent).map fun parent => ⟨default, parent.toIdentifier, none⟩
        body := (under? children .body).map toBlock
        semicolon := none })
  | .prototypeDeclaration =>
    .declaration (.prototypeDeclaration
      { keyword := default
        name := (under children .name).toIdentifier
        opening := none
        parent := (under children .parent).toIdentifier
        closing := none
        body := (under children .body).toBlock
        semicolon := none })
  | .functionDeclaration =>
    .declaration (.functionDeclaration
      { keyword := default
        returnType := (under children .returnType).toType
        name := (under children .name).toIdentifier
        parameters := (under children .parameters).toParameterList
        body := (under children .body).toBlock
        semicolon := none })
  | .parameterList =>
    .parameterList <|
      if isMissing then .missing default
      else .written default (children.map fun child => (child.2.toParameter, none)) none
  | .parameter qualifier =>
    .parameter
      { qualifier := qualifier.map fun kind => (kind, default)
        type := (under children .type).toType
        name := (under children .name).toIdentifier }
  | .variableDeclaration kind =>
    .variable
      { kind
        keyword := default
        type := (under children .type).toType
        name := (under children .name).toIdentifier
        size := (under? children .size).map fun size => ⟨default, size.toExpression, none⟩
        initializer := (under? children .value).map fun value => ⟨default, value.toExpression⟩
        terminator := none }
  | .classDeclaration =>
    .declaration (.classDeclaration
      { keyword := default
        name := (under children .name).toIdentifier
        body := (under children .body).toClassBody
        semicolon := none })
  | .classBody =>
    .classBody <|
      if isMissing then .missing default
      else .written default (children.map fun child => .member child.2.toMember) none
  | .block =>
    .block <|
      if isMissing then .missing default true
      else .written default (children.map fun child => child.2.toStatement) none
  | .assignmentStatement operator =>
    .assignment
      { left := (under children .left).toExpression
        operator
        sign := none
        right := (under children .right).toExpression
        terminator := none }
  | .expressionStatement =>
    .statement (.expressionStatement ⟨(under children .expression).toExpression, none⟩)
  | .ifStatement =>
    .statement (.ifStatement default (under children .condition).toExpression
      (under children .consequence).toBranch
      ((under? children .alternative).map fun branch => (default, branch.toBranch)))
  | .returnStatement =>
    .statement (.returnStatement ⟨default, (under? children .value).map toExpression, none⟩)
  | .binaryExpression operator =>
    .expression (.binary operator (under children .left).toExpression default
      (under children .right).toExpression)
  | .unaryExpression operator =>
    .expression (.unary operator default (under children .operand).toExpression)
  | .arrayAccess =>
    .expression (.arrayAccess (under children .array).toExpression default
      (under children .index).toExpression none)
  | .memberAccess =>
    .expression (.memberAccess (under children .object).toExpression default
      (under children .member).toIdentifier)
  | .callExpression =>
    .expression (.call (under children .function).toExpression default
      ((under children .arguments).toArguments.map (·, none)) none)
  | .argumentList => .arguments (children.map fun child => child.2.toExpression)
  | .parenthesizedExpression =>
    .expression (.parenthesized default (under children .expression).toExpression none)
  | .arrayInitializer =>
    .expression
      (.arrayInitializer default (children.map fun child => (child.2.toExpression, none)) none none)
  | .identifier name => .identifier ⟨name, default⟩
  | .type name => .type ⟨name, default⟩
  | .number text => .expression (.number ⟨text, default⟩)
  | .string raw => .expression (.string ⟨raw, default⟩)
  | .boolean value => .expression (.boolean ⟨value, default⟩)
  | .error => .error (.ofCount skipped)

end Fragment

namespace Node

/-- How many tokens an error skips. -/
def skippedCount (node : Node) : Nat :=
  if node.isError then node.tokens.length else 0

mutual

/-- The part of the typed tree that a node stands for. -/
def fragment : Node → Fragment
  | .mk content range tokens children =>
    .ofContent (Node.mk content range tokens children).isMissing
      (Node.mk content range tokens children).skippedCount (forestFragments children) content

/-- The children of a node, each read as a fragment. -/
def forestFragments : List (Field × Node) → List (Field × Fragment)
  | [] => []
  | (field, child) :: rest => (field, child.fragment) :: forestFragments rest

end

/-- Children are read one after the other. -/
theorem forestFragments_append (first second : List (Field × Node)) :
    forestFragments (first ++ second) = forestFragments first ++ forestFragments second := by
  induction first with
  | nil => rfl
  | cons child rest ih => rw [List.cons_append, forestFragments, ih, forestFragments]; rfl

end Node

namespace Part

/-- What the children among some parts are read as. -/
def fragments (parts : List Part) : List (Field × Fragment) :=
  Node.forestFragments (parts.filterMap Part.child?)

section

variable (field : Field) (assembly : Assembly) (parts more : List Part)

@[simp]
theorem fragments_token (placed : PlacedToken) :
    fragments (.token placed :: parts) = fragments parts :=
  rfl

@[simp]
theorem fragments_child :
    fragments (.child field assembly :: parts) =
      (field, assembly.node.fragment) :: fragments parts :=
  rfl

/-- The children among two groups of parts are read one after the other. -/
@[simp]
theorem fragments_append : fragments (parts ++ more) = fragments parts ++ fragments more := by
  rw [fragments, List.filterMap_append, Node.forestFragments_append]
  rfl

@[simp]
theorem fragments_optional (token : Token) (place : Option Range) :
    fragments (Part.optional token place) = [] := by
  cases place <;> rfl

/-- What stands between two tokens, the second of which may be absent. -/
theorem fragments_enclosed (placed : PlacedToken) (token : Token) (place : Option Range) :
    fragments (.token placed :: (parts ++ Part.optional token place)) = fragments parts := by
  simp

end

end Part

open ScriptTree.Part

/-- The node of some parts is read as its content asks, from its children. -/
theorem Assembly.fragment_ofParts (content : Content) (parts : List Part) :
    (ofParts content parts).node.fragment =
      .ofContent (ofParts content parts).node.isMissing (ofParts content parts).node.skippedCount
        (fragments parts) content :=
  rfl

/-! ## Expressions -/

namespace Expression

mutual

/-- An expression is read back from its node. -/
theorem toExpression_fragment : (expression : Expression) →
    expression.assembly.node.fragment.toExpression = expression.erased
  | .binary _ left _ right => by
    rw [erased, ← toExpression_fragment left, ← toExpression_fragment right]
    rfl
  | .unary _ _ operand => by
    rw [erased, ← toExpression_fragment operand]
    rfl
  | .arrayAccess array _ index closing => by
    rw [erased, ← toExpression_fragment array, ← toExpression_fragment index]
    cases closing <;> rfl
  | .memberAccess object _ _ => by
    rw [erased, ← toExpression_fragment object]
    rfl
  | .call function _ items closing => by
    have read := map_fragments_listParts .arguments items
    rw [erased, listErased_eq, ← toExpression_fragment function, ← read, assembly,
      Assembly.fragment_ofParts, fragments_child, fragments_child, Assembly.fragment_ofParts,
      fragments_enclosed]
    rfl
  | .parenthesized _ inner closing => by
    rw [erased, ← toExpression_fragment inner]
    cases closing <;> rfl
  | .boolean _ | .number _ | .string _ | .identifier _ | .error _ => rfl
  | .arrayInitializer _ items sought closing => by
    have read := map_fragments_listParts .elements items
    have noGap : fragments (sought.map Part.gap).toList = [] := by
      cases sought <;> rfl
    rw [erased, listErased_eq, ← read, assembly, Assembly.fragment_ofParts, fragments_enclosed,
      fragments_append, noGap, List.append_nil, List.map_map]
    rfl

/-- The expressions of a list are read back, erased. -/
theorem map_fragments_listParts (field : Field) : (items : List (Expression × Option Range)) →
    (fragments (listParts field items)).map (fun child => child.2.toExpression) =
      items.map fun item => item.1.erased
  | [] => rfl
  | (expression, comma) :: rest => by
    simp [listParts, toExpression_fragment expression, map_fragments_listParts field rest]

end

end Expression

/-! ## Statements -/

theorem VariableDeclaration.fragment_assembly (declaration : VariableDeclaration) :
    declaration.assembly.node.fragment = .variable declaration.erased := by
  rcases declaration with ⟨kind, keyword, type, name, size, initializer, terminator⟩
  have terms : ∀ expression : Expression,
      expression.erased = expression.assembly.node.fragment.toExpression :=
    fun expression => expression.toExpression_fragment.symm
  rw [assembly, Assembly.fragment_ofParts, fragments_append, fragments_optional, List.append_nil]
  rcases size with _ | ⟨_, size, closing⟩
  · rcases initializer with _ | ⟨_, value⟩
    · rfl
    · simp only [erased, Option.map_some, Initializer.erased, terms]
      rfl
  · rw [sizeParts, fragments_append, fragments_append, fragments_append, fragments_optional]
    rcases initializer with _ | ⟨_, value⟩
    · simp only [erased, Option.map_some, ArraySize.erased, terms]
      rfl
    · simp only [erased, Option.map_some, ArraySize.erased, Initializer.erased, terms]
      rfl

theorem AssignmentStatement.fragment_assembly (assignment : AssignmentStatement) :
    assignment.assembly.node.fragment = .assignment assignment.erased := by
  rw [erased, ← assignment.left.toExpression_fragment, ← assignment.right.toExpression_fragment,
    assembly, Assembly.fragment_ofParts, fragments_child, fragments_append, fragments_optional,
    fragments_child, fragments_optional]
  rfl

theorem ExpressionStatement.fragment_assembly (statement : ExpressionStatement) :
    statement.assembly.node.fragment = .statement (.expressionStatement statement.erased) := by
  rw [erased, ← statement.expression.toExpression_fragment, assembly, Assembly.fragment_ofParts,
    fragments_child, fragments_optional]
  rfl

theorem ReturnStatement.fragment_assembly (statement : ReturnStatement) :
    statement.assembly.node.fragment = .statement (.returnStatement statement.erased) := by
  rcases statement with ⟨keyword, value, terminator⟩
  rw [assembly, Assembly.fragment_ofParts, fragments_enclosed]
  cases value with
  | none => rfl
  | some value =>
    exact congrArg
      (fun value => Fragment.statement (.returnStatement ⟨default, some value, none⟩))
      value.toExpression_fragment

mutual

theorem Block.fragment_assembly : (block : Block) →
    block.assembly.node.fragment = .block block.erased
  | .missing _ _ => rfl
  | .written _ statements _ => by
    rw [Block.erased, Statement.listErased_eq, ← Statement.map_fragments_listParts statements,
      Block.assembly, Assembly.fragment_ofParts, fragments_enclosed]
    rfl

/-- A statement is read back from its node. -/
theorem Statement.toStatement_fragment : (statement : Statement) →
    statement.assembly.node.fragment.toStatement = statement.erased
  | .assignmentStatement assignment => congrArg Fragment.toStatement assignment.fragment_assembly
  | .expressionStatement statement => congrArg Fragment.toStatement statement.fragment_assembly
  | .ifStatement _ condition consequence none => by
    rcases Branch.exists_fragments_parts .consequence consequence with ⟨first, parts, branch⟩
    rw [Statement.erased, ← condition.toExpression_fragment, ← branch, Statement.assembly,
      Assembly.fragment_ofParts, fragments_append, fragments_append, parts]
    rfl
  | .ifStatement _ condition consequence (some (_, alternative)) => by
    rcases Branch.exists_fragments_parts .consequence consequence with ⟨first, parts, branch⟩
    rcases Branch.exists_fragments_parts .alternative alternative with ⟨second, more, otherwise⟩
    rw [Statement.erased, ← condition.toExpression_fragment, ← branch, ← otherwise,
      Statement.assembly, Assembly.fragment_ofParts, fragments_append, fragments_append, parts,
      Branch.alternativeParts, fragments_token (alternative.parts .alternative), more]
    rfl
  | .returnStatement statement => congrArg Fragment.toStatement statement.fragment_assembly
  | .variableDeclaration declaration =>
    congrArg Fragment.toStatement declaration.fragment_assembly
  | .block block => congrArg Fragment.toStatement (Block.fragment_assembly block)
  | .error _ => rfl

/-- A branch is read back from its only fragment, erased. -/
theorem Branch.exists_fragments_parts (field : Field) : (branch : Branch) →
    ∃ fragment, fragments (branch.parts field) = [(field, fragment)] ∧
      fragment.toBranch = branch.erased
  | .missing _ => ⟨_, rfl, rfl⟩
  | .written statement semicolon => by
    refine ⟨statement.assembly.node.fragment, ?_, ?_⟩
    · rw [Branch.parts, fragments_child, fragments_optional]
    · rw [Branch.erased, ← Statement.toStatement_fragment statement]
      rfl

/-- The statements of a block are read back, erased. -/
theorem Statement.map_fragments_listParts : (statements : List Statement) →
    (fragments (Statement.listParts statements)).map (fun child => child.2.toStatement) =
      statements.map Statement.erased
  | [] => rfl
  | statement :: rest => by
    rw [Statement.listParts, fragments_child, List.map_cons, List.map_cons,
      Statement.toStatement_fragment statement, Statement.map_fragments_listParts rest]

end

/-! ## Declarations -/

theorem Block.fragments_part (block : Block) (rest : List Part) :
    fragments (block.part :: rest) = (.body, .block block.erased) :: fragments rest := by
  rw [← block.fragment_assembly]
  rcases block with ⟨anchor, _ | _⟩ | _ <;> rfl

theorem InstanceDeclaration.fragment_assembly (declaration : InstanceDeclaration) :
    declaration.assembly.node.fragment =
      .declaration (.instanceDeclaration declaration.erased) := by
  rcases declaration with ⟨keyword, name, parent, body, semicolon⟩
  rw [assembly, Assembly.fragment_ofParts, fragments_append, fragments_optional, List.append_nil,
    fragments_append, fragments_append]
  have bodies : fragments (body.map fun body => Part.child .body body.assembly).toList =
      (body.map fun body => (Field.body, Fragment.block body.erased)).toList := by
    cases body with
    | none => rfl
    | some body => exact congrArg (fun fragment => [(Field.body, fragment)]) body.fragment_assembly
  rw [bodies]
  cases parent with
  | none => cases body <;> rfl
  | some parent =>
    rw [parentParts, fragments_append, fragments_optional]
    cases body <;> rfl

theorem PrototypeDeclaration.fragment_assembly (declaration : PrototypeDeclaration) :
    declaration.assembly.node.fragment =
      .declaration (.prototypeDeclaration declaration.erased) := by
  rw [assembly, Assembly.fragment_ofParts, fragments_append, fragments_append, fragments_optional,
    fragments_child, fragments_append, fragments_optional, Block.fragments_part,
    fragments_optional]
  rfl

theorem Parameter.fragment_assembly (parameter : Parameter) :
    parameter.assembly.node.fragment = .parameter parameter.unplaced := by
  rcases parameter with ⟨_ | _, type, name⟩ <;> rfl

theorem ParameterList.fragments_parts (parameters : List (Parameter × Option Range)) :
    (fragments (parts parameters)).map (fun child => child.2.toParameter) =
      parameters.map fun parameter => parameter.1.unplaced := by
  induction parameters with
  | nil => rfl
  | cons parameter rest ih =>
    rw [parts, fragments_child, List.map_cons, List.map_cons, fragments_append,
      fragments_optional, List.nil_append, ih, parameter.1.fragment_assembly]
    rfl

theorem ParameterList.fragment_assembly (parameters : ParameterList) :
    parameters.assembly.node.fragment = .parameterList parameters.erased := by
  cases parameters with
  | missing => rfl
  | written opening parameters closing =>
    have read : parameters.map (fun parameter => (parameter.1.unplaced, (none : Option Range))) =
        (fragments (parts parameters)).map fun child => (child.2.toParameter, none) := by
      simpa [Function.comp_def] using
        congrArg (List.map (·, none)) (fragments_parts parameters).symm
    rw [erased, read, assembly, Assembly.fragment_ofParts, fragments_enclosed]
    rfl

theorem FunctionDeclaration.fragment_assembly (declaration : FunctionDeclaration) :
    declaration.assembly.node.fragment =
      .declaration (.functionDeclaration declaration.erased) := by
  rw [assembly, Assembly.fragment_ofParts, fragments_append, fragments_optional, List.append_nil,
    fragments_token, fragments_child, fragments_child, fragments_child, Block.fragments_part,
    declaration.parameters.fragment_assembly]
  rfl

theorem ClassMember.toMember_fragment (member : ClassMember) :
    member.assembly.node.fragment.toMember = member.erased := by
  cases member with
  | variableDeclaration declaration =>
    exact congrArg Fragment.toMember declaration.fragment_assembly
  | assignmentStatement assignment =>
    exact congrArg Fragment.toMember assignment.fragment_assembly
  | error => rfl

/-- What was abandoned is not among the members that are read back. -/
theorem ClassBody.fragments_items (items : List ClassItem) :
    (fragments (items.map ClassItem.part)).map (fun child => child.2.toMember) =
      (items.filterMap ClassItem.member?).map ClassMember.erased := by
  induction items with
  | nil => rfl
  | cons item rest ih =>
    cases item with
    | member content =>
      rw [List.map_cons, ClassItem.part, fragments_child, List.map_cons, ih,
        content.toMember_fragment]
      rfl
    | abandoned => exact ih

theorem ClassBody.fragment_assembly (body : ClassBody) :
    body.assembly.node.fragment = .classBody body.erased := by
  cases body with
  | missing => rfl
  | written opening items closing =>
    have read : (items.filterMap ClassItem.member?).map (fun member => .member member.erased) =
        (fragments (items.map ClassItem.part)).map fun child =>
          ClassItem.member child.2.toMember := by
      simpa [Function.comp_def] using
        congrArg (List.map ClassItem.member) (fragments_items items).symm
    rw [erased, read, assembly, Assembly.fragment_ofParts, fragments_enclosed]
    rfl

theorem ClassDeclaration.fragment_assembly (declaration : ClassDeclaration) :
    declaration.assembly.node.fragment = .declaration (.classDeclaration declaration.erased) := by
  rw [assembly, Assembly.fragment_ofParts, fragments_append, fragments_optional, List.append_nil,
    fragments_token, fragments_child, fragments_child, declaration.body.fragment_assembly]
  rfl

/-- A declaration is read back from its node, erased. -/
theorem Declaration.toDeclaration_fragment (declaration : Declaration) :
    declaration.toNode.fragment.toDeclaration = declaration.erased := by
  cases declaration with
  | instanceDeclaration declaration =>
    exact congrArg Fragment.toDeclaration declaration.fragment_assembly
  | prototypeDeclaration declaration =>
    exact congrArg Fragment.toDeclaration declaration.fragment_assembly
  | functionDeclaration declaration =>
    exact congrArg Fragment.toDeclaration declaration.fragment_assembly
  | variableDeclaration declaration =>
    exact congrArg Fragment.toDeclaration declaration.fragment_assembly
  | classDeclaration declaration =>
    exact congrArg Fragment.toDeclaration declaration.fragment_assembly
  | error => rfl

/-- A program is read back from its root. -/
theorem Program.fragment_toNode (program : Program) :
    program.toNode.fragment = .program program.erased := by
  have children : ∀ declarations : List Declaration,
      (Node.forestFragments (declarations.map
        fun declaration => (Field.declarations, declaration.toNode))).map
          (fun child => child.2.toDeclaration) = declarations.map Declaration.erased := by
    intro declarations
    induction declarations with
    | nil => rfl
    | cons declaration rest ih =>
      rw [List.map_cons, Node.forestFragments, List.map_cons, ih,
        declaration.toDeclaration_fragment, List.map_cons]
  exact congrArg Fragment.program (children program.declarations)

end ScriptTree
