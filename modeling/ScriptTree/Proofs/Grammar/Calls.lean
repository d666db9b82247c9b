import Mathlib.Logic.Relation
import ScriptTree.Proofs.Grammar.Modes

/-!
# Which production calls which

A production that is begun in some state calls other productions, each in a state
of its own.  There is one rule for each place in the grammar where this happens,
and nothing is read inside of a derivation but what these rules call.  A loop of
the grammar is a production that calls itself for what follows.

A production that takes lexemes without asking for the mode is called in the
normal mode only.  So whatever is begun while the parse recovers takes nothing.
-/

namespace ScriptTree.Grammar

/-- A production, begun in a state. -/
structure Call where
  production : Production
  state : State

namespace Call

/-- How many lexemes a call may still take. -/
def left (call : Call) : Nat :=
  call.state.rest.length

/-- The first call makes the second. -/
inductive Calls : Call → Call → Prop
  /- Expressions -/
  | operationOperand {power state} : Calls ⟨.operation power, state⟩ ⟨.operand, state⟩
  | operationOperators {power state first between}
      (readsOperand : Reads .operand state first between) :
      Calls ⟨.operation power, state⟩ ⟨.operators power, between⟩
  | operatorsOperand {power state operator sign afterSign}
      (taken : Takes state (operatorFrom? power) operator sign afterSign) :
      Calls ⟨.operators power, state⟩ ⟨.operation (operator.power + 1), afterSign⟩
  | operatorsNext {power state operator sign afterSign right afterRight}
      (taken : Takes state (operatorFrom? power) operator sign afterSign)
      (readsOperand : Reads (.operation (operator.power + 1)) afterSign right afterRight) :
      Calls ⟨.operators power, state⟩ ⟨.operators power, afterRight⟩
  | operandSigned {state operator sign afterSign}
      (taken : Takes state UnaryOperator.ofToken? operator sign afterSign) :
      Calls ⟨.operand, state⟩ ⟨.operand, afterSign⟩
  | operandPrimary {state} (declined : Declines state UnaryOperator.ofToken?) :
      Calls ⟨.operand, state⟩ ⟨.primary, state⟩
  | operandAccesses {state head between} (declined : Declines state UnaryOperator.ofToken?)
      (readsPrimary : Reads .primary state head between) :
      Calls ⟨.operand, state⟩ ⟨.accesses, between⟩
  | primaryInner {state opening afterOpening}
      (taken : Takes state (State.only .lParen) () opening afterOpening) :
      Calls ⟨.primary, state⟩ ⟨.operation lowestPower, afterOpening⟩
  | primaryCloses {state opening afterOpening inner afterInner}
      (taken : Takes state (State.only .lParen) () opening afterOpening)
      (readsInner : Reads (.operation lowestPower) afterOpening inner afterInner) :
      Calls ⟨.primary, state⟩ ⟨.expected .rParen, afterInner⟩
  | accessesInner {state opening afterOpening}
      (taken : Takes state Access.ofToken? .index opening afterOpening) :
      Calls ⟨.accesses, state⟩ ⟨.operation lowestPower, afterOpening⟩
  | accessesCloses {state opening afterOpening inner afterInner}
      (taken : Takes state Access.ofToken? .index opening afterOpening)
      (readsInner : Reads (.operation lowestPower) afterOpening inner afterInner) :
      Calls ⟨.accesses, state⟩ ⟨.expected .rBracket, afterInner⟩
  | accessesIndex {state opening afterOpening inner afterInner closing afterClosing}
      (taken : Takes state Access.ofToken? .index opening afterOpening)
      (readsInner : Reads (.operation lowestPower) afterOpening inner afterInner)
      (closes : Reads (.expected .rBracket) afterInner closing afterClosing) :
      Calls ⟨.accesses, state⟩ ⟨.accesses, afterClosing⟩
  | accessesName {state dot afterDot}
      (taken : Takes state Access.ofToken? .member dot afterDot) :
      Calls ⟨.accesses, state⟩ ⟨.directName, afterDot⟩
  | accessesMember {state dot afterDot name afterName}
      (taken : Takes state Access.ofToken? .member dot afterDot)
      (readsName : Reads .directName afterDot name afterName) :
      Calls ⟨.accesses, state⟩ ⟨.accesses, afterName⟩
  | accessesEmptyCall {state opening afterOpening closing afterClosing}
      (taken : Takes state Access.ofToken? .arguments opening afterOpening)
      (closes : Takes afterOpening (State.only .rParen) () closing afterClosing) :
      Calls ⟨.accesses, state⟩ ⟨.accesses, afterClosing⟩
  | accessesArguments {state opening afterOpening}
      (taken : Takes state Access.ofToken? .arguments opening afterOpening)
      (filled : afterOpening.isAt .rParen = false) :
      Calls ⟨.accesses, state⟩ ⟨.arguments, afterOpening⟩
  | accessesCall {state opening afterOpening value afterClosing}
      (taken : Takes state Access.ofToken? .arguments opening afterOpening)
      (filled : afterOpening.isAt .rParen = false)
      (readsArguments : Reads .arguments afterOpening value afterClosing) :
      Calls ⟨.accesses, state⟩ ⟨.accesses, afterClosing⟩
  | argumentsItem {state} : Calls ⟨.arguments, state⟩ ⟨.operation lowestPower, state⟩
  | argumentsCloses {state argument afterArgument}
      (readsArgument : Reads (.operation lowestPower) state argument afterArgument)
      (declined : Declines afterArgument (State.only .comma)) :
      Calls ⟨.arguments, state⟩ ⟨.expected .rParen, afterArgument⟩
  | argumentsNext {state argument afterArgument comma afterComma}
      (readsArgument : Reads (.operation lowestPower) state argument afterArgument)
      (taken : Takes afterArgument (State.only .comma) () comma afterComma)
      (goesOn : afterComma.isAt .rParen = false) :
      Calls ⟨.arguments, state⟩ ⟨.arguments, afterComma⟩
  | elementsItem {isFirst state} (goesOn : (!isFirst && state.isAt .rBrace) = false) :
      Calls ⟨.elements isFirst, state⟩ ⟨.operation lowestPower, state⟩
  | elementsNext {isFirst state element afterElement comma afterComma}
      (goesOn : (!isFirst && state.isAt .rBrace) = false)
      (readsElement : Reads (.operation lowestPower) state element afterElement)
      (present : element.isMissing = false)
      (taken : Takes afterElement (State.only .comma) () comma afterComma) :
      Calls ⟨.elements isFirst, state⟩ ⟨.elements false, afterComma⟩
  | initialElements {state opening afterOpening}
      (taken : Takes state (State.only .lBrace) () opening afterOpening) :
      Calls ⟨.initialValue, state⟩ ⟨.elements true, afterOpening⟩
  | initialCloses {state opening afterOpening value afterItems}
      (taken : Takes state (State.only .lBrace) () opening afterOpening)
      (readsElements : Reads (.elements true) afterOpening value afterItems) :
      Calls ⟨.initialValue, state⟩ ⟨.expected .rBrace, afterItems⟩
  | initialExpression {state} (declined : Declines state (State.only .lBrace)) :
      Calls ⟨.initialValue, state⟩ ⟨.operation lowestPower, state⟩
  /- Variables and assignments -/
  | arraySize {state opening afterOpening}
      (taken : Takes state (State.only .lBracket) () opening afterOpening) :
      Calls ⟨.arraySize, state⟩ ⟨.operation lowestPower, afterOpening⟩
  | arraySizeCloses {state opening afterOpening size afterSize}
      (taken : Takes state (State.only .lBracket) () opening afterOpening)
      (readsSize : Reads (.operation lowestPower) afterOpening size afterSize) :
      Calls ⟨.arraySize, state⟩ ⟨.expected .rBracket, afterSize⟩
  | initializer {state sign afterSign}
      (taken : Takes state (State.only .assign) () sign afterSign) :
      Calls ⟨.initializer, state⟩ ⟨.initialValue, afterSign⟩
  | variableType {state kind keyword afterKeyword}
      (taken : Takes state VariableKind.ofToken? kind keyword afterKeyword) :
      Calls ⟨.variableDeclaration, state⟩ ⟨.typeReference, afterKeyword⟩
  | variableName {state kind keyword afterKeyword type afterType}
      (taken : Takes state VariableKind.ofToken? kind keyword afterKeyword)
      (readsType : Reads .typeReference afterKeyword type afterType) :
      Calls ⟨.variableDeclaration, state⟩ ⟨.identifier, afterType⟩
  | variableSize {state kind keyword afterKeyword type afterType name afterName}
      (taken : Takes state VariableKind.ofToken? kind keyword afterKeyword)
      (readsType : Reads .typeReference afterKeyword type afterType)
      (readsName : Reads .identifier afterType name afterName) :
      Calls ⟨.variableDeclaration, state⟩ ⟨.arraySize, afterName⟩
  | variableInitializer {state kind keyword afterKeyword type afterType name afterName size
      afterSize}
      (taken : Takes state VariableKind.ofToken? kind keyword afterKeyword)
      (readsType : Reads .typeReference afterKeyword type afterType)
      (readsName : Reads .identifier afterType name afterName)
      (readsSize : Reads .arraySize afterName size afterSize) :
      Calls ⟨.variableDeclaration, state⟩ ⟨.initializer, afterSize⟩
  | variableEnds {state kind keyword afterKeyword type afterType name afterName size
      afterSize initializer afterInitializer}
      (taken : Takes state VariableKind.ofToken? kind keyword afterKeyword)
      (readsType : Reads .typeReference afterKeyword type afterType)
      (readsName : Reads .identifier afterType name afterName)
      (readsSize : Reads .arraySize afterName size afterSize)
      (readsInitializer : Reads .initializer afterSize initializer afterInitializer) :
      Calls ⟨.variableDeclaration, state⟩ ⟨.terminator, afterInitializer⟩
  | assignmentRight {state operator sign afterSign}
      (taken : Takes state AssignmentOperator.ofToken? operator sign afterSign) :
      Calls ⟨.assignmentTail, state⟩ ⟨.operation lowestPower, afterSign⟩
  | assignmentEnds {state operator sign afterSign right afterRight}
      (taken : Takes state AssignmentOperator.ofToken? operator sign afterSign)
      (readsRight : Reads (.operation lowestPower) afterSign right afterRight) :
      Calls ⟨.assignmentTail, state⟩ ⟨.terminator, afterRight⟩
  | assignmentUnsigned {state} (declined : Declines state AssignmentOperator.ofToken?) :
      Calls ⟨.assignmentTail, state⟩ ⟨.terminator, state.fail (.tokens [.assign])⟩
  /- Statements -/
  | conditionBare {state} (noOpening : state.isAt .lParen = false)
      (opens : state.peek.any startsExpression = true) :
      Calls ⟨.condition, state⟩ ⟨.operation lowestPower, state.reportMissing .lParen⟩
  | conditionPlain {state}
      (plain : (!state.isAt .lParen && state.peek.any startsExpression) = false) :
      Calls ⟨.condition, state⟩ ⟨.operation lowestPower, state⟩
  | blockItems {state opening afterOpening}
      (taken : Takes state (State.only .lBrace) () opening afterOpening) :
      Calls ⟨.block, state⟩ ⟨.statements, afterOpening⟩
  | blockCloses {state opening afterOpening items afterItems}
      (taken : Takes state (State.only .lBrace) () opening afterOpening)
      (readsItems : Reads .statements afterOpening items afterItems) :
      Calls ⟨.block, state⟩ ⟨.closingBrace, afterItems⟩
  | statementsItem {state} (goesOn : endsList state = false) :
      Calls ⟨.statements, state⟩ ⟨.statement, state⟩
  | statementsNext {state item afterItem skipped resumed} (goesOn : endsList state = false)
      (readsItem : Reads .statement state item afterItem)
      (resumes : Resumes .statement state afterItem skipped resumed) :
      Calls ⟨.statements, state⟩ ⟨.statements, resumed⟩
  | statementCondition {state keyword afterKeyword}
      (taken : Takes state (State.only .kwIf) () keyword afterKeyword) :
      Calls ⟨.statement, state⟩ ⟨.condition, afterKeyword⟩
  | statementConsequence {state keyword afterKeyword condition afterCondition}
      (taken : Takes state (State.only .kwIf) () keyword afterKeyword)
      (readsCondition : Reads .condition afterKeyword condition afterCondition) :
      Calls ⟨.statement, state⟩ ⟨.branch, afterCondition⟩
  | statementAlternative {state keyword afterKeyword condition afterCondition consequence
      afterConsequence elseKeyword afterElse}
      (taken : Takes state (State.only .kwIf) () keyword afterKeyword)
      (readsCondition : Reads .condition afterKeyword condition afterCondition)
      (readsConsequence : Reads .branch afterCondition consequence afterConsequence)
      (otherwise : Takes afterConsequence (State.only .kwElse) () elseKeyword afterElse) :
      Calls ⟨.statement, state⟩ ⟨.branch, afterElse⟩
  | statementReturn {state keyword afterKeyword}
      (taken : Takes state (State.only .kwReturn) () keyword afterKeyword)
      (bare : afterKeyword.peek.any startsExpression = false) :
      Calls ⟨.statement, state⟩ ⟨.terminator, afterKeyword⟩
  | statementValue {state keyword afterKeyword}
      (taken : Takes state (State.only .kwReturn) () keyword afterKeyword)
      (opens : afterKeyword.peek.any startsExpression = true) :
      Calls ⟨.statement, state⟩ ⟨.operation lowestPower, afterKeyword⟩
  | statementValueEnds {state keyword afterKeyword value afterValue}
      (taken : Takes state (State.only .kwReturn) () keyword afterKeyword)
      (opens : afterKeyword.peek.any startsExpression = true)
      (readsValue : Reads (.operation lowestPower) afterKeyword value afterValue) :
      Calls ⟨.statement, state⟩ ⟨.terminator, afterValue⟩
  | statementVariable {state kind keyword afterKeyword}
      (taken : Takes state VariableKind.ofToken? kind keyword afterKeyword) :
      Calls ⟨.statement, state⟩ ⟨.variableDeclaration, state⟩
  | statementBlock {state} (opens : state.isAt .lBrace = true) :
      Calls ⟨.statement, state⟩ ⟨.block, state⟩
  | statementExpression {state} (opens : state.peek.any startsExpression = true) :
      Calls ⟨.statement, state⟩ ⟨.operation lowestPower, state⟩
  | statementEnds {state expression afterExpression}
      (opens : state.peek.any startsExpression = true)
      (readsExpression : Reads (.operation lowestPower) state expression afterExpression)
      (unsigned : (!afterExpression.recovering &&
        afterExpression.peek.any Token.isAssignmentOperator) = false) :
      Calls ⟨.statement, state⟩ ⟨.terminator, afterExpression⟩
  | statementAssignment {state target afterTarget}
      (opens : state.peek.any startsExpression = true)
      (readsTarget : Reads (.operation lowestPower) state target afterTarget)
      (signed : (!afterTarget.recovering &&
        afterTarget.peek.any Token.isAssignmentOperator) = true) :
      Calls ⟨.statement, state⟩ ⟨.assignmentTail, afterTarget.checkTarget target⟩
  | branchBlock {state} (normal : state.recovering = false)
      (opens : state.isAt .lBrace = true) : Calls ⟨.branch, state⟩ ⟨.block, state⟩
  | branchSemicolon {state block afterBlock} (normal : state.recovering = false)
      (opens : state.isAt .lBrace = true) (readsBlock : Reads .block state block afterBlock) :
      Calls ⟨.branch, state⟩ ⟨.optional .semicolon, afterBlock⟩
  | branchStatement {state} (normal : state.recovering = false)
      (plain : state.isAt .lBrace = false) : Calls ⟨.branch, state⟩ ⟨.statement, state⟩
  /- Declarations -/
  | parentName {state opening afterOpening}
      (taken : Takes state (State.only .lParen) () opening afterOpening) :
      Calls ⟨.parentClause, state⟩ ⟨.directName, afterOpening⟩
  | parentCloses {state opening afterOpening name afterName}
      (taken : Takes state (State.only .lParen) () opening afterOpening)
      (readsName : Reads .directName afterOpening name afterName) :
      Calls ⟨.parentClause, state⟩ ⟨.expected .rParen, afterName⟩
  | instanceBlock {hasParent state} (normal : state.recovering = false)
      (opens : state.isAt .lBrace = true) :
      Calls ⟨.instanceBody hasParent, state⟩ ⟨.block, state⟩
  | instanceSemicolon {hasParent state body afterBody} (normal : state.recovering = false)
      (opens : state.isAt .lBrace = true) (readsBody : Reads .block state body afterBody) :
      Calls ⟨.instanceBody hasParent, state⟩ ⟨.optional .semicolon, afterBody⟩
  | bodyBlock {state} (normal : state.recovering = false) :
      Calls ⟨.declarationBody, state⟩ ⟨.block, state⟩
  | bodySemicolon {state body afterBody} (normal : state.recovering = false)
      (readsBody : Reads .block state body afterBody) (written : body.isMissing = false) :
      Calls ⟨.declarationBody, state⟩ ⟨.optional .semicolon, afterBody⟩
  | parameterQualifier {state} : Calls ⟨.parameter, state⟩ ⟨.qualifier, state⟩
  | parameterType {state qualifier afterQualifier}
      (readsQualifier : Reads .qualifier state qualifier afterQualifier) :
      Calls ⟨.parameter, state⟩ ⟨.typeReference, afterQualifier⟩
  | parameterName {state qualifier afterQualifier type afterType}
      (readsQualifier : Reads .qualifier state qualifier afterQualifier)
      (readsType : Reads .typeReference afterQualifier type afterType) :
      Calls ⟨.parameter, state⟩ ⟨.identifier, afterType⟩
  | parametersItem {state} : Calls ⟨.parameters, state⟩ ⟨.parameter, state⟩
  | parametersCloses {state item afterItem} (readsItem : Reads .parameter state item afterItem)
      (declined : Declines afterItem (State.only .comma)) :
      Calls ⟨.parameters, state⟩ ⟨.expected .rParen, afterItem⟩
  | parametersNext {state item afterItem comma afterComma}
      (readsItem : Reads .parameter state item afterItem)
      (taken : Takes afterItem (State.only .comma) () comma afterComma)
      (goesOn : afterComma.isAt .rParen = false) :
      Calls ⟨.parameters, state⟩ ⟨.parameters, afterComma⟩
  | parameterListItems {state opening afterOpening}
      (taken : Takes state (State.only .lParen) () opening afterOpening)
      (filled : afterOpening.isAt .rParen = false) :
      Calls ⟨.parameterList, state⟩ ⟨.parameters, afterOpening⟩
  | classVariable {state kind keyword afterKeyword}
      (taken : Takes state VariableKind.ofToken? kind keyword afterKeyword) :
      Calls ⟨.classItem, state⟩ ⟨.variableDeclaration, state⟩
  | classTarget {state} (opens : state.isAt .identifier = true) :
      Calls ⟨.classItem, state⟩ ⟨.operation lowestPower, state⟩
  | classAssignment {state target afterTarget} (opens : state.isAt .identifier = true)
      (readsTarget : Reads (.operation lowestPower) state target afterTarget)
      (normal : afterTarget.recovering = false) :
      Calls ⟨.classItem, state⟩ ⟨.assignmentTail, afterTarget.checkTarget target⟩
  | classItemsItem {state} (goesOn : endsList state = false) :
      Calls ⟨.classItems, state⟩ ⟨.classItem, state⟩
  | classItemsNext {state item afterItem skipped resumed} (goesOn : endsList state = false)
      (readsItem : Reads .classItem state item afterItem)
      (resumes : Resumes .statement state afterItem skipped resumed) :
      Calls ⟨.classItems, state⟩ ⟨.classItems, resumed⟩
  | classBodyItems {state opening afterOpening}
      (taken : Takes state (State.only .lBrace) () opening afterOpening) :
      Calls ⟨.classBody, state⟩ ⟨.classItems, afterOpening⟩
  | classBodyCloses {state opening afterOpening items afterItems}
      (taken : Takes state (State.only .lBrace) () opening afterOpening)
      (readsItems : Reads .classItems afterOpening items afterItems) :
      Calls ⟨.classBody, state⟩ ⟨.closingBrace, afterItems⟩
  | instanceName {state keyword afterKeyword}
      (taken : Takes state DeclarationStart.ofToken? .instanceKeyword keyword afterKeyword) :
      Calls ⟨.declaration, state⟩ ⟨.directName, afterKeyword⟩
  | instanceParent {state keyword afterKeyword name afterName}
      (taken : Takes state DeclarationStart.ofToken? .instanceKeyword keyword afterKeyword)
      (readsName : Reads .directName afterKeyword name afterName) :
      Calls ⟨.declaration, state⟩ ⟨.parentClause, afterName⟩
  | instanceBody {state keyword afterKeyword name afterName parent afterParent}
      (taken : Takes state DeclarationStart.ofToken? .instanceKeyword keyword afterKeyword)
      (readsName : Reads .directName afterKeyword name afterName)
      (readsParent : Reads .parentClause afterName parent afterParent) :
      Calls ⟨.declaration, state⟩ ⟨.instanceBody parent.isSome, afterParent⟩
  | prototypeName {state keyword afterKeyword}
      (taken : Takes state DeclarationStart.ofToken? .prototypeKeyword keyword afterKeyword) :
      Calls ⟨.declaration, state⟩ ⟨.directName, afterKeyword⟩
  | prototypeOpens {state keyword afterKeyword name afterName}
      (taken : Takes state DeclarationStart.ofToken? .prototypeKeyword keyword afterKeyword)
      (readsName : Reads .directName afterKeyword name afterName) :
      Calls ⟨.declaration, state⟩ ⟨.expected .lParen, afterName⟩
  | prototypeParent {state keyword afterKeyword name afterName opening afterOpening}
      (taken : Takes state DeclarationStart.ofToken? .prototypeKeyword keyword afterKeyword)
      (readsName : Reads .directName afterKeyword name afterName)
      (opens : Reads (.expected .lParen) afterName opening afterOpening) :
      Calls ⟨.declaration, state⟩ ⟨.identifier, afterOpening⟩
  | prototypeCloses {state keyword afterKeyword name afterName opening afterOpening parent
      afterParent}
      (taken : Takes state DeclarationStart.ofToken? .prototypeKeyword keyword afterKeyword)
      (readsName : Reads .directName afterKeyword name afterName)
      (opens : Reads (.expected .lParen) afterName opening afterOpening)
      (readsParent : Reads .identifier afterOpening parent afterParent) :
      Calls ⟨.declaration, state⟩ ⟨.expected .rParen, afterParent⟩
  | prototypeBody {state keyword afterKeyword name afterName opening afterOpening parent
      afterParent closing afterClosing}
      (taken : Takes state DeclarationStart.ofToken? .prototypeKeyword keyword afterKeyword)
      (readsName : Reads .directName afterKeyword name afterName)
      (opens : Reads (.expected .lParen) afterName opening afterOpening)
      (readsParent : Reads .identifier afterOpening parent afterParent)
      (closes : Reads (.expected .rParen) afterParent closing afterClosing) :
      Calls ⟨.declaration, state⟩ ⟨.declarationBody, afterClosing⟩
  | functionType {state keyword afterKeyword}
      (taken : Takes state DeclarationStart.ofToken? .functionKeyword keyword afterKeyword) :
      Calls ⟨.declaration, state⟩ ⟨.typeReference, afterKeyword⟩
  | functionName {state keyword afterKeyword type afterType}
      (taken : Takes state DeclarationStart.ofToken? .functionKeyword keyword afterKeyword)
      (readsType : Reads .typeReference afterKeyword type afterType) :
      Calls ⟨.declaration, state⟩ ⟨.identifier, afterType⟩
  | functionParameters {state keyword afterKeyword type afterType name afterName}
      (taken : Takes state DeclarationStart.ofToken? .functionKeyword keyword afterKeyword)
      (readsType : Reads .typeReference afterKeyword type afterType)
      (readsName : Reads .identifier afterType name afterName) :
      Calls ⟨.declaration, state⟩ ⟨.parameterList, afterName⟩
  | functionBody {state keyword afterKeyword type afterType name afterName parameters
      afterParameters}
      (taken : Takes state DeclarationStart.ofToken? .functionKeyword keyword afterKeyword)
      (readsType : Reads .typeReference afterKeyword type afterType)
      (readsName : Reads .identifier afterType name afterName)
      (readsParameters : Reads .parameterList afterName parameters afterParameters) :
      Calls ⟨.declaration, state⟩ ⟨.declarationBody, afterParameters⟩
  | className {state keyword afterKeyword}
      (taken : Takes state DeclarationStart.ofToken? .classKeyword keyword afterKeyword) :
      Calls ⟨.declaration, state⟩ ⟨.directName, afterKeyword⟩
  | classBody {state keyword afterKeyword name afterName}
      (taken : Takes state DeclarationStart.ofToken? .classKeyword keyword afterKeyword)
      (readsName : Reads .directName afterKeyword name afterName)
      (normal : afterName.recovering = false) :
      Calls ⟨.declaration, state⟩ ⟨.classBody, afterName⟩
  | classSemicolon {state keyword afterKeyword name afterName body afterBody}
      (taken : Takes state DeclarationStart.ofToken? .classKeyword keyword afterKeyword)
      (readsName : Reads .directName afterKeyword name afterName)
      (normal : afterName.recovering = false)
      (readsBody : Reads .classBody afterName body afterBody)
      (written : body.isMissing = false) :
      Calls ⟨.declaration, state⟩ ⟨.optional .semicolon, afterBody⟩
  | declarationVariable {state kind keyword afterKeyword}
      (taken : Takes state VariableKind.ofToken? kind keyword afterKeyword) :
      Calls ⟨.declaration, state⟩ ⟨.variableDeclaration, state⟩
  | declarationsItem {state} (goesOn : state.rest ≠ []) :
      Calls ⟨.declarations, state⟩ ⟨.declaration, state⟩
  | declarationsNext {state item afterItem skipped resumed} (goesOn : state.rest ≠ [])
      (readsItem : Reads .declaration state item afterItem)
      (resumes : Resumes .topLevel state afterItem skipped resumed) :
      Calls ⟨.declarations, state⟩ ⟨.declarations, resumed⟩

/-- A variable declaration is read only where its keyword stands. -/
def Begins (call : Call) : Prop :=
  call.production = .variableDeclaration →
    ∃ kind keyword afterKeyword,
      Takes call.state VariableKind.ofToken? kind keyword afterKeyword

/-- What is called has to begin as it must, whoever calls it. -/
theorem Calls.begins {first second : Call} (calls : Calls first second) : second.Begins := by
  intro same
  cases calls with
  | statementVariable taken | classVariable taken | declarationVariable taken =>
    exact ⟨_, _, _, taken⟩
  | _ => cases same

end Call

/-! ## The mode that calls are made in -/

/-- A production that does not ask for the mode is called in the normal mode only. -/
theorem Call.Calls.suits {first second : Call} (calls : Calls first second)
    (suited : first.production.SuitsMode first.state) :
    second.production.SuitsMode second.state := by
  cases calls with
  -- These ask for the mode by themselves.
  | operationOperators | operatorsNext | operandAccesses | primaryCloses | accessesCloses
  | accessesIndex | accessesMember | accessesEmptyCall | accessesCall | argumentsCloses
  | initialCloses | arraySizeCloses | variableName | variableSize | variableInitializer
  | variableEnds | assignmentEnds | assignmentUnsigned | statementConsequence
  | statementAlternative | statementReturn | statementValueEnds | statementEnds | parentCloses
  | parameterName | parametersCloses | instanceParent | instanceBody | prototypeOpens
  | prototypeParent | prototypeCloses | prototypeBody | functionName | functionParameters
  | functionBody => exact nofun
  -- A lexeme was just taken.
  | operatorsOperand taken | operandSigned taken | primaryInner taken | accessesInner taken
  | accessesName taken | accessesArguments taken | argumentsNext _ taken
  | elementsNext _ _ _ taken | initialElements taken | arraySize taken | initializer taken
  | variableType taken | assignmentRight taken | blockItems taken | statementCondition taken
  | statementValue taken | parentName taken | parametersNext _ taken | parameterListItems taken
  | classBodyItems taken | instanceName taken | prototypeName taken | functionType taken
  | className taken => exact fun _ => taken.normal_next
  | statementVariable taken | classVariable taken | declarationVariable taken =>
    exact fun _ => taken.normal
  -- The caller is in the normal mode.
  | operationOperand | operandPrimary | argumentsItem | elementsItem | initialExpression
  | conditionBare | conditionPlain | statementsItem | statementBlock | statementExpression
  | parameterQualifier | parametersItem | classTarget | classItemsItem | declarationsItem =>
    exact fun _ => suited rfl
  | branchBlock normal | branchStatement normal | instanceBlock normal | bodyBlock normal
  | classBody _ _ normal => exact fun _ => normal
  | parameterType readsQualifier =>
    exact fun _ => readsQualifier.recovering_qualifier.trans (suited rfl)
  -- The parse is back on track.
  | statementsNext _ _ resumes | classItemsNext _ _ resumes | declarationsNext _ _ resumes =>
    exact fun _ => resumes.normal
  | blockCloses taken readsItems | classBodyCloses taken readsItems =>
    exact fun _ => readsItems.normal_of_isList rfl taken.normal_next
  | branchSemicolon normal opens readsBlock | instanceSemicolon normal opens readsBlock =>
    exact fun _ => readsBlock.normal_of_isAt id normal opens
  | bodySemicolon normal readsBody written =>
    exact fun _ => readsBody.normal_of_block normal written
  | classSemicolon _ _ normal readsBody written =>
    exact fun _ => readsBody.normal_of_classBody normal written
  | statementAssignment _ _ signed =>
    intro _
    rw [State.recovering_checkTarget]
    simp only [Bool.and_eq_true, Bool.not_eq_true'] at signed
    exact signed.1
  | classAssignment _ _ normal => exact fun _ => (State.recovering_checkTarget ..).trans normal

/-! ## Reading while the parse recovers -/

/-- What takes a token guarded is not recovering. -/
theorem Taking.not_recovering {α : Type} {state next : State} {recognize : Token → Option α}
    {value : α} {lexeme : Lexeme} (taken : Takes state recognize value lexeme next) :
    ¬state.recovering = true := by
  simp [taken.normal]

theorem Misses.not_recovering {α : Type} {state : State} {recognize : Token → Option α}
    (missed : Misses state recognize) : ¬state.recovering = true := by
  simp [missed.normal]

/-- While the parse recovers, a failure neither takes nor reports anything. -/
theorem State.idle_fail {state : State} (recovering : state.recovering = true)
    (expected : Expectation) :
    (state.fail expected).rest = state.rest ∧ (state.fail expected).recovering = true := by
  simp [State.recovering_fail, recovering]

/-- A production that is no list takes nothing while the parse recovers, and leaves it so. -/
theorem Derivation.idle {production : Production} {state next : State} {value : production.Value}
    (reads : Reads production state value next) (single : production.isList = false)
    (recovering : state.recovering = true) :
    next.rest = state.rest ∧ next.recovering = true := by
  induction reads with
  -- Nothing is taken while the parse recovers.
  | optionalTaken taken | expectedTaken taken | closingBraceTaken taken | terminatorTaken taken
  | identifierTaken taken | nameTaken taken | typeTaken taken | operatorsNext taken
  | operandSigned taken | primaryParenthesized taken | primaryLiteral taken | accessesIndex taken
  | accessesMember taken | accessesEmptyCall taken | accessesCall taken | initialElements taken
  | arraySizeWritten taken | initializerWritten taken | variableDeclaration taken
  | assignmentSigned taken | blockWritten taken | statementIf taken | statementIfElse taken
  | statementReturn taken | statementReturnValue taken | parentWritten taken
  | qualifierWritten taken | parameterListEmpty taken | parameterListFilled taken
  | classBodyWritten taken | declarationInstance taken | declarationPrototype taken
  | declarationFunction taken | declarationNamelessClass taken
  | declarationUnfinishedClass taken | declarationClass taken =>
    exact absurd recovering taken.not_recovering
  | expectedMissing missed | terminatorGranted missed | terminatorMissing missed
  | identifierMissing missed | parameterListMissing missed =>
    exact absurd recovering missed.not_recovering
  | branchBlock normal | branchStatement normal | branchMissing normal | instanceBlock normal
  | instanceBare normal | bodyMissing normal | bodyWritten normal =>
    rw [normal] at recovering
    cases recovering
  | @instanceForward hasParent _ _ _ taken =>
    refine absurd ?_ taken.not_recovering
    cases hasParent <;> exact recovering
  -- What is missing is passed over.
  | optionalAbsent | expectedIdle | terminatorIdle | identifierIdle | operatorsEnd | accessesEnd
  | elementsEnd | arraySizeAbsent | initializerAbsent | branchRecovering | parentAbsent
  | instanceIdle | bodyIdle | qualifierAbsent | parameterListIdle => exact ⟨rfl, recovering⟩
  | closingBraceMissing | nameMissing | typeMissing | primaryMissing | blockMissing
  | statementAbsent | classBodyMissing => exact State.idle_fail recovering _
  | statementRejected | classRejected | declarationRejected => exact ⟨State.rest_reject .., rfl⟩
  -- What is read next is begun while the parse still recovers.
  | operation _ _ first rest | operandPlain _ _ _ first rest | argumentsLast _ _ _ first rest =>
    obtain ⟨same, still⟩ := first rfl recovering
    exact (rest rfl still).imp_left (·.trans same)
  | argumentsTrailing _ taken _ first | argumentsNext _ taken _ _ first
  | parametersTrailing _ taken _ first | parametersNext _ taken _ _ first =>
    exact absurd (first rfl recovering).2 taken.not_recovering
  | elementsNext _ _ _ taken _ first =>
    exact absurd (first rfl recovering).2 taken.not_recovering
  | elementsMissing _ _ _ element | elementsLast _ _ _ _ element => exact element rfl recovering
  | initialExpression _ _ inner | conditionPlain _ _ inner | conditionBare _ _ _ inner
  | statementVariable _ inner | statementBlock _ _ inner | classVariable _ inner
  | declarationVariable _ inner | classAbandoned _ _ _ inner => exact inner rfl recovering
  | assignmentUnsigned _ _ ends =>
    obtain ⟨same, still⟩ := State.idle_fail recovering (.tokens [.assign])
    exact (ends rfl still).imp_left (·.trans same)
  | statementExpression _ _ _ _ first ends =>
    obtain ⟨same, still⟩ := first rfl recovering
    exact (ends rfl still).imp_left (·.trans same)
  | statementAssignment _ _ signed _ first =>
    simp [(first rfl recovering).2] at signed
  | classAssignment _ _ normal _ first =>
    rw [(first rfl recovering).2] at normal
    cases normal
  | parametersLast _ _ _ first rest =>
    obtain ⟨same, still⟩ := first rfl recovering
    exact (rest rfl still).imp_left (·.trans same)
  | parameter _ _ _ qualifier type name =>
    obtain ⟨sameQualifier, stillQualifier⟩ := qualifier rfl recovering
    obtain ⟨sameType, stillType⟩ := type rfl stillQualifier
    exact (name rfl stillType).imp_left (·.trans (sameType.trans sameQualifier))
  | statementsEnd | statementsNext | classItemsEnd | classItemsNext | declarationsEnd
  | declarationsNext => cases single

/-- A production that is begun while the parse recovers asks for the mode, and takes nothing. -/
theorem Derivation.idle_of_suits {production : Production} {state next : State}
    {value : production.Value} (reads : Reads production state value next)
    (suited : production.SuitsMode state) (recovering : state.recovering = true) :
    production.asksForMode = true ∧ next.rest = state.rest := by
  have asks : production.asksForMode = true := by
    rw [← Bool.not_eq_false]
    intro silent
    exact absurd ((suited silent).symm.trans recovering) nofun
  have single : production.isList = false := by
    cases production <;> first | rfl | cases asks
  exact ⟨asks, (reads.idle single recovering).1⟩

end ScriptTree.Grammar
