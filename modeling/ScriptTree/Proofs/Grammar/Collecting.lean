import ScriptTree.Proofs.Grammar.Reports

/-!
# Relations between a parse and its tree

The nodes of a program are names, types, the nodes of expressions, and the nodes
that frame these.  A relation between two states and the nodes that were added
to the tree from the one to the other holds of every production once it
composes, holds of the acts of a parse, and holds of a frame where it holds of
the children of that frame.  Assignments and conditionals are asked for apart:
between the two sides of an assignment the target is checked, and which `else`
belongs to which `if` is decided where a conditional is read.
-/

namespace ScriptTree

/-- The kinds that stand around names, types and expressions, and the errors between them. -/
def NodeKind.isFrame : NodeKind → Bool
  | .program | .instanceDeclaration | .prototypeDeclaration | .functionDeclaration
  | .parameterList | .parameter | .variableDeclaration | .classDeclaration | .classBody | .block
  | .assignmentStatement | .expressionStatement | .ifStatement | .returnStatement
  | .argumentList | .arrayInitializer | .error => true
  | _ => false

theorem NodeKind.isLeaf_eq_false_of_isFrame {kind : NodeKind} (frame : kind.isFrame = true) :
    kind.isLeaf = false := by
  cases kind <;> cases frame <;> rfl

/-- The frames that no statement needs a second look at. -/
def NodeKind.isPlainFrame (kind : NodeKind) : Bool :=
  kind.isFrame && kind ≠ .assignmentStatement && kind ≠ .ifStatement

theorem NodeKind.isFrame_of_isPlainFrame {kind : NodeKind} (plain : kind.isPlainFrame = true) :
    kind.isFrame = true := by
  cases kind <;> cases plain <;> rfl

namespace Grammar

/-- A relation between two states and the nodes added between them that is kept by the acts of a
parse, known of names, types and whole expressions, and passed on by the nodes around them. -/
structure Collects (relates : State → State → List Node → Prop) : Prop where
  refl : ∀ state : State, relates state state []
  append : ∀ {state between next : State} {early late : List Node},
    relates state between early → relates between next late → relates state next (early ++ late)
  take : ∀ {α : Type} {state next : State} {recognize : Token → Option α} {value : α}
    {lexeme : Lexeme}, Takes state recognize value lexeme next → relates state next []
  fail : ∀ (state : State) (expected : Expectation), relates state (state.fail expected) []
  reportMissing : ∀ (state : State) (token : Token),
    relates state (state.reportMissing token) []
  reject : ∀ (state : State) (production : String), relates state (state.reject production) []
  resume : ∀ {level : SyncLevel} {start state next : State} {skipped : Option ErrorNode},
    Resumes level start state skipped next → relates state next []
  name : ∀ {state next : State} {lexeme : Lexeme},
    Takes state (State.only .identifier) () lexeme next →
      relates state next [(⟨lexeme.text, lexeme.range⟩ : Identifier).assembly.node]
  nameMissing : ∀ state : State,
    relates state (state.fail (.tokens [.identifier]))
      [(Identifier.missing state.anchor).assembly.node]
  /-- A name that is not sought since the parse recovers. -/
  nameIdle : ∀ state : State, state.recovering = true →
    relates state state [(Identifier.missing state.anchor).assembly.node]
  type : ∀ {state next : State} {value : TypeReference},
    Reads .typeReference state value next → relates state next [value.assembly.node]
  operation : ∀ {power : Nat} {state next : State} {value : Expression},
    Reads (.operation power) state value next → relates state next [value.toNode]
  /-- An expression that no node is made of. -/
  dropped : ∀ {power : Nat} {state next : State} {value : Expression},
    Reads (.operation power) state value next → relates state next []
  frame : ∀ {state next : State} (node : Node), node.kind.isPlainFrame = true →
    relates state next node.children → relates state next [node]
  assignment : ∀ {state between next : State} {target : Expression} {tail : AssignmentTail},
    relates state between [target.toNode] →
      relates (between.checkTarget target) next [tail.right.toNode] →
        relates state next [(tail.onto target).toNode]
  conditional : ∀ {state next : State} {keyword : Range} {condition : Expression}
    {consequence : Branch} {otherwise : Option (Range × Branch)},
    Reads .statement state (some (.ifStatement keyword condition consequence otherwise)) next →
      relates state next
          (Statement.ifStatement keyword condition consequence otherwise).toNode.children →
        relates state next [(Statement.ifStatement keyword condition consequence otherwise).toNode]

namespace Collects

variable {relates : State → State → List Node → Prop} (collects : Collects relates)
  {state between next : State} {nodes : List Node}

include collects

/-- What holds of a part of a parse holds of more of it, if nothing is read in the rest. -/
theorem andThen (first : relates state between nodes) (second : relates between next []) :
    relates state next nodes := by
  simpa using collects.append first second

/-- What holds of a part of a parse holds of what begins before it, if nothing is read there. -/
theorem after (first : relates state between []) (second : relates between next nodes) :
    relates state next nodes :=
  collects.append first second

/-- A plain frame around some nodes is collected as they are. -/
theorem wrap (related : relates state next nodes) {node : Node}
    (children : node.children = nodes) (plain : node.kind.isPlainFrame = true) :
    relates state next [node] :=
  collects.frame node plain (children ▸ related)

/-- What is skipped between two elements of a list is one error node at most. -/
theorem skip {level : SyncLevel} {start : State} {skipped : Option ErrorNode}
    (resumes : Resumes level start state skipped next) :
    relates state next (skipped.toList.map fun node => node.assembly.node) := by
  cases skipped with
  | none => exact collects.resume resumes
  | some node => exact collects.wrap (collects.resume resumes) rfl rfl

end Collects

/-- Whether a production reads a part of an expression only. -/
def Production.isChain : Production → Bool
  | .operators _ | .operand | .primary | .accesses | .arguments => true
  | _ => false

/-- Such a relation holds of every production and the nodes that it yields. -/
theorem Derivation.collects {relates : State → State → List Node → Prop}
    (collects : Collects relates)
    {production : Production} {state next : State} {value : production.Value}
    (reads : Reads production state value next) (whole : production.isChain = false) :
    relates state next (production.trees value) := by
  induction reads with
  | optionalTaken taken | expectedTaken taken | closingBraceTaken taken
  | terminatorTaken taken => exact collects.take taken
  | optionalAbsent | expectedIdle | terminatorIdle | elementsEnd | arraySizeAbsent
  | initializerAbsent | statementsEnd | parentAbsent | instanceIdle | qualifierAbsent
  | classItemsEnd | declarationsEnd => exact collects.refl _
  | expectedMissing | closingBraceMissing | terminatorMissing | statementAbsent
  | instanceBare => exact collects.fail ..
  | terminatorGranted => exact collects.reportMissing ..
  | identifierTaken taken | nameTaken taken => exact collects.name taken
  | identifierMissing | nameMissing => exact collects.nameMissing _
  | identifierIdle recovering => exact collects.nameIdle _ recovering
  | typeTaken taken => exact collects.type (.typeTaken taken)
  | typeMissing declined => exact collects.type (.typeMissing declined)
  | operation readsOperand readsOperators =>
    exact collects.operation (.operation readsOperand readsOperators)
  | elementsMissing _ readsElement => exact collects.dropped readsElement
  | elementsLast _ _ _ _ element => exact element rfl
  | elementsNext _ _ _ taken _ element more =>
    exact collects.append (collects.andThen (element rfl) (collects.take taken)) (more rfl)
  | initialElements taken _ _ items closes =>
    refine collects.wrap ?_ (Expression.children_arrayInitializer ..) rfl
    exact collects.andThen (collects.after (collects.take taken) (items rfl)) (closes rfl)
  | initialExpression _ _ value => exact value rfl
  | arraySizeWritten taken _ _ size closes =>
    exact collects.andThen (collects.after (collects.take taken) (size rfl)) (closes rfl)
  | initializerWritten taken _ value => exact collects.after (collects.take taken) (value rfl)
  | variableDeclaration taken _ _ _ _ _ type name size initializer ends =>
    refine collects.wrap ?_ (VariableDeclaration.children_toNode _) rfl
    have header := collects.append (collects.after (collects.take taken) (type rfl)) (name rfl)
    have parts := collects.append (collects.append header (size rfl)) (initializer rfl)
    exact collects.andThen parts (ends rfl)
  | assignmentSigned taken _ _ right ends =>
    exact collects.andThen (collects.after (collects.take taken) (right rfl)) (ends rfl)
  | assignmentUnsigned _ _ ends =>
    exact collects.andThen (collects.wrap (collects.fail ..) rfl rfl) (ends rfl)
  | conditionBare _ _ _ condition =>
    exact collects.after (collects.reportMissing ..) (condition rfl)
  | conditionPlain _ _ condition => exact condition rfl
  | blockMissing | parameterListMissing | classBodyMissing =>
    exact collects.wrap (collects.fail ..) rfl rfl
  | blockWritten taken _ _ items closes =>
    refine collects.wrap ?_ (Block.children_written ..) rfl
    exact collects.andThen (collects.after (collects.take taken) (items rfl)) (closes rfl)
  | statementsNext _ _ resumes _ statement later =>
    change relates _ _ (Production.nodes .statements _)
    rw [Production.nodes_statements]
    exact collects.append (statement rfl) (collects.append (collects.skip resumes) (later rfl))
  | statementIf taken readsCondition readsConsequence noElse condition consequence =>
    refine collects.conditional (.statementIf taken readsCondition readsConsequence noElse) ?_
    have parts := collects.append (collects.after (collects.take taken) (condition rfl))
      (consequence rfl)
    simpa [Statement.children_ifStatement, Production.trees, Production.nodes] using parts
  | statementIfElse taken readsCondition readsConsequence otherwise readsAlternative condition
      consequence alternative =>
    refine collects.conditional
      (.statementIfElse taken readsCondition readsConsequence otherwise readsAlternative) ?_
    have parts := collects.append (collects.after (collects.take taken) (condition rfl))
      (consequence rfl)
    have branches := collects.append (collects.andThen parts (collects.take otherwise))
      (alternative rfl)
    simpa [Statement.children_ifStatement, Production.trees, Production.nodes] using branches
  | statementReturn taken _ _ ends =>
    refine collects.wrap ?_ (Statement.children_returnStatement _) rfl
    exact collects.andThen (collects.take taken) (ends rfl)
  | statementReturnValue taken _ _ _ value ends =>
    refine collects.wrap ?_ (Statement.children_returnStatement _) rfl
    exact collects.andThen (collects.after (collects.take taken) (value rfl)) (ends rfl)
  | statementVariable _ declaration | classVariable _ declaration
  | declarationVariable _ declaration => exact declaration rfl
  | statementBlock _ _ block => exact block rfl
  | statementExpression _ _ _ _ expression ends =>
    refine collects.wrap ?_ (Statement.children_expressionStatement _) rfl
    exact collects.andThen (expression rfl) (ends rfl)
  | statementAssignment _ _ _ _ target tail | classAssignment _ _ _ _ target tail =>
    exact collects.assignment (target rfl) (tail rfl)
  | statementRejected | classRejected | declarationRejected => exact collects.reject ..
  | branchRecovering | bodyIdle | parameterListIdle =>
    exact collects.wrap (collects.refl _) rfl rfl
  | branchBlock _ _ _ _ block semicolon => exact collects.andThen (block rfl) (semicolon rfl)
  | branchStatement _ _ _ statement => exact statement rfl
  | branchMissing _ _ _ statement => exact collects.wrap (statement rfl) rfl rfl
  | parentWritten taken _ _ name closes =>
    exact collects.andThen (collects.after (collects.take taken) (name rfl)) (closes rfl)
  | instanceBlock _ _ _ _ body semicolon => exact collects.andThen (body rfl) (semicolon rfl)
  | @instanceForward hasParent _ _ _ taken =>
    cases hasParent with
    | true => exact collects.take taken
    | false => exact collects.after (collects.reportMissing ..) (collects.take taken)
  | bodyMissing _ _ _ body => exact body rfl
  | bodyWritten _ _ _ _ body semicolon => exact collects.andThen (body rfl) (semicolon rfl)
  | qualifierWritten taken => exact collects.take taken
  | parameter _ _ _ qualifier type name =>
    refine collects.wrap ?_ (Parameter.children_toNode _) rfl
    exact collects.append (collects.after (qualifier rfl) (type rfl)) (name rfl)
  | parametersLast _ _ _ parameter closes => exact collects.andThen (parameter rfl) (closes rfl)
  | parametersTrailing _ taken closes parameter =>
    have listed := collects.andThen (parameter rfl) (collects.take taken)
    exact collects.andThen (collects.andThen listed (collects.fail ..)) (collects.take closes)
  | parametersNext _ taken _ _ parameter more =>
    exact collects.append (collects.andThen (parameter rfl) (collects.take taken)) (more rfl)
  | parameterListEmpty taken closes =>
    refine collects.wrap ?_ (ParameterList.children_written ..) rfl
    exact collects.after (collects.take taken) (collects.take closes)
  | parameterListFilled taken _ _ items =>
    refine collects.wrap ?_ (ParameterList.children_written ..) rfl
    exact collects.after (collects.take taken) (items rfl)
  | classAbandoned _ readsTarget => exact collects.dropped readsTarget
  | classItemsNext _ _ resumes _ item later =>
    change relates _ _ (Production.nodes .classItems _)
    rw [Production.nodes_classItems]
    exact collects.append (item rfl) (collects.append (collects.skip resumes) (later rfl))
  | classBodyWritten taken _ _ items closes =>
    refine collects.wrap ?_ (ClassBody.children_written ..) rfl
    exact collects.andThen (collects.after (collects.take taken) (items rfl)) (closes rfl)
  | declarationInstance taken _ _ _ name parent body =>
    refine collects.wrap ?_ (InstanceDeclaration.children_toNode _) rfl
    have header := collects.append (collects.after (collects.take taken) (name rfl)) (parent rfl)
    exact collects.append header (body rfl)
  | declarationPrototype taken _ _ _ _ _ name opening parent closing body =>
    refine collects.wrap ?_ (PrototypeDeclaration.children_toNode _) rfl
    have named := collects.andThen (collects.after (collects.take taken) (name rfl)) (opening rfl)
    have header := collects.andThen (collects.append named (parent rfl)) (closing rfl)
    exact collects.append header (body rfl)
  | declarationFunction taken _ _ _ _ type name parameters body =>
    refine collects.wrap ?_ (FunctionDeclaration.children_toNode _) rfl
    have named := collects.append (collects.after (collects.take taken) (type rfl)) (name rfl)
    exact collects.append (collects.append named (parameters rfl)) (body rfl)
  | declarationNamelessClass taken _ _ name =>
    refine collects.wrap ?_ (ClassDeclaration.children_toNode _) rfl
    exact collects.append (collects.after (collects.take taken) (name rfl))
      (collects.wrap (collects.refl _) rfl rfl)
  | declarationUnfinishedClass taken _ _ _ _ name body =>
    refine collects.wrap ?_ (ClassDeclaration.children_toNode _) rfl
    exact collects.append (collects.after (collects.take taken) (name rfl)) (body rfl)
  | declarationClass taken _ _ _ _ _ name body semicolon =>
    refine collects.wrap ?_ (ClassDeclaration.children_toNode _) rfl
    have named := collects.append (collects.after (collects.take taken) (name rfl)) (body rfl)
    exact collects.andThen named (semicolon rfl)
  | declarationsNext _ _ resumes _ item later =>
    change relates _ _ (Production.nodes .declarations _)
    rw [Production.nodes_declarations]
    exact collects.append (item rfl) (collects.append (collects.skip resumes) (later rfl))
  | _ => cases whole

end Grammar

end ScriptTree
