import ScriptTree.Proofs.Acceptance
import ScriptTree.Proofs.Grammar.Gathering
import ScriptTree.Proofs.Node.Parts

/-!
# Targets of assignments

A target is checked when the parse has read it, before it knows how the rest of
the assignment goes on, and the report about it is never silenced.  Whatever
comes after it, the assignment stands in the tree exactly once.  So the reports
about targets are those of the assignments in the tree.
-/

namespace ScriptTree

/-- The left side of an assignment, unless it may be assigned to or was reported already. -/
def Node.invalidTarget? (node : Node) : Option Node :=
  if node.kind = .assignmentStatement then
    (node.child? .left).filter fun left => !(left.kind.isAssignable || left.isError)
  else
    none

/-- What is reported about the left side of an assignment. -/
def Diagnostic.ofTarget (left : Node) : Diagnostic where
  range := left.range
  problem := .invalidAssignmentTarget

/-- Whether a diagnostic is about the left side of an assignment. -/
def Diagnostic.isAboutTarget (diagnostic : Diagnostic) : Bool :=
  diagnostic.problem.code = .invalidAssignmentTarget

namespace Node

/-- What is to be reported about the targets among some nodes and below them. -/
def targetReports (nodes : List Node) : List Diagnostic :=
  ((nodes.flatMap descendants).filterMap invalidTarget?).map Diagnostic.ofTarget

@[simp]
theorem targetReports_nil : targetReports [] = [] :=
  rfl

@[simp]
theorem targetReports_append (first second : List Node) :
    targetReports (first ++ second) = targetReports first ++ targetReports second := by
  simp [targetReports]

/-- The reports of a node are its own one and those of its children. -/
theorem targetReports_singleton (node : Node) :
    targetReports [node] =
      node.invalidTarget?.toList.map Diagnostic.ofTarget ++ targetReports node.children := by
  rw [targetReports, List.flatMap_singleton, descendants_eq, List.filterMap_cons]
  cases node.invalidTarget? <;> simp [targetReports]

/-- Only assignments have targets. -/
theorem invalidTarget?_of_kind {node : Node} (other : node.kind ≠ .assignmentStatement) :
    node.invalidTarget? = none :=
  if_neg other

/-- A node of another kind adds nothing to what is reported below it. -/
theorem targetReports_of_kind {node : Node} (other : node.kind ≠ .assignmentStatement) :
    targetReports [node] = targetReports node.children := by
  rw [targetReports_singleton, invalidTarget?_of_kind other]
  rfl

end Node

/-- No assignment stands within an expression. -/
theorem Expression.targetReports_toNode (expression : Expression) :
    Node.targetReports [expression.toNode] = [] := by
  have none : Node.Every (fun node => node.invalidTarget? = none) [expression.toNode] := by
    refine expression.every_of_isWithinExpression fun node within => ?_
    refine Node.invalidTarget?_of_kind fun assignment => ?_
    rw [assignment] at within
    cases within
  rw [Node.targetReports, List.filterMap_eq_nil_iff.mpr none]
  rfl

/-- The node of an expression is an error if the expression is. -/
theorem Expression.isError_toNode (expression : Expression) :
    expression.toNode.isError = expression.isError := by
  cases expression <;> rfl

/-- The left side of an assignment is its target. -/
theorem AssignmentStatement.child?_left (assignment : AssignmentStatement) :
    assignment.toNode.child? .left = some assignment.left.toNode :=
  rfl

/-- The target of an assignment is reported where the grammar does not accept it. -/
theorem AssignmentStatement.targetReports_toNode (assignment : AssignmentStatement) :
    Node.targetReports [assignment.toNode] =
      if Grammar.isAcceptableTarget assignment.left then
        []
      else
        [.ofTarget assignment.left.toNode] := by
  have children : Node.targetReports assignment.toNode.children = [] := by
    rw [children_toNode, ← List.singleton_append, Node.targetReports_append,
      Expression.targetReports_toNode, Expression.targetReports_toNode]
    rfl
  have target : assignment.toNode.invalidTarget? =
      if Grammar.isAcceptableTarget assignment.left then none else some assignment.left.toNode := by
    rw [Node.invalidTarget?, if_pos (by rfl), child?_left, Option.filter_some,
      Expression.isAssignable_kind_toNode, Expression.isError_toNode, ← Grammar.isAcceptableTarget]
    cases Grammar.isAcceptableTarget assignment.left <;> rfl
  rw [Node.targetReports_singleton, children, target, List.append_nil]
  split <;> rfl

namespace Grammar

/-- What was reported about targets so far. -/
def State.targetReports (state : State) : List Diagnostic :=
  state.diagnostics.filter Diagnostic.isAboutTarget

variable {state next : State}

section

variable (state)

@[simp]
theorem State.targetReports_report (range : Range) (expected : Expectation) :
    (state.report range expected).targetReports = state.targetReports := by
  dsimp only [State.targetReports]
  rw [State.diagnostics_report]
  split
  · rfl
  · rw [List.filter_append]
    exact List.append_nil _

@[simp]
theorem State.targetReports_fail (expected : Expectation) :
    (state.fail expected).targetReports = state.targetReports := by
  unfold State.fail
  split
  · exact State.targetReports_report ..
  · exact State.targetReports_report state state.here expected

@[simp]
theorem State.targetReports_reportMissing (token : Token) :
    (state.reportMissing token).targetReports = state.targetReports :=
  State.targetReports_report ..

@[simp]
theorem State.targetReports_reject (production : String) :
    (state.reject production).targetReports = state.targetReports :=
  State.targetReports_report state state.here (.production production)

/-- Checking a target reports it unless it is acceptable. -/
theorem State.targetReports_checkTarget (target : Expression) :
    (state.checkTarget target).targetReports =
      state.targetReports ++
        if isAcceptableTarget target then [] else [.ofTarget target.toNode] := by
  unfold State.checkTarget
  split
  · rw [List.append_nil]
  · exact List.filter_append ..

end

/-- Taking a token reports no target. -/
theorem Taking.targetReports {α : Type} {recognize : Token → Option α} {value : α}
    {lexeme : Lexeme} (taken : Takes state recognize value lexeme next) :
    next.targetReports = state.targetReports := by
  rw [taken.moved]
  rfl

/-- A skip reports no target. -/
theorem Resumes.targetReports {level : SyncLevel} {start : State} {skipped : Option ErrorNode}
    (resumes : Resumes level start state skipped next) :
    next.targetReports = state.targetReports := by
  cases resumes <;> rfl

/-- Within a phrase no target is checked. -/
theorem Derivation.targetReports {production : Production} {value : production.Value}
    (reads : Reads production state value next) (phrase : production.isPhrase = true) :
    next.targetReports = state.targetReports :=
  reads.keeps_of_isPhrase (motive := fun later => later.targetReports = state.targetReports) phrase
    { take := fun taken same => taken.targetReports.trans same
      fail := fun expected same => (State.targetReports_fail _ expected).trans same
      reportMissing := fun token same => (State.targetReports_reportMissing _ token).trans same }
    rfl

/-- What a production reports about targets is what is to be reported in the nodes that it adds to
the tree. -/
theorem collects_targetReports :
    Collects fun state next nodes =>
      next.targetReports = state.targetReports ++ Node.targetReports nodes where
  refl := fun _ => (List.append_nil _).symm
  append := by
    intro state between next early late first second
    rw [second, first, List.append_assoc, Node.targetReports_append]
  take := fun taken => by simp [taken.targetReports]
  fail := by simp
  reportMissing := by simp
  reject := by simp
  resume := fun resumes => by simp [resumes.targetReports]
  name := fun taken => by
    rw [taken.targetReports, Node.targetReports_of_kind (by rintro ⟨⟩)]
    exact (List.append_nil _).symm
  nameMissing := fun _ => by
    rw [State.targetReports_fail, Node.targetReports_of_kind (by rintro ⟨⟩)]
    exact (List.append_nil _).symm
  nameIdle := fun _ _ => by
    rw [Node.targetReports_of_kind (by rintro ⟨⟩)]
    exact (List.append_nil _).symm
  type := fun reads => by
    rw [reads.targetReports rfl, Node.targetReports_of_kind (by rintro ⟨⟩)]
    exact (List.append_nil _).symm
  operation := fun reads => by
    rw [reads.targetReports rfl, Expression.targetReports_toNode, List.append_nil]
  dropped := fun reads => by simp [reads.targetReports rfl]
  frame := by
    intro state next node plain below
    rw [below, Node.targetReports_of_kind]
    intro assignment
    rw [assignment] at plain
    cases plain
  assignment := by
    intro state between next target tail left right
    rw [right, State.targetReports_checkTarget, left, Expression.targetReports_toNode,
      Expression.targetReports_toNode, AssignmentStatement.targetReports_toNode, List.append_nil,
      List.append_nil]
    rfl
  conditional := by
    intro state next keyword condition consequence otherwise _ below
    rw [below, Node.targetReports_of_kind (by rintro ⟨⟩)]

end Grammar

/-- Nothing that is found in the lexemes alone is about a target. -/
theorem Lexing.filter_isAboutTarget (source : String) :
    (ofSource source).diagnostics.filter Diagnostic.isAboutTarget = [] := by
  rw [List.filter_eq_nil_iff]
  intro diagnostic member aboutTarget
  have lexical := isLexical_of_mem member
  rw [of_decide_eq_true aboutTarget] at lexical
  cases lexical

/-- Whatever the source, the diagnostics about targets are those of the assignments in the tree
whose left side is neither a name, a member or an array element nor an error, one for each of them
and each with the range of that left side. -/
theorem invalidTargets_parse (source : String) :
    ((parse source).diagnostics.filter Diagnostic.isAboutTarget).Perm
      (((parse source).root.descendants.filterMap Node.invalidTarget?).map
        Diagnostic.ofTarget) := by
  rcases exists_reads_parse source {} with ⟨final, reads, -⟩
  have reported := reads.collects Grammar.collects_targetReports rfl
  have kept := (diagnostics_parse_perm reads).filter Diagnostic.isAboutTarget
  have tree : Node.targetReports [(parse source).root] = final.targetReports := by
    rw [Node.targetReports_of_kind (by rintro ⟨⟩), ParseResult.children_root]
    exact reported.symm
  rw [List.filter_append, Lexing.filter_isAboutTarget, List.nil_append,
    ← Grammar.State.targetReports, ← tree, Node.targetReports, List.flatMap_singleton] at kept
  exact kept

end ScriptTree
