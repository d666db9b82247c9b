import ScriptTree.Proofs.Node.Braces

/-!
# What a semicolon ends

A semicolon ends a statement or a variable, or it comes after a body, where it
ends nothing.  It is owned by the node in both cases, and the kind of the node
tells which one it is.
-/

namespace ScriptTree

/-- Whether a semicolon that a node of some kind owns ends it. -/
def NodeKind.isTerminated : NodeKind → Bool
  | .assignmentStatement | .expressionStatement | .returnStatement | .variableDeclaration => true
  | _ => false

namespace Node

/-- Whether a node is a `return` without a value. -/
def isBareReturn (node : Node) : Bool :=
  node.kind = .returnStatement && node.children.isEmpty

/-- If a node owns the semicolon at some place, that ends it, and ends a bare `return` only where
this is `granted`. -/
def EndsAt (place : Range) (granted : Prop) (node : Node) : Prop :=
  ⟨.semicolon, place⟩ ∈ node.tokens →
    node.kind.isTerminated = true ∧ (node.isBareReturn = true → granted)

/-- A token that a tree holds once has one owner. -/
theorem eq_of_mem_tokens {root first second : Node} (once : root.held.Nodup)
    (member : first ∈ root.descendants) (memberSecond : second ∈ root.descendants)
    {placed : PlacedToken} (owned : placed ∈ first.tokens) (ownedSecond : placed ∈ second.tokens) :
    first = second := by
  by_contra different
  have : Std.Symm (Function.onFun List.Disjoint ownTokens) := ⟨fun _ _ apart => apart.symm⟩
  have apart := (List.nodup_flatMap.mp once).2.forall member memberSecond different
  exact apart (List.mem_append_left _ owned) (List.mem_append_left _ ownedSecond)

variable {place : Range} {granted : Prop} {content : Content} {parts : List Part}

/-- The token of an optional part is one of the tokens of the node. -/
theorem mem_tokens_of_optional {token : Token}
    (among : Part.optional token (some place) ⊆ parts) :
    ⟨token, place⟩ ∈ (Assembly.ofParts content parts).node.tokens :=
  List.mem_filterMap.mpr ⟨.token ⟨token, place⟩, among List.mem_cons_self, rfl⟩

/-- A semicolon after a body is another one. -/
theorem EndsAt.ne_of_optional (ends : (Assembly.ofParts content parts).node.EndsAt place granted)
    (loose : content.kind.isTerminated = false) {semicolon : Option Range}
    (among : Part.optional .semicolon semicolon ⊆ parts) : semicolon ≠ some place := by
  rintro rfl
  have terminated : content.kind.isTerminated = true := (ends (mem_tokens_of_optional among)).1
  rw [loose] at terminated
  cases terminated

end Node

/-! ## Semicolons after bodies -/

variable {place : Range} {granted : Prop}

namespace Branch

/-- The semicolon after the block of a branch. -/
theorem optional_subset_parts (branch : Branch) (field : Field) :
    Part.optional .semicolon branch.semicolon ⊆ branch.parts field := by
  cases branch with
  | missing => exact List.nil_subset _
  | written statement semicolon => simp [Branch.semicolon, parts]

end Branch

namespace Statement

variable {keyword : Range} {condition : Expression} {consequence : Branch}

/-- The semicolon after the consequence of an `if` is another one. -/
theorem semicolon_consequence_ne {otherwise : Option (Range × Branch)}
    (ends : (ifStatement keyword condition consequence otherwise).toNode.EndsAt place granted) :
    consequence.semicolon ≠ some place := by
  rw [toNode, assembly] at ends
  refine ends.ne_of_optional rfl fun part member => ?_
  have among := consequence.optional_subset_parts .consequence member
  simp [among]

/-- The semicolon after the alternative of an `if` is another one. -/
theorem semicolon_alternative_ne {elseKeyword : Range} {alternative : Branch}
    (ends : (ifStatement keyword condition consequence
      (some (elseKeyword, alternative))).toNode.EndsAt place granted) :
    alternative.semicolon ≠ some place := by
  rw [toNode, assembly] at ends
  refine ends.ne_of_optional rfl fun part member => ?_
  have among := alternative.optional_subset_parts .alternative member
  simp [Branch.alternativeParts, among]

/-- The semicolon of a bare `return` may end it. -/
theorem granted_of_bareReturn {terminator : Option Range}
    (ends : (returnStatement ⟨keyword, none, terminator⟩).toNode.EndsAt place granted)
    (same : terminator = some place) : granted := by
  subst same
  rw [toNode, assembly, ReturnStatement.assembly] at ends
  exact (ends (Node.mem_tokens_of_optional (by simp))).2 rfl

end Statement

/-- The semicolon after an instance is another one. -/
theorem InstanceDeclaration.semicolon_ne {declaration : InstanceDeclaration}
    (ends : declaration.assembly.node.EndsAt place granted) :
    declaration.semicolon ≠ some place :=
  ends.ne_of_optional rfl (List.subset_append_right _ _)

theorem PrototypeDeclaration.semicolon_ne {declaration : PrototypeDeclaration}
    (ends : declaration.assembly.node.EndsAt place granted) :
    declaration.semicolon ≠ some place :=
  ends.ne_of_optional rfl fun part member => by simp [member]

theorem FunctionDeclaration.semicolon_ne {declaration : FunctionDeclaration}
    (ends : declaration.assembly.node.EndsAt place granted) :
    declaration.semicolon ≠ some place :=
  ends.ne_of_optional rfl (List.subset_append_right _ _)

theorem ClassDeclaration.semicolon_ne {declaration : ClassDeclaration}
    (ends : declaration.assembly.node.EndsAt place granted) :
    declaration.semicolon ≠ some place :=
  ends.ne_of_optional rfl (List.subset_append_right _ _)

end ScriptTree
