import ScriptTree.Proofs.Grammar.Gathering
import ScriptTree.Proofs.Node.Parts

/-!
# The conditional that an `else` belongs to

A conditional that is read without an alternative is one after which no `else`
can be taken: none stands there, or the parse recovers.  The same is then true
of every statement that ends in such a conditional.  So where an `else` is
taken, the statement in front of it does not end in a conditional that still
waits for one.
-/

namespace ScriptTree

/-- A conditional without an alternative, or one whose alternative ends in such a conditional. -/
inductive Node.EndsOpen : Node → Prop
  | bare {node : Node} (conditional : node.kind = .ifStatement)
      (absent : node.child? .alternative = none) : node.EndsOpen
  | through {node alternative : Node} (conditional : node.kind = .ifStatement)
      (written : node.child? .alternative = some alternative) (inner : alternative.EndsOpen) :
      node.EndsOpen

/-- If a node is a conditional with an alternative, its consequence does not end in a conditional
that the alternative could belong to as well. -/
def Node.OwnsAlternative (node : Node) : Prop :=
  node.kind = .ifStatement → (node.child? .alternative).isSome = true →
    ∃ consequence, node.child? .consequence = some consequence ∧ ¬consequence.EndsOpen

/-- What is no `if` has no alternative to own. -/
theorem Node.ownsAlternative_of_kind {node : Node} (other : node.kind ≠ .ifStatement) :
    node.OwnsAlternative :=
  fun conditional => absurd conditional other

/-! ## The branches of a conditional -/

namespace Statement

variable (keyword : Range) (condition : Expression) (consequence : Branch)
  (otherwise : Option (Range × Branch))

/-- The consequence of an `if` is the statement of its branch. -/
theorem child?_consequence_ifStatement :
    (ifStatement keyword condition consequence otherwise).toNode.child? .consequence =
      some consequence.statement.toNode := by
  rcases consequence with _ | ⟨_, _ | _⟩ <;> rfl

/-- The alternative of an `if` is the statement behind the `else`. -/
theorem child?_alternative_ifStatement :
    (ifStatement keyword condition consequence otherwise).toNode.child? .alternative =
      otherwise.map fun written => written.2.statement.toNode := by
  rcases consequence with _ | ⟨_, _ | _⟩ <;> rcases otherwise with _ | ⟨_, _ | ⟨_, _ | _⟩⟩ <;> rfl

end Statement

/-- A branch ends open if its statement does. -/
theorem Branch.endsOpen_statement (branch : Branch) :
    branch.statement.endsOpen = branch.endsOpen := by
  cases branch <;> rfl

/-- The node of a statement ends in an open conditional only if the statement does. -/
theorem Statement.endsOpen_of_toNode {statement : Statement} (opens : statement.toNode.EndsOpen) :
    statement.endsOpen = true := by
  generalize tree : statement.toNode = node at opens
  induction opens generalizing statement with
  | bare conditional absent =>
    subst tree
    cases statement with
    | ifStatement keyword condition consequence otherwise =>
      rw [child?_alternative_ifStatement, Option.map_eq_none_iff] at absent
      rw [absent]
      rfl
    | block block => cases block <;> cases conditional
    | _ => cases conditional
  | through conditional written inner ih =>
    subst tree
    cases statement with
    | ifStatement keyword condition consequence otherwise =>
      rw [child?_alternative_ifStatement, Option.map_eq_some_iff] at written
      rcases written with ⟨⟨place, alternative⟩, rfl, rfl⟩
      rw [endsOpen, ← alternative.endsOpen_statement]
      exact ih rfl
    | block block => cases block <;> cases conditional
    | _ => cases conditional

/-! ## Reading conditionals -/

namespace Grammar

/-- Whether what a production yields ends in a conditional that could still have an alternative. -/
def Production.endsOpen : (production : Production) → production.Value → Bool
  | .statement, value => value.any Statement.endsOpen
  | .branch, value => value.endsOpen
  | _, _ => false

/-- After a statement that ends in an open conditional no `else` can be taken. -/
theorem Derivation.declines_else {production : Production} {state next : State}
    {value : production.Value} (reads : Reads production state value next)
    (opens : production.endsOpen value = true) : Declines next (State.only .kwElse) := by
  induction reads with
  | statementIf _ _ _ noElse => exact noElse
  | statementIfElse _ _ _ _ _ _ _ alternative =>
    exact alternative (by simpa [Production.endsOpen] using opens)
  | branchStatement _ _ _ statement => exact statement opens
  | branchBlock =>
    simp [Production.endsOpen] at opens
  | _ => cases opens

/-- Where an `else` was taken, the consequence does not end in an open conditional. -/
theorem Derivation.endsOpen_consequence {state next : State} {keyword elseKeyword : Range}
    {condition : Expression} {consequence alternative : Branch}
    (reads : Reads .statement state
      (some (.ifStatement keyword condition consequence (some (elseKeyword, alternative)))) next) :
    consequence.endsOpen = false := by
  cases reads with
  | statementIfElse _ _ readsConsequence otherwise _ =>
    rw [← Bool.not_eq_true]
    intro opens
    have refused := readsConsequence.declines_else opens otherwise.normal _
      (by rw [otherwise.front]; rfl)
    rw [otherwise.recognized] at refused
    cases refused

/-- A conditional that was read owns its alternative. -/
theorem Derivation.ownsAlternative {state next : State} {keyword : Range} {condition : Expression}
    {consequence : Branch} {otherwise : Option (Range × Branch)}
    (reads : Reads .statement state
      (some (.ifStatement keyword condition consequence otherwise)) next) :
    (Statement.ifStatement keyword condition consequence otherwise).toNode.OwnsAlternative := by
  intro _ written
  rw [Statement.child?_alternative_ifStatement, Option.isSome_map] at written
  rcases Option.isSome_iff_exists.mp written with ⟨⟨elseKeyword, alternative⟩, rfl⟩
  refine ⟨_, Statement.child?_consequence_ifStatement .., fun opens => ?_⟩
  have closed := reads.endsOpen_consequence
  rw [← consequence.endsOpen_statement, Statement.endsOpen_of_toNode opens] at closed
  cases closed

/-- Every conditional in what a production adds to the tree owns its alternative. -/
theorem collects_ownsAlternative :
    Collects fun _ _ nodes => Node.Every Node.OwnsAlternative nodes where
  refl := fun _ => Node.every_nil
  append := fun early late => Node.every_append.mpr ⟨early, late⟩
  take := fun _ => Node.every_nil
  fail := fun _ _ => Node.every_nil
  reportMissing := fun _ _ => Node.every_nil
  reject := fun _ _ => Node.every_nil
  resume := fun _ => Node.every_nil
  name := fun _ =>
    Node.every_singleton.mpr ⟨Node.ownsAlternative_of_kind (by rintro ⟨⟩), Node.every_nil⟩
  nameMissing := fun _ =>
    Node.every_singleton.mpr ⟨Node.ownsAlternative_of_kind (by rintro ⟨⟩), Node.every_nil⟩
  nameIdle := fun _ _ =>
    Node.every_singleton.mpr ⟨Node.ownsAlternative_of_kind (by rintro ⟨⟩), Node.every_nil⟩
  type := fun _ =>
    Node.every_singleton.mpr ⟨Node.ownsAlternative_of_kind (by rintro ⟨⟩), Node.every_nil⟩
  operation := by
    intro _ _ _ value _
    refine value.every_of_isWithinExpression fun node within => Node.ownsAlternative_of_kind ?_
    intro conditional
    rw [conditional] at within
    cases within
  dropped := fun _ => Node.every_nil
  frame := by
    intro _ _ node plain below
    refine Node.every_singleton.mpr ⟨Node.ownsAlternative_of_kind ?_, below⟩
    intro conditional
    rw [conditional] at plain
    cases plain
  assignment := by
    intro _ _ _ target tail left right
    refine Node.every_singleton.mpr ⟨Node.ownsAlternative_of_kind (by rintro ⟨⟩), ?_⟩
    rw [AssignmentStatement.children_toNode]
    exact Node.every_cons.mpr ⟨left, right⟩
  conditional := fun reads below => Node.every_singleton.mpr ⟨reads.ownsAlternative, below⟩

end Grammar

/-- In the tree of every source, an alternative belongs to the nearest conditional in front of it
that is still open: following the consequence of a conditional with an alternative through
further alternatives never leads to a conditional without one. -/
theorem ownsAlternative_parse (source : String) (options : ParseOptions) :
    ∀ node ∈ (parse source options).root.descendants, node.OwnsAlternative := by
  rcases exists_reads_parse source options with ⟨final, reads, -⟩
  exact ParseResult.forall_mem_descendants (Node.ownsAlternative_of_kind (by rintro ⟨⟩))
    (reads.collects Grammar.collects_ownsAlternative rfl)

/-- Two nested conditionals with two alternatives, in a body that is not closed. -/
theorem ownsAlternative_parse_nested :
    ∃ node ∈ (parse "func void F() \x7b if a if b c(); else d(); else e();").root.descendants,
      node.kind = .ifStatement ∧ (node.child? .alternative).isSome = true ∧
        (node.child? .consequence).any (·.kind = .ifStatement) = true ∧ node.OwnsAlternative := by
  have written :
      (parse "func void F() \x7b if a if b c(); else d(); else e();").root.descendants.any
        (fun node => node.kind = .ifStatement && (node.child? .alternative).isSome &&
          (node.child? .consequence).any (·.kind = .ifStatement)) = true := by
    decide +kernel
  simp only [List.any_eq_true, Bool.and_eq_true, decide_eq_true_eq] at written
  rcases written with ⟨node, member, ⟨conditional, alternative⟩, nested⟩
  exact ⟨node, member, conditional, alternative, nested, ownsAlternative_parse _ {} node member⟩

end ScriptTree
