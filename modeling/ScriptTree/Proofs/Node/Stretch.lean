import ScriptTree.Proofs.Lexeme.Order
import ScriptTree.Proofs.Syntax.Slots

/-!
# The range of a node

A node runs from the first token of its written form to the last one, if the
tokens follow each other in the source and none of them is empty.  Empty parts
do not stretch a node, and a node without tokens is empty itself.  Something that
was abandoned stretches a node as little, so it has to stand between other parts.
-/

namespace ScriptTree

open PlacedToken Slot

/-! ## Parts and slots -/

/-- A range covers exactly the tokens in some slots, or it is empty like them. -/
def Range.Covers (range : Range) (slots : List Slot) : Prop :=
  InRow (placed slots) →
    (placed slots = [] → range.isEmpty = true) ∧
      ∀ whole, stretch? (placed slots) = some whole → range = whole

/-- An empty range covers slots without tokens. -/
theorem Range.covers_of_isEmpty {range : Range} {slots : List Slot} (empty : range.isEmpty = true)
    (absent : placed slots = []) : range.Covers slots := by
  intro _
  rw [absent]
  exact ⟨fun _ => empty, nofun⟩

/-- The range of the only token in some slots covers them. -/
theorem Range.covers_token {token : Token} {range : Range} {slots : List Slot}
    (present : placed slots = [⟨token, range⟩]) : range.Covers slots := by
  intro _
  rw [present]
  constructor
  · intro absent
    cases absent
  · intro whole same
    cases same
    rfl

/-- Parts stretch a node as the tokens in some slots do. -/
def Part.Spells (parts : List Part) (slots : List Slot) : Prop :=
  InRow (placed slots) → ∀ hull : Hull,
    ((parts.filterMap Part.range?).foldl Hull.add hull).stretch =
      Range.joined hull.stretch (stretch? (placed slots))

namespace Part

variable {parts more : List Part} {slots others : List Slot}

theorem spells_nil : Spells [] [] :=
  fun _ hull => by cases stretch : hull.stretch <;> simp [stretch, stretch?, Range.joined]

/-- Only the tokens in the slots matter. -/
theorem Spells.of_placed_eq (spelled : Spells parts slots) (same : placed others = placed slots) :
    Spells parts others := by
  rw [Spells, same]
  exact spelled

/-- Two groups of parts stretch a node as their slots do, one behind the other. -/
theorem Spells.append (first : Spells parts slots) (second : Spells more others) :
    Spells (parts ++ more) (slots ++ others) := by
  intro row hull
  rw [placed_append] at row ⊢
  rw [List.filterMap_append, List.foldl_append, second row.right, first row.left, stretch?_append]
  cases hull.stretch <;> cases stretch? (placed slots) <;> cases stretch? (placed others) <;> rfl

/-- A part stretches a node as the slots that its range covers. -/
theorem spells_of_covers {part : Part} {range : Range} (placed : part.range? = some range)
    (covers : range.Covers slots) : Spells [part] slots := by
  intro row hull
  rcases covers row with ⟨empty, whole⟩
  simp only [List.filterMap_cons, placed, List.filterMap_nil, List.foldl_cons, List.foldl_nil]
  cases stretched : stretch? (Slot.placed slots) with
  | none =>
    rw [Hull.add, if_pos (empty (stretch?_eq_none_iff.mp stretched))]
    cases hull.stretch <;> rfl
  | some covered =>
    rw [whole covered stretched, Hull.add, row.isEmpty_stretch stretched, if_neg Bool.false_ne_true]
    cases stretch : hull.stretch <;> rfl

theorem spells_token (token : Token) (range : Range) :
    Spells [.token ⟨token, range⟩] (required token (some range)) :=
  spells_of_covers rfl (Range.covers_token rfl)

/-- An optional token stretches a node where it stands. -/
theorem spells_optional (token : Token) (place : Option Range) :
    Spells (optional token place) (required token place) := by
  cases place with
  | none => exact spells_nil.of_placed_eq rfl
  | some range => exact spells_token token range

theorem spells_allowed (token : Token) (place : Option Range) :
    Spells (optional token place) (allowed token place) :=
  (spells_optional token place).of_placed_eq (placed_allowed token place)

theorem spells_comma (isLast : Bool) (place : Option Range) :
    Spells (optional .comma place) (comma isLast place) :=
  (spells_optional .comma place).of_placed_eq (placed_comma isLast place)

theorem spells_child {field : Field} {assembly : Assembly}
    (covers : assembly.node.range.Covers slots) : Spells [.child field assembly] slots :=
  spells_of_covers rfl covers

theorem spells_leaf {field : Field} {content : Content} {range : Range}
    (covers : range.Covers slots) : Spells [.child field (.leaf content range)] slots :=
  spells_of_covers rfl covers

/-- What stands in for a missing child does not stretch a node. -/
theorem spells_standIn (field : Field) (assembly : Assembly) :
    Spells [.standIn field assembly] [] :=
  spells_nil

/-- A gap, which is empty, does not stretch a node. -/
theorem spells_gap {place : Option Range} (empty : ∀ range ∈ place, range.isEmpty = true) :
    Spells (place.map Part.gap).toList [] := by
  cases place with
  | none => exact spells_nil
  | some range => exact spells_of_covers rfl (Range.covers_of_isEmpty (empty range rfl) rfl)

/-- Parts that stretch a node as the tokens in some slots do, if it reaches over something before
them. -/
def Continues (parts : List Part) (slots : List Slot) : Prop :=
  InRow (placed slots) → ∀ (hull : Hull) (whole : Range), hull.stretch = some whole →
    ((parts.filterMap Part.range?).foldl Hull.add hull).stretch =
      Range.joined (some whole) (stretch? (placed slots))

/-- What stretches every node stretches one that reaches over something. -/
theorem Spells.continues (spelled : Spells parts slots) : Continues parts slots := by
  intro row hull whole stretched
  rw [spelled row, stretched]

/-- Two groups of parts continue a node one behind the other. -/
theorem Continues.append (first : Continues parts slots) (second : Continues more others) :
    Continues (parts ++ more) (slots ++ others) := by
  intro row hull whole stretched
  rw [placed_append] at row ⊢
  rw [List.filterMap_append, List.foldl_append, stretch?_append]
  have reached := first row.left hull whole stretched
  cases ended : stretch? (placed slots) with
  | none =>
    rw [ended] at reached
    rw [second row.right _ whole reached]
    rfl
  | some range =>
    rw [ended] at reached
    rw [second row.right _ (whole.through range) reached]
    cases stretch? (placed others) <;> rfl

/-- What is abandoned is reached over by what follows it. -/
theorem continues_abandoned {assembly : Assembly} (target : List Slot)
    (continued : Continues parts slots) (nonempty : placed slots ≠ []) :
    Continues (.abandoned assembly :: parts) (target ++ slots) := by
  intro row hull whole stretched
  rw [placed_append] at row ⊢
  have reached := continued row.right hull whole stretched
  rw [stretch?_append]
  cases ended : stretch? (placed slots) with
  | none => exact absurd (stretch?_eq_none_iff.mp ended) nonempty
  | some range =>
    rw [ended] at reached
    refine Eq.trans reached ?_
    cases stretch? (placed target) <;> rfl

/-- Behind a token, which the node reaches over, parts need only continue it. -/
theorem Continues.after_token (continued : Continues more others) (token : Token)
    (range : Range) :
    Spells (.token ⟨token, range⟩ :: more) (required token (some range) ++ others) := by
  intro row hull
  rw [placed_append] at row ⊢
  have opened := spells_token token range row.left hull
  rw [stretch?_append]
  cases earlier : hull.stretch with
  | none =>
    rw [earlier] at opened
    rw [← List.singleton_append, List.filterMap_append, List.foldl_append,
      continued row.right _ _ opened]
    rfl
  | some whole =>
    rw [earlier] at opened
    rw [← List.singleton_append, List.filterMap_append, List.foldl_append,
      continued row.right _ _ opened]
    cases stretch? (placed others) <;> rfl

end Part

/-- A node assembled from parts covers what the parts stretch over. -/
theorem Assembly.covers_ofParts {content : Content} {parts : List Part} {slots : List Slot}
    (spelled : Part.Spells parts slots) :
    (ofParts content parts).node.range.Covers slots := by
  intro row
  have stretch := spelled row {}
  have range : (ofParts content parts).node.range =
      ((stretch? (placed slots)).or (Hull.ofRanges (parts.filterMap Part.range?)).firstEmpty).getD
        default := by
    rw [← show (Hull.ofRanges (parts.filterMap Part.range?)).stretch = stretch? (placed slots)
      from stretch]
    rfl
  constructor
  · intro absent
    rw [range, absent]
    rw [Hull.ofRanges, Hull.firstEmpty_foldl]
    cases found : (parts.filterMap Part.range?).find? Range.isEmpty with
    | none => rfl
    | some first => exact List.find?_some found
  · intro whole stretched
    rw [range, stretched]
    rfl

/-! ## Parts of the tree -/

open ScriptTree.Part

/-- An error node covers the tokens that it skipped. -/
theorem ErrorNode.covers_ofTokens? {tokens : List PlacedToken} {node : ErrorNode}
    (made : ErrorNode.ofTokens? tokens = some node) : node.range.Covers node.slots := by
  cases tokens with
  | nil => cases made
  | cons first rest =>
    cases made
    intro _
    rw [ErrorNode.placed_slots]
    constructor
    · intro absent
      cases absent
    · intro whole same
      cases same
      rfl

/-- An expression, its comma and the rest of a list stretch a node as their slots do. -/
theorem Expression.spells_cons {field : Field} {expression : Expression} {place : Option Range}
    {rest : List (Expression × Option Range)}
    (covers : expression.range.Covers expression.slots)
    (spelled : Spells (listParts field rest) (listSlots rest)) :
    Spells (listParts field ((expression, place) :: rest))
      (listSlots ((expression, place) :: rest)) := by
  have child : Spells [.child field expression.assembly] expression.slots := spells_child covers
  have first := child.append (spells_comma rest.isEmpty place)
  have whole := first.append spelled
  rw [listParts, listSlots]
  simpa using whole

theorem Statement.listParts_append (first second : List Statement) :
    Statement.listParts (first ++ second) =
      Statement.listParts first ++ Statement.listParts second := by
  induction first with
  | nil => rfl
  | cons statement rest ih =>
    rw [List.cons_append, Statement.listParts, ih]
    rfl

/-- A missing expression covers no slots. -/
theorem Expression.covers_missing {anchor : Range} (empty : anchor.isEmpty = true) :
    (missing anchor).range.Covers (missing anchor).slots :=
  Range.covers_of_isEmpty empty (placed_slots_missing anchor)

/-- A call covers its function and its arguments with their parentheses. -/
theorem Expression.covers_call {function : Expression} {opening : Range}
    {arguments : List (Expression × Option Range)} {closing : Option Range}
    (covers : function.range.Covers function.slots)
    (spelled : Spells (listParts .arguments arguments) (listSlots arguments)) :
    (call function opening arguments closing).range.Covers
      (call function opening arguments closing).slots := by
  have inner : Spells [.child .arguments (.ofParts .argumentList (.token ⟨.lParen, opening⟩ ::
      (listParts .arguments arguments ++ Part.optional .rParen closing)))] _ :=
    spells_child (Assembly.covers_ofParts
      ((spells_token _ _).append (spelled.append (spells_optional _ _))))
  exact Assembly.covers_ofParts (((spells_child covers).append inner).of_placed_eq (by
    simp [slots]))

theorem Parameter.spells_qualifier (qualifier : Option (VariableKind × Range)) :
    Spells (Parameter.qualifierParts qualifier)
      (qualifier.elim [] fun (kind, range) => required kind.token (some range)) := by
  cases qualifier with
  | none => exact spells_nil
  | some qualifier => exact spells_token _ _

/-- A parameter, its comma and the rest of a list stretch a node as their slots do. -/
theorem ParameterList.spells_cons {parameter : Parameter} {place : Option Range}
    {rest : List (Parameter × Option Range)}
    (covers : parameter.assembly.node.range.Covers parameter.slots)
    (spelled : Spells (parts rest) (itemSlots rest)) :
    Spells (parts ((parameter, place) :: rest)) (itemSlots ((parameter, place) :: rest)) := by
  have child : Spells [.child .parameters parameter.assembly] parameter.slots :=
    spells_child covers
  have first := child.append (spells_comma rest.isEmpty place)
  have whole := first.append spelled
  rw [parts, itemSlots]
  simpa using whole

theorem Statement.spells_append {first second : List Statement}
    (early : Spells (listParts first) (listSlots first))
    (late : Spells (listParts second) (listSlots second)) :
    Spells (listParts (first ++ second)) (listSlots (first ++ second)) := by
  rw [listParts_append, listSlots_append]
  exact early.append late

theorem Statement.spells_toList {statement : Option Statement}
    (covers : ∀ value ∈ statement, value.toNode.range.Covers value.slots) :
    Spells (listParts statement.toList) (listSlots statement.toList) := by
  cases statement with
  | none => exact spells_nil
  | some statement => exact (spells_child (covers _ rfl)).append spells_nil

/-- A block stretches the node it stands in, unless it was not even looked for. -/
theorem Block.spells_part {block : Block} (covers : block.toNode.range.Covers block.slots) :
    Spells [block.part] block.slots := by
  cases block with
  | missing anchor wasSought =>
    cases wasSought with
    | true => exact spells_child covers
    | false => exact (spells_standIn _ _).of_placed_eq rfl
  | written => exact spells_child covers

end ScriptTree
