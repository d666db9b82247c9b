import ScriptTree.Proofs.Node.Fitting
import ScriptTree.Proofs.Node.Held

/-!
# Parts that tile

Parts that tile the way between two offsets follow each other, and each of them
ends exactly where the next stretch of the way begins.  Blanks are left out in
front of a part, never behind it.  A part that took nothing stands at the end of
what was taken before it.  So a node assembled from such parts runs from the
first of them that has some width to the last one, and an empty part is inside
of the node as soon as anything stands in front of it.

The one node that can open with an empty part is a chain: where an operand is
taken for granted in front of an operator on a later line, it stands at the end
of the line before, outside of the node.
-/

namespace ScriptTree

/-- One range ends before another starts, or where it starts. -/
def Range.Precedes (first second : Range) : Prop :=
  first.span.stop ≤ second.span.start

/-- A range that reaches over another one. -/
structure Range.Encloses (outer inner : Range) : Prop where
  start_le : outer.span.start ≤ inner.span.start
  le_stop : inner.span.stop ≤ outer.span.stop

/-- The ranges among some that are not empty. -/
def Range.wideOf (ranges : List Range) : List Range :=
  ranges.filter fun range => !range.isEmpty

/-- A range counts among the wide ones unless it is empty. -/
theorem Range.wideOf_cons (range : Range) (rest : List Range) :
    wideOf (range :: rest) = if range.isEmpty then wideOf rest else range :: wideOf rest := by
  rw [wideOf, List.filter_cons]
  cases range.isEmpty <;> rfl

/-- The wide ranges are those that are not empty. -/
theorem Range.mem_wideOf {range : Range} {ranges : List Range} :
    range ∈ wideOf ranges ↔ range ∈ ranges ∧ range.isEmpty = false := by
  simp [wideOf]

/-- There is no wide range exactly where all are empty. -/
theorem Range.wideOf_eq_nil_iff {ranges : List Range} :
    wideOf ranges = [] ↔ ∀ range ∈ ranges, range.isEmpty = true := by
  simp [wideOf]

/-- The field of a node that goes on from what was read before it, a chain. -/
def Content.leadField? : Content → Option Field
  | .binaryExpression _ => some .left
  | .arrayAccess => some .array
  | .memberAccess => some .object
  | _ => none

/-- The ranges of a node's own tokens, and of its children that are not empty. -/
def Node.wideRanges (node : Node) : List Range :=
  node.tokens.map (·.range) ++ Range.wideOf (node.children.map Node.range)

/-- The children of a node follow each other, and so do its own tokens; none of its tokens overlaps
a child. -/
structure Node.InOrder (node : Node) : Prop where
  siblings : (node.children.map Node.range).Pairwise Range.Precedes
  tokens : (node.tokens.map (·.range)).Pairwise Range.Precedes
  apart : ∀ placed ∈ node.tokens, ∀ child ∈ node.children,
    placed.range.Precedes child.range ∨ child.range.Precedes placed.range

/-- A node runs from the smallest start to the greatest end of its own tokens and of its children
that are not empty, if it has any. -/
def Node.IsTight (node : Node) : Prop :=
  node.wideRanges ≠ [] →
    (node.wideRanges.map (·.span.start)).min? = some node.range.span.start ∧
      (node.wideRanges.map (·.span.stop)).max? = some node.range.span.stop

/-- An empty child is inside of the node unless a chain goes on from it. -/
def Node.HoldsEmpties (node : Node) : Prop :=
  ∀ entry ∈ node.fields, entry.2.range.isEmpty = true →
    (node.range.Encloses entry.2.range ↔ node.content.leadField? ≠ some entry.1)

/-- The children and the tokens of a node stand in order, and its range, which runs forward, follows
from theirs.  A node that has none of them is empty unless it stands for a token itself. -/
structure Node.Arranged (node : Node) : Prop where
  inOrder : node.InOrder
  tight : node.IsTight
  empties : node.HoldsEmpties
  forward : node.range.span.start ≤ node.range.span.stop
  bare : node.kind.isLeaf = false → node.tokens = [] → node.fields = [] →
    node.range.isEmpty = true

/-! ## Ranges that fill their room -/

/-- Where ranges end that begin at an offset. -/
def Range.endOf (offset : Nat) (ranges : List Range) : Nat :=
  (ranges.getLast?.map (·.span.stop)).getD offset

/-- Ranges end where those behind the first one do, which begin where it ends. -/
theorem Range.endOf_cons (offset : Nat) (range : Range) (rest : List Range) :
    endOf offset (range :: rest) = endOf range.span.stop rest := by
  cases last : rest.getLast? <;> simp [endOf, List.getLast?_cons, last]

/-- A range from `low` on that ends exactly at `high`; it is empty only where there is no room. -/
structure Range.Fills (low high : Nat) (range : Range) : Prop where
  low_le : low ≤ range.span.start
  forward : range.span.start ≤ range.span.stop
  stop_eq : range.span.stop = high
  wide : low < high → range.span.start < range.span.stop

namespace Range.Fills

variable {low middle high : Nat} {range : Range}

/-- What fills a room fits in it. -/
theorem fits (fills : range.Fills low high) : range.Fits low high :=
  ⟨fills.low_le, fills.forward, Nat.le_of_eq fills.stop_eq⟩

/-- A room that is filled does not end before it starts. -/
theorem le (fills : range.Fills low high) : low ≤ high :=
  fills.fits.le

/-- A range that fills its room is empty exactly when the room is. -/
theorem isEmpty_iff (fills : range.Fills low high) : range.isEmpty = true ↔ low = high := by
  have low_le := fills.low_le
  have forward := fills.forward
  have stop := fills.stop_eq
  have wide := fills.wide
  rw [isEmpty, decide_eq_true_eq]
  omega

/-- A range that fills some room is not empty. -/
theorem isEmpty_eq_false (fills : range.Fills low high) (lt : low < high) :
    range.isEmpty = false :=
  Bool.eq_false_iff.mpr fun empty => Nat.ne_of_lt lt (fills.isEmpty_iff.mp empty)

end Range.Fills

/-- A node that fills its room, with everything below it in place. -/
structure Assembly.Laid (low high : Nat) (assembly : Assembly) : Prop where
  fills : assembly.node.range.Fills low high
  arranged : ∀ node ∈ assembly.node.descendants, node.Arranged

/-- A node that is laid in a room runs forwards through it. -/
theorem Assembly.Laid.le {low high : Nat} {assembly : Assembly} (laid : assembly.Laid low high) :
    low ≤ high :=
  laid.fills.le

/-- A node without tokens and children is in place if it stands for a token, or if there is no room
for it. -/
theorem Assembly.laid_of_childless {low high : Nat} {content : Content} {range : Range}
    (fills : range.Fills low high) (bare : content.kind.isLeaf = false → low = high) :
    (leaf content range).Laid low high := by
  refine ⟨fills, ?_⟩
  intro node member
  rw [node_leaf, Node.descendants_eq] at member
  cases List.mem_singleton.mp member
  exact ⟨⟨.nil, .nil, nofun⟩, fun wide => absurd rfl wide, nofun, fills.forward,
    fun plain _ _ => fills.isEmpty_iff.mpr (bare plain)⟩

/-- A leaf is laid wherever its range fills the room. -/
theorem Assembly.laid_leaf {low high : Nat} {content : Content} {range : Range}
    (fills : range.Fills low high) (leaf : content.kind.isLeaf = true) :
    (Assembly.leaf content range).Laid low high :=
  laid_of_childless fills fun plain => by rw [leaf] at plain; cases plain

/-- What stands in for a missing node is laid where there is no room. -/
theorem Assembly.laid_standIn {low high : Nat} {content : Content} {range : Range}
    (fills : range.Fills low high) (stays : low = high) : (leaf content range).Laid low high :=
  laid_of_childless fills fun _ => stays

/-! ## Tilings -/

namespace Part

/-- Where the token or the child that a part gives to its node stands. -/
def place? : Part → Option Range
  | .token placed => some placed.range
  | .child _ assembly | .standIn _ assembly => some assembly.node.range
  | .gap _ | .abandoned _ => none

/-- The ranges of what some parts give to their node. -/
def places (parts : List Part) : List Range :=
  parts.filterMap place?

/-- Parts that follow each other from `low` to `high`, each of them filling its room. -/
inductive Tile : Nat → Nat → List Part → Prop
  | nil {here : Nat} : Tile here here []
  | token {low middle high : Nat} {placed : PlacedToken} {rest : List Part}
      (fills : placed.range.Fills low middle) (wide : low < middle)
      (further : Tile middle high rest) : Tile low high (.token placed :: rest)
  | child {low middle high : Nat} {field : Field} {assembly : Assembly} {rest : List Part}
      (fills : assembly.node.range.Fills low middle)
      (arranged : ∀ node ∈ assembly.node.descendants, node.Arranged)
      (further : Tile middle high rest) : Tile low high (.child field assembly :: rest)
  | standIn {low high : Nat} {field : Field} {assembly : Assembly} {rest : List Part}
      (fills : assembly.node.range.Fills low low)
      (arranged : ∀ node ∈ assembly.node.descendants, node.Arranged)
      (further : Tile low high rest) : Tile low high (.standIn field assembly :: rest)
  | gap {low high : Nat} {range : Range} {rest : List Part}
      (fills : range.Fills low low) (further : Tile low high rest) :
      Tile low high (.gap range :: rest)
  /-- What is abandoned leaves its room empty, so something has to follow it. -/
  | abandoned {low middle high : Nat} {assembly : Assembly} {rest : List Part}
      (le : low ≤ middle) (lt : middle < high) (further : Tile middle high rest) :
      Tile low high (.abandoned assembly :: rest)

variable {low middle high : Nat} {parts more : List Part}

/-- Parts that tile a room run forwards through it. -/
theorem Tile.le (tile : Tile low high parts) : low ≤ high := by
  induction tile with
  | nil => exact Nat.le_refl _
  | token fills _ _ le | child fills _ _ le | standIn fills _ _ le =>
    exact Nat.le_trans fills.le le
  | gap _ _ le => exact le
  | abandoned before _ _ le => exact Nat.le_trans before le

/-- Two tilings, one behind the other, tile the whole. -/
theorem Tile.append (first : Tile low middle parts) (second : Tile middle high more) :
    Tile low high (parts ++ more) := by
  induction first with
  | nil => exact second
  | token fills wide _ further => exact .token fills wide (further second)
  | child fills arranged _ further => exact .child fills arranged (further second)
  | standIn fills arranged _ further => exact .standIn fills arranged (further second)
  | gap fills _ further => exact .gap fills (further second)
  | abandoned le lt _ further =>
    exact .abandoned le (Nat.lt_of_lt_of_le lt second.le) (further second)

@[simp]
theorem filterMap_child?_optional (token : Token) (place : Option Range) :
    (optional token place).filterMap Part.child? = [] := by
  cases place <;> rfl

/-- A token tiles the room that its range fills. -/
theorem tile_token {token : Token} {range : Range} (fills : range.Fills low high)
    (wide : low < high) : Tile low high [.token ⟨token, range⟩] :=
  .token fills wide .nil

/-- A child tiles the room it is laid in. -/
theorem tile_child {field : Field} {assembly : Assembly} (laid : assembly.Laid low high) :
    Tile low high [.child field assembly] :=
  .child laid.fills laid.arranged .nil

/-- What stands in for a missing child takes no room. -/
theorem tile_standIn {field : Field} {assembly : Assembly} (laid : assembly.Laid low low) :
    Tile low low [.standIn field assembly] :=
  .standIn laid.fills laid.arranged .nil

theorem tile_gap {range : Range} (fills : range.Fills low low) : Tile low low [.gap range] :=
  .gap fills .nil

/-- A part that may be absent, where its room is empty then. -/
theorem tile_toList {α : Type} {value : Option α} (part : α → Part)
    (absent : value = none → low = high) (present : ∀ item ∈ value, Tile low high [part item]) :
    Tile low high (value.toList.map part) := by
  cases value with
  | none =>
    cases absent rfl
    exact .nil
  | some item => exact present item rfl

/-! ## Where the parts of a tiling stand -/

/-- Nothing that a part gives to its node, and nothing that stretches it, leaves its room. -/
theorem Tile.fits (tile : Tile low high parts) :
    ∀ part ∈ parts, ∀ range, part.place? = some range ∨ part.range? = some range →
      range.Fits low high := by
  induction tile with
  | nil => exact fun part member => absurd member List.not_mem_nil
  | token fills _ further later | child fills _ further later | standIn fills _ further later =>
    refine List.forall_mem_cons.mpr ⟨?_, ?_⟩
    · rintro range (⟨⟨⟩⟩ | ⟨⟨⟩⟩) <;> exact fills.fits.widen (Nat.le_refl _) further.le
    · exact fun part member range given =>
        (later part member range given).widen fills.le (Nat.le_refl _)
  | gap fills further later =>
    refine List.forall_mem_cons.mpr ⟨?_, later⟩
    rintro range (⟨⟨⟩⟩ | ⟨⟨⟩⟩)
    exact fills.fits.widen (Nat.le_refl _) further.le
  | abandoned le _ _ later =>
    refine List.forall_mem_cons.mpr ⟨fun range => nofun, ?_⟩
    exact fun part member range given =>
      (later part member range given).widen le (Nat.le_refl _)

/-- All that tiles a room stands in it. -/
theorem Tile.fits_places (tile : Tile low high parts) :
    ∀ range ∈ places parts, range.Fits low high := by
  intro range member
  rcases List.mem_filterMap.mp member with ⟨part, present, given⟩
  exact tile.fits part present range (.inl given)

/-- What an earlier part gives its node precedes what a later one gives. -/
theorem Tile.pairwise (tile : Tile low high parts) :
    parts.Pairwise fun first second =>
      ∀ early ∈ first.place?, ∀ late ∈ second.place?, Range.Precedes early late := by
  induction tile with
  | nil => exact .nil
  | token fills _ further ih | child fills _ further ih | standIn fills _ further ih =>
    refine .cons (fun part member early given late found => ?_) ih
    cases given
    exact Nat.le_trans (Nat.le_of_eq fills.stop_eq)
      (further.fits part member late (.inl found)).low_le
  | gap _ _ ih | abandoned _ _ _ ih => exact .cons (fun _ _ => nofun) ih

/-- The places in a tiling are in order. -/
theorem Tile.pairwise_places (tile : Tile low high parts) :
    (places parts).Pairwise Range.Precedes := by
  rw [places, List.pairwise_filterMap]
  exact tile.pairwise

/-- What one part gives ends before what another one gives, whichever of them comes first. -/
def Apart (first second : Part) : Prop :=
  ∀ early ∈ first.place?, ∀ late ∈ second.place?,
    Range.Precedes early late ∨ Range.Precedes late early

instance : Std.Symm Apart where
  symm _ _ apart late givenLate early givenEarly := (apart early givenEarly late givenLate).symm

/-- Any two parts of a tiling stand apart. -/
theorem Tile.pairwise_apart (tile : Tile low high parts) : parts.Pairwise Apart :=
  tile.pairwise.imp fun before early givenEarly late givenLate =>
    .inl (before early givenEarly late givenLate)

/-- The tokens in a tiling are not empty. -/
theorem Tile.wide_token (tile : Tile low high parts) :
    ∀ placed ∈ parts.filterMap Part.token?, placed.range.isEmpty = false := by
  induction tile with
  | nil => exact nofun
  | token fills wide _ later =>
    exact List.forall_mem_cons.mpr ⟨fills.isEmpty_eq_false wide, later⟩
  | child _ _ _ later | standIn _ _ _ later | gap _ _ later | abandoned _ _ _ later =>
    exact later

/-- Below the children in a tiling everything is arranged. -/
theorem Tile.arranged (tile : Tile low high parts) :
    ∀ entry ∈ parts.filterMap Part.child?, ∀ node ∈ entry.2.descendants, node.Arranged := by
  induction tile with
  | nil => exact nofun
  | child _ arranged _ later | standIn _ arranged _ later =>
    exact List.forall_mem_cons.mpr ⟨arranged, later⟩
  | token _ _ _ later | gap _ _ later | abandoned _ _ _ later => exact later

/-- What stretches a node is what it is given, the empty parts apart. -/
theorem Tile.wideOf_ranges (tile : Tile low high parts) :
    Range.wideOf (parts.filterMap Part.range?) = Range.wideOf (places parts) := by
  induction tile with
  | nil => rfl
  | token _ _ _ later | child _ _ _ later =>
    refine (Range.wideOf_cons _ _).trans (Eq.trans ?_ (Range.wideOf_cons _ _).symm)
    exact congrArg (fun rest => ite _ rest (_ :: rest)) later
  | standIn fills _ _ later =>
    refine Eq.trans ?_ (Range.wideOf_cons _ _).symm
    rw [if_pos (fills.isEmpty_iff.mpr rfl)]
    exact later
  | gap fills _ later =>
    refine (Range.wideOf_cons _ _).trans ?_
    rw [if_pos (fills.isEmpty_iff.mpr rfl)]
    exact later
  | abandoned _ _ _ later => exact later

/-- The last part that has some width ends where the whole tiling ends. -/
theorem Tile.endOf_places (tile : Tile low high parts) :
    Range.endOf low (Range.wideOf (places parts)) = high := by
  induction tile with
  | nil => rfl
  | token fills _ _ later | child fills _ _ later | standIn fills _ _ later =>
    refine (congrArg (Range.endOf _) (Range.wideOf_cons _ _)).trans ?_
    split
    · rename_i empty
      rw [fills.isEmpty_iff.mp empty]
      exact later
    · rw [Range.endOf_cons, fills.stop_eq]
      exact later
  | gap _ _ later => exact later
  | @abandoned low _ _ _ rest _ lt _ later =>
    change Range.endOf low (Range.wideOf (places rest)) = _
    cases last : (Range.wideOf (places rest)).getLast? with
    | none =>
      rw [Range.endOf, last] at later
      exact absurd later (Nat.ne_of_lt lt)
    | some final =>
      rw [Range.endOf, last] at later ⊢
      exact later

end Part

/-! ## The range of an assembled node -/

/-- From the start of the first of some ranges to the end of the last one. -/
def Range.stretch? : List Range → Option Range
  | [] => none
  | first :: rest => some (first.through ((rest.getLast?).getD first))

/-- A stretch from a range on goes through to the end of the others. -/
theorem Range.stretch?_cons (first : Range) (rest : List Range) :
    stretch? (first :: rest) = joined (some first) (stretch? rest) := by
  cases rest with
  | nil => rfl
  | cons next others => simp [stretch?, joined, through, List.getLast?_cons]

/-- Ranges with a stretch end where it does. -/
theorem Range.endOf_of_stretch? {ranges : List Range} {whole : Range} (offset : Nat)
    (stretched : stretch? ranges = some whole) : endOf offset ranges = whole.span.stop := by
  cases ranges with
  | nil => cases stretched
  | cons first rest =>
    cases stretched
    rw [endOf, List.getLast?_cons]
    rfl

/-- Only no ranges at all have no stretch. -/
theorem Range.stretch?_eq_none_iff {ranges : List Range} :
    stretch? ranges = none ↔ ranges = [] := by
  cases ranges <;> simp [stretch?]

/-- A hull stretches over the ranges that are not empty. -/
theorem Hull.stretch_foldl (ranges : List Range) (hull : Hull) :
    (ranges.foldl add hull).stretch =
      Range.joined hull.stretch
        (Range.stretch? (Range.wideOf ranges)) := by
  induction ranges generalizing hull with
  | nil =>
    cases stretched : hull.stretch <;> simp [stretched, Range.wideOf, Range.stretch?, Range.joined]
  | cons range rest ih =>
    rw [List.foldl_cons, ih, add, Range.wideOf_cons]
    cases range.isEmpty with
    | true => rfl
    | false =>
      rw [if_neg Bool.false_ne_true, if_neg Bool.false_ne_true, Range.stretch?_cons]
      cases hull.stretch <;> cases Range.stretch? (Range.wideOf rest) <;> rfl

/-- A range that runs from the smallest start of some ranges to their greatest end. -/
structure Range.Spans (whole : Range) (ranges : List Range) : Prop where
  start_mem : ∃ range ∈ ranges, range.span.start = whole.span.start
  start_le : ∀ range ∈ ranges, whole.span.start ≤ range.span.start
  stop_mem : ∃ range ∈ ranges, range.span.stop = whole.span.stop
  le_stop : ∀ range ∈ ranges, range.span.stop ≤ whole.span.stop

namespace Range

variable {whole : Range} {ranges others : List Range}

/-- What spans some ranges spans others with the same members. -/
theorem Spans.of_mem_iff (spans : whole.Spans ranges)
    (same : ∀ range, range ∈ others ↔ range ∈ ranges) : whole.Spans others where
  start_mem := spans.start_mem.imp fun range found => ⟨(same range).mpr found.1, found.2⟩
  start_le := fun range member => spans.start_le range ((same range).mp member)
  stop_mem := spans.stop_mem.imp fun range found => ⟨(same range).mpr found.1, found.2⟩
  le_stop := fun range member => spans.le_stop range ((same range).mp member)

/-- The start of what spans some ranges is the least of theirs. -/
theorem Spans.min?_eq (spans : whole.Spans ranges) :
    (ranges.map (·.span.start)).min? = some whole.span.start := by
  rw [List.min?_eq_some_iff]
  refine ⟨List.mem_map.mpr spans.start_mem, ?_⟩
  exact List.forall_mem_map.mpr spans.start_le

/-- The end of what spans some ranges is the greatest of theirs. -/
theorem Spans.max?_eq (spans : whole.Spans ranges) :
    (ranges.map (·.span.stop)).max? = some whole.span.stop := by
  rw [List.max?_eq_some_iff]
  refine ⟨List.mem_map.mpr spans.stop_mem, ?_⟩
  exact List.forall_mem_map.mpr spans.le_stop

/-- Ranges in order run from the start of the first to the end of the last. -/
theorem spans_of_stretch? (ordered : ranges.Pairwise Precedes)
    (forward : ∀ range ∈ ranges, range.span.start ≤ range.span.stop)
    (stretched : stretch? ranges = some whole) : whole.Spans ranges := by
  cases ranges with
  | nil => cases stretched
  | cons first rest =>
    obtain ⟨init, same⟩ : ∃ init, first :: rest = init ++ [(rest.getLast?).getD first] := by
      rw [← List.getLast?_eq_some_iff, List.getLast?_cons]
    cases stretched
    have early := (List.pairwise_cons.mp ordered).1
    have late := (List.pairwise_append.mp (same ▸ ordered)).2.2
    have forwardFirst := forward first List.mem_cons_self
    have last : (rest.getLast?).getD first ∈ first :: rest :=
      same ▸ List.mem_append_right init List.mem_cons_self
    refine ⟨⟨first, List.mem_cons_self, rfl⟩, ?_, ?_, ?_⟩
    · refine List.forall_mem_cons.mpr ⟨Nat.le_refl _, fun range member => ?_⟩
      exact Nat.le_trans forwardFirst (early range member)
    · exact ⟨_, last, rfl⟩
    · intro range member
      rw [same, List.mem_append, List.mem_singleton] at member
      rcases member with before | rfl
      · exact Nat.le_trans (late range before _ List.mem_cons_self) (forward _ last)
      · exact Nat.le_refl _

end Range

namespace Part

variable {low high : Nat} {parts : List Part}

/-- A token stands where its part does. -/
theorem place?_of_token? {part : Part} {placed : PlacedToken} (given : part.token? = some placed) :
    part.place? = some placed.range := by
  cases part <;> cases given
  rfl

/-- A child stands where its part does. -/
theorem place?_of_child? {part : Part} {entry : Field × Node} (given : part.child? = some entry) :
    part.place? = some entry.2.range := by
  cases part <;> cases given <;> rfl

/-- What a part gives to its node is a token or a child. -/
theorem token_or_child_of_place? {part : Part} {range : Range} (given : part.place? = some range) :
    (∃ placed, part.token? = some placed ∧ placed.range = range) ∨
      ∃ entry, part.child? = some entry ∧ entry.2.range = range := by
  cases part <;> cases given
  · exact .inl ⟨_, rfl, rfl⟩
  · exact .inr ⟨_, rfl, rfl⟩
  · exact .inr ⟨_, rfl, rfl⟩

/-- The wide ranges of a node are those among the places of its parts. -/
theorem Tile.mem_wideRanges (tile : Tile low high parts) (content : Content) (range : Range) :
    range ∈ (Assembly.ofParts content parts).node.wideRanges ↔
      range ∈ Range.wideOf (places parts) := by
  have wide := tile.wide_token
  simp only [Node.wideRanges, Node.children, Assembly.tokens_ofParts, Assembly.fields_ofParts,
    Range.wideOf, places, List.mem_append, List.mem_filter, List.mem_map, List.mem_filterMap]
    at wide ⊢
  constructor
  · rintro (⟨placed, ⟨part, member, given⟩, rfl⟩ |
      ⟨⟨_, ⟨entry, ⟨part, member, given⟩, rfl⟩, rfl⟩, some⟩)
    · exact ⟨⟨part, member, place?_of_token? given⟩, by simp [wide placed ⟨part, member, given⟩]⟩
    · exact ⟨⟨part, member, place?_of_child? given⟩, some⟩
  · rintro ⟨⟨part, member, given⟩, some⟩
    rcases token_or_child_of_place? given with ⟨placed, token, rfl⟩ | ⟨entry, child, rfl⟩
    · exact .inl ⟨placed, ⟨part, member, token⟩, rfl⟩
    · exact .inr ⟨⟨_, ⟨entry, ⟨part, member, child⟩, rfl⟩, rfl⟩, some⟩

/-- The stretch of the wide places in a tiling spans them. -/
theorem Tile.spans_places (tile : Tile low high parts) {whole : Range}
    (stretched : Range.stretch? (Range.wideOf (places parts)) = some whole) :
    whole.Spans (Range.wideOf (places parts)) := by
  refine Range.spans_of_stretch? (tile.pairwise_places.filter _) ?_ stretched
  exact fun range member => (tile.fits_places range (List.mem_of_mem_filter member)).forward

/-- A node whose parts tile is stretched by those that have some width, or it has the range of one
of its empty parts. -/
theorem Tile.stretch_or_empty (tile : Tile low high parts) (content : Content)
    (given : parts.filterMap Part.range? ≠ []) :
    Range.stretch? (Range.wideOf (places parts)) =
        some (Assembly.ofParts content parts).node.range ∨
      Range.wideOf (places parts) = [] ∧
        (Assembly.ofParts content parts).node.range ∈ parts.filterMap Part.range? := by
  have range : (Assembly.ofParts content parts).node.range =
      ((Hull.ofRanges (parts.filterMap Part.range?)).range?).getD default := rfl
  have stretch : (Hull.ofRanges (parts.filterMap Part.range?)).stretch =
      Range.stretch? (Range.wideOf (places parts)) := by
    rw [← tile.wideOf_ranges]
    exact Hull.stretch_foldl _ {}
  rw [range]
  cases stretched : Range.stretch? (Range.wideOf (places parts)) with
  | some whole =>
    rw [Hull.range?, stretch, stretched]
    exact .inl rfl
  | none =>
    have found : (Hull.ofRanges (parts.filterMap Part.range?)).range?.isSome = true := by
      cases ranges : parts.filterMap Part.range? with
      | nil => exact absurd ranges given
      | cons first rest => exact Hull.isSome_range?_foldl rest (Hull.isSome_range?_add {} first)
    rcases Option.isSome_iff_exists.mp found with ⟨empty, same⟩
    rw [same, Option.getD_some]
    rw [Hull.range?, stretch, stretched, Option.none_or, Hull.ofRanges, Hull.firstEmpty_foldl,
      Option.none_or] at same
    exact .inr ⟨Range.stretch?_eq_none_iff.mp stretched, List.mem_of_find?_eq_some same⟩

/-- A node whose parts tile fills the room that they fill. -/
theorem Tile.fills_ofParts (tile : Tile low high parts) (content : Content)
    (given : parts.filterMap Part.range? ≠ []) :
    (Assembly.ofParts content parts).node.range.Fills low high := by
  have ends := tile.endOf_places
  rcases tile.stretch_or_empty content given with stretched | ⟨empty, member⟩
  · have spans := tile.spans_places stretched
    rcases spans.start_mem with ⟨first, member, starts⟩
    have fits := tile.fits_places first (List.mem_of_mem_filter member)
    have wide := first.isEmpty_eq_false_iff.mp (Range.mem_wideOf.mp member).2
    rw [Range.endOf_of_stretch? low stretched] at ends
    have reached := spans.le_stop first member
    exact ⟨starts ▸ fits.low_le, by omega, ends, fun _ => by omega⟩
  · rcases List.mem_filterMap.mp member with ⟨part, present, found⟩
    have fits := tile.fits part present _ (.inr found)
    rw [empty] at ends
    change low = high at ends
    have low_le := fits.low_le
    have forward := fits.forward
    have le_high := fits.le_high
    exact ⟨low_le, forward, by omega, by omega⟩

/-- An empty part is inside of its node where a part with some width stands in front of it. -/
theorem Tile.encloses (tile : Tile low high parts) (content : Content)
    (given : parts.filterMap Part.range? ≠ []) {early late : Range}
    (present : early ∈ places parts) (wide : early.isEmpty = false) (member : late ∈ places parts)
    (before : early.Precedes late) :
    (Assembly.ofParts content parts).node.range.Encloses late := by
  have fills := tile.fills_ofParts content given
  have widePart : early ∈ Range.wideOf (places parts) :=
    Range.mem_wideOf.mpr ⟨present, wide⟩
  refine ⟨?_, fills.stop_eq ▸ (tile.fits_places late member).le_high⟩
  rcases tile.stretch_or_empty content given with stretched | ⟨empty, -⟩
  · exact Nat.le_trans ((tile.spans_places stretched).start_le early widePart)
      (Nat.le_trans (tile.fits_places early present).forward before)
  · rw [empty] at widePart
    cases widePart

end Part

/-! ## Assembled nodes -/

namespace Assembly

open ScriptTree.Part

variable {low middle high : Nat} {content : Content} {parts : List Part}

/-- A token and a child of one node come from two parts, one of which stands in front. -/
theorem token_apart_child (tile : Tile low high parts) {placed : PlacedToken}
    {entry : Field × Node} (token : placed ∈ parts.filterMap Part.token?)
    (child : entry ∈ parts.filterMap Part.child?) :
    placed.range.Precedes entry.2.range ∨ entry.2.range.Precedes placed.range := by
  rcases List.mem_filterMap.mp token with ⟨first, presentFirst, givenFirst⟩
  rcases List.mem_filterMap.mp child with ⟨second, presentSecond, givenSecond⟩
  have different : first ≠ second := by
    rintro rfl
    cases first with
    | token => cases givenSecond
    | _ => cases givenFirst
  exact tile.pairwise_apart.forall presentFirst presentSecond different _
    (place?_of_token? givenFirst) _ (place?_of_child? givenSecond)

/-- The node of a tiling has its tokens and children in order. -/
theorem inOrder_ofParts (tile : Tile low high parts) : (ofParts content parts).node.InOrder := by
  refine ⟨?_, ?_, ?_⟩
  · rw [Node.children, fields_ofParts, List.map_map, List.pairwise_map, List.pairwise_filterMap]
    refine tile.pairwise.imp fun before first givenFirst second givenSecond => ?_
    exact before _ (place?_of_child? givenFirst) _ (place?_of_child? givenSecond)
  · rw [tokens_ofParts, List.pairwise_map, List.pairwise_filterMap]
    refine tile.pairwise.imp fun before first givenFirst second givenSecond => ?_
    exact before _ (place?_of_token? givenFirst) _ (place?_of_token? givenSecond)
  · intro placed token child below
    rcases List.mem_map.mp below with ⟨entry, found, rfl⟩
    exact token_apart_child tile token found

/-- The node of a tiling is tight, unless none of its parts has a range. -/
theorem isTight_ofParts (tile : Tile low high parts) (given : parts.filterMap Part.range? ≠ []) :
    (ofParts content parts).node.IsTight := by
  intro wide
  have same := tile.mem_wideRanges content
  rcases tile.stretch_or_empty content given with stretched | ⟨empty, -⟩
  · have spans := (tile.spans_places stretched).of_mem_iff same
    exact ⟨spans.min?_eq, spans.max?_eq⟩
  · refine absurd (List.eq_nil_iff_forall_not_mem.mpr fun range member => ?_) wide
    have member := (same range).mp member
    rw [empty] at member
    cases member

/-- A node that is assembled from nothing is empty. -/
theorem isEmpty_ofParts (tile : Tile low high parts) (given : parts.filterMap Part.range? ≠ [])
    (noTokens : (ofParts content parts).node.tokens = [])
    (noFields : (ofParts content parts).node.fields = []) :
    (ofParts content parts).node.range.isEmpty = true := by
  have none : Range.wideOf (places parts) = [] := by
    refine List.eq_nil_iff_forall_not_mem.mpr fun range member => ?_
    have wide := (tile.mem_wideRanges content range).mpr member
    rw [Node.wideRanges, Node.children, noTokens, noFields] at wide
    cases wide
  have ends := tile.endOf_places
  rw [none] at ends
  exact (tile.fills_ofParts content given).isEmpty_iff.mpr ends

/-- An assembled node is in place once the places of its empty children are known. -/
theorem laid_ofParts_of_empties (tile : Tile low high parts)
    (given : parts.filterMap Part.range? ≠ [])
    (empties : (ofParts content parts).node.HoldsEmpties) :
    (ofParts content parts).Laid low high := by
  have fills := tile.fills_ofParts content given
  refine ⟨fills, ?_⟩
  intro node member
  rw [Node.descendants_eq] at member
  rcases List.mem_cons.mp member with rfl | below
  · exact ⟨inOrder_ofParts tile, isTight_ofParts tile given, empties, fills.forward,
      fun _ => isEmpty_ofParts tile given⟩
  · rcases List.mem_flatMap.mp below with ⟨child, present, inside⟩
    rcases List.mem_map.mp present with ⟨entry, found, rfl⟩
    exact tile.arranged entry found node inside

/-- A node that opens with a part of some width, or that is empty, holds its empty children. -/
theorem laid_ofParts (tile : Tile low high parts) (given : parts.filterMap Part.range? ≠ [])
    (opens : ∀ first ∈ (places parts).head?, first.isEmpty = true → low = high)
    (plain : content.leadField? = none) : (ofParts content parts).Laid low high := by
  refine laid_ofParts_of_empties tile given ?_
  intro entry found empty
  rw [content_ofParts, plain]
  refine iff_of_true ?_ nofun
  rcases List.mem_filterMap.mp found with ⟨part, present, child⟩
  have member : entry.2.range ∈ places parts :=
    List.mem_filterMap.mpr ⟨part, present, place?_of_child? child⟩
  have ordered := tile.pairwise_places
  cases first : places parts with
  | nil =>
    rw [first] at member
    cases member
  | cons head others =>
    rw [first] at member ordered opens
    cases wide : head.isEmpty with
    | true =>
      have fills := tile.fills_ofParts content given
      have fits := tile.fits_places entry.2.range (first ▸ member)
      have narrow := opens head rfl wide
      exact ⟨Nat.le_trans fills.forward (by rw [fills.stop_eq, ← narrow]; exact fits.low_le),
        fills.stop_eq ▸ fits.le_high⟩
    | false =>
      rcases List.mem_cons.mp member with same | later
      · rw [same, wide] at empty
        cases empty
      · exact tile.encloses content given (first ▸ List.mem_cons_self) wide
          (first ▸ member) (List.rel_of_pairwise_cons ordered later)

/-- A node that opens with one of its tokens. -/
theorem laid_ofParts_token {placed : PlacedToken} {rest : List Part}
    (tile : Tile low high (.token placed :: rest)) (plain : content.leadField? = none) :
    (ofParts content (.token placed :: rest)).Laid low high ∧ low < high := by
  constructor
  · refine laid_ofParts tile nofun ?_ plain
    rintro _ ⟨⟩ empty
    rw [tile.wide_token placed List.mem_cons_self] at empty
    cases empty
  · cases tile with
    | token _ wide further => exact Nat.lt_of_lt_of_le wide further.le

/-- A node that opens with a child of some width. -/
theorem laid_ofParts_child {field : Field} {head : Assembly} {rest : List Part}
    (laid : head.Laid low middle) (wide : low < middle) (tile : Tile middle high rest)
    (plain : content.leadField? = none) :
    (ofParts content (.child field head :: rest)).Laid low high := by
  refine laid_ofParts (.child laid.fills laid.arranged tile) nofun ?_ plain
  rintro _ ⟨⟩ empty
  rw [laid.fills.isEmpty_eq_false wide] at empty
  cases empty

/-- A node that opens with an empty child starts where its first token does. -/
theorem start_ofParts_chain {field : Field} {head : Assembly} {sign : PlacedToken}
    {rest : List Part} (tile : Tile low high (.child field head :: .token sign :: rest))
    (empty : head.node.range.isEmpty = true) (content : Content) :
    sign.range.span.start ≤
      (ofParts content (.child field head :: .token sign :: rest)).node.range.span.start := by
  have wide := tile.wide_token sign List.mem_cons_self
  have ordered := (List.pairwise_cons.mp tile.pairwise_places).2
  have starts : ∀ range ∈ Range.wideOf (places (.child field head :: .token sign :: rest)),
      sign.range.span.start ≤ range.span.start := by
    intro range member
    rcases Range.mem_wideOf.mp member with ⟨present, filled⟩
    rcases List.mem_cons.mp present with rfl | later
    · rw [empty] at filled
      cases filled
    · rcases List.mem_cons.mp later with rfl | behind
      · exact Nat.le_refl _
      · have fits := tile.fits_places sign.range (List.mem_cons_of_mem _ List.mem_cons_self)
        exact Nat.le_trans fits.forward (List.rel_of_pairwise_cons ordered behind)
  rcases tile.stretch_or_empty content nofun with stretched | ⟨nothing, -⟩
  · rcases (tile.spans_places stretched).start_mem with ⟨first, member, same⟩
    exact same ▸ starts first member
  · have member : sign.range ∈
        Range.wideOf (places (.child field head :: .token sign :: rest)) :=
      Range.mem_wideOf.mpr ⟨List.mem_cons_of_mem _ List.mem_cons_self, wide⟩
    rw [nothing] at member
    cases member

/-- A chain goes on from what was read before it, which may be empty if its sign stands further
on. -/
theorem laid_chain {field : Field} {head : Assembly} {sign : PlacedToken} {rest : List Part}
    (lead : content.leadField? = some field) (laid : head.Laid low middle)
    (tile : Tile middle high (.token sign :: rest))
    (others : ∀ entry ∈ rest.filterMap Part.child?, entry.1 ≠ field)
    (apart : low = middle → low < sign.range.span.start) :
    (ofParts content (.child field head :: .token sign :: rest)).Laid low high := by
  have whole : Tile low high (.child field head :: .token sign :: rest) :=
    .child laid.fills laid.arranged tile
  have wide := tile.wide_token sign List.mem_cons_self
  have member : sign.range ∈ places (.child field head :: .token sign :: rest) :=
    List.mem_cons_of_mem _ List.mem_cons_self
  refine laid_ofParts_of_empties whole nofun ?_
  refine List.forall_mem_cons.mpr ⟨?_, ?_⟩
  · intro empty
    rw [content_ofParts, lead]
    refine iff_of_false (fun encloses => ?_) (by simp)
    have narrow := laid.fills.isEmpty_iff.mp empty
    have starts := start_ofParts_chain whole empty content
    have fits := laid.fills.fits
    refine absurd (apart narrow) (Nat.not_lt.mpr ?_)
    exact Nat.le_trans starts (Nat.le_trans encloses.start_le
      (Nat.le_trans fits.forward (narrow ▸ fits.le_high)))
  · intro entry found empty
    rw [content_ofParts, lead]
    refine iff_of_true ?_ fun same => others entry found (Option.some.inj same).symm
    rcases List.mem_filterMap.mp (show entry ∈ rest.filterMap Part.child? from found) with
      ⟨part, present, child⟩
    have later : entry.2.range ∈ places rest :=
      List.mem_filterMap.mpr ⟨part, present, place?_of_child? child⟩
    refine whole.encloses content nofun member wide
      (List.mem_cons_of_mem _ (List.mem_cons_of_mem _ later)) ?_
    exact List.rel_of_pairwise_cons tile.pairwise_places later

end Assembly

/-! ## Parts of the typed tree -/

section

open ScriptTree.Part

variable {low middle later high : Nat} {more : List Part}

/-- An expression, its comma and the rest of a list tile one room after the other. -/
theorem Expression.tile_cons {field : Field} {expression : Expression} {place : Option Range}
    {rest : List (Expression × Option Range)} (laid : expression.assembly.Laid low middle)
    (comma : Tile middle later (Part.optional .comma place))
    (further : Tile later high (listParts field rest ++ more)) :
    Tile low high (listParts field ((expression, place) :: rest) ++ more) := by
  rw [listParts, List.cons_append, List.append_assoc]
  exact (tile_child laid).append (comma.append further)

/-- A parameter, its comma and the rest of a list tile one room after the other. -/
theorem ParameterList.tile_cons {parameter : Parameter} {place : Option Range}
    {rest : List (Parameter × Option Range)} (laid : parameter.assembly.Laid low middle)
    (comma : Tile middle later (Part.optional .comma place))
    (further : Tile later high (parts rest ++ more)) :
    Tile low high (parts ((parameter, place) :: rest) ++ more) := by
  rw [parts, List.cons_append, List.append_assoc]
  exact (tile_child laid).append (comma.append further)

/-- A call is laid from its function to the end of its arguments. -/
theorem Expression.laid_call {start : Nat} {function : Expression} {opening : Range}
    {items : List (Expression × Option Range)} {closing : Option Range}
    (laid : function.assembly.Laid start low) (wide : start < low)
    (opens : Tile low middle [.token ⟨.lParen, opening⟩])
    (tile : Tile middle high (listParts .arguments items ++ Part.optional .rParen closing)) :
    (call function opening items closing).assembly.Laid start high :=
  Assembly.laid_ofParts_child laid wide
    (tile_child (Assembly.laid_ofParts_token (opens.append tile) rfl).1) rfl

/-- The parts of a block are its statements. -/
theorem Statement.listParts_eq_map (statements : List Statement) :
    listParts statements =
      statements.map fun statement => .child .statements statement.assembly := by
  induction statements with
  | nil => rfl
  | cons statement rest ih =>
    rw [listParts, ih]
    rfl

/-- A block that was not even looked for stands where the parse is. -/
theorem Block.tile_part {block : Block} (laid : block.assembly.Laid low high)
    (stays : block.isMissing = true → low = high) : Tile low high [block.part] := by
  cases block with
  | missing anchor wasSought =>
    cases wasSought with
    | true => exact tile_child laid
    | false =>
      cases stays rfl
      exact tile_standIn laid
  | written => exact tile_child laid

end

/-! ## Error nodes -/

/-- Lexemes that follow an offset start there or later. -/
theorem Lexeme.Follow.le_start_of_mem {offset : Nat} {lexemes : List Lexeme}
    (follow : Follow offset lexemes) {lexeme : Lexeme} (member : lexeme ∈ lexemes) :
    offset ≤ lexeme.range.span.start := by
  induction lexemes generalizing offset with
  | nil => cases member
  | cons first rest ih =>
    rcases List.mem_cons.mp member with rfl | later
    · exact follow.1
    · exact Nat.le_trans follow.1 (Nat.le_trans follow.2.1 (ih follow.2.2 later))

/-- Lexemes that follow each other precede each other. -/
theorem Lexeme.Follow.pairwise_precedes {offset : Nat} {lexemes : List Lexeme}
    (follow : Follow offset lexemes) :
    (lexemes.map fun lexeme => lexeme.range).Pairwise Range.Precedes := by
  induction lexemes generalizing offset with
  | nil => exact .nil
  | cons lexeme rest ih =>
    refine .cons (List.forall_mem_map.mpr fun later member => ?_) (ih follow.2.2)
    exact follow.2.2.le_start_of_mem member

/-- An error node reaches from the first to the last token that it skips. -/
theorem ErrorNode.stretch?_ofTokens? {tokens : List PlacedToken} {node : ErrorNode}
    (made : ofTokens? tokens = some node) :
    node.skipped = tokens ∧ Range.stretch? (tokens.map (·.range)) = some node.range := by
  cases tokens with
  | nil => cases made
  | cons first rest =>
    cases made
    refine ⟨rfl, ?_⟩
    rw [List.map_cons, Range.stretch?, List.getLast?_map]
    cases rest.getLast? <;> rfl

/-- The error node of lexemes that have some width and follow each other. -/
theorem Lexeme.Follow.laid_ofTokens? {offset : Nat} {lexemes : List Lexeme}
    (follow : Follow offset lexemes)
    (wide : ∀ lexeme ∈ lexemes, lexeme.range.span.start < lexeme.range.span.stop) :
    ∀ node ∈ ErrorNode.ofTokens? (lexemes.map Lexeme.toPlacedToken),
      node.assembly.Laid offset (endOf offset lexemes) := by
  intro node made
  have fits := follow.fits_ofTokens? node made
  rcases ErrorNode.stretch?_ofTokens? made with ⟨skipped, stretched⟩
  have ordered := follow.pairwise_precedes
  rw [List.map_map] at stretched
  have spans := Range.spans_of_stretch? ordered
    (List.forall_mem_map.mpr fun lexeme member => Nat.le_of_lt (wide lexeme member)) stretched
  have tokens : node.skipped.map (·.range) = lexemes.map fun lexeme => lexeme.range := by
    rw [skipped, List.map_map]
    rfl
  constructor
  · have ends := Range.endOf_of_stretch? offset stretched
    rw [Range.endOf, List.getLast?_map, Option.map_map] at ends
    rcases spans.start_mem with ⟨_, member, starts⟩
    have reached := spans.le_stop _ member
    rcases List.mem_map.mp member with ⟨first, present, rfl⟩
    refine ⟨fits.low_le, fits.forward, ends.symm, fun _ => ?_⟩
    exact Nat.lt_of_lt_of_le (starts ▸ wide first present) reached
  · intro below member
    rw [Node.descendants_eq] at member
    cases List.mem_singleton.mp member
    refine ⟨⟨.nil, tokens ▸ ordered, fun _ _ => nofun⟩, fun _ => ?_, nofun, fits.forward,
      fun _ none _ => ?_⟩
    · have same : node.assembly.node.wideRanges = lexemes.map fun lexeme => lexeme.range :=
        (List.append_nil _).trans tokens
      rw [same]
      exact ⟨spans.min?_eq, spans.max?_eq⟩
    · have nothing : node.skipped = [] := none
      rw [nothing, List.map_nil] at tokens
      rcases spans.start_mem with ⟨_, member, -⟩
      rw [← tokens] at member
      cases member

end ScriptTree
