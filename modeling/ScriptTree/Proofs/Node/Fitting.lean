import ScriptTree.Node.Assembly
import ScriptTree.Proofs.Lexeme.Order

/-!
# Parts that fit

Parts fit between two offsets if they follow each other from the first offset to
the second, none of them ending before it starts.  Parts that fit do not overlap,
and a node assembled from them stays between the same offsets.  Nothing is asked
of how wide a part is: an empty part fits wherever the order allows it.
-/

namespace ScriptTree

/-- A range that starts at `low` or later, and ends at `high` or earlier. -/
structure Range.Fits (low high : Nat) (range : Range) : Prop where
  low_le : low ≤ range.span.start
  forward : range.span.start ≤ range.span.stop
  le_high : range.span.stop ≤ high

namespace Range.Fits

variable {low high : Nat} {range : Range}

/-- A range runs forwards. -/
theorem le (fits : range.Fits low high) : low ≤ high :=
  Nat.le_trans fits.low_le (Nat.le_trans fits.forward fits.le_high)

/-- What fits between two offsets fits between offsets further apart. -/
theorem widen {lower higher : Nat} (fits : range.Fits low high) (below : lower ≤ low)
    (above : high ≤ higher) : range.Fits lower higher where
  low_le := Nat.le_trans below fits.low_le
  forward := fits.forward
  le_high := Nat.le_trans fits.le_high above

/-- Ranges one after the other fit together. -/
theorem through {middle : Nat} {last : Range} (fits : range.Fits low middle)
    (later : last.Fits middle high) : (range.through last).Fits low high where
  low_le := fits.low_le
  forward := Nat.le_trans fits.forward (Nat.le_trans fits.le_high
    (Nat.le_trans later.low_le later.forward))
  le_high := later.le_high

end Range.Fits

/-- The error node of lexemes that follow each other reaches from the first to the last one. -/
theorem Lexeme.Follow.fits_ofTokens? {offset : Nat} {lexemes : List Lexeme}
    (follow : Follow offset lexemes) :
    ∀ node ∈ ErrorNode.ofTokens? (lexemes.map Lexeme.toPlacedToken),
      node.range.Fits offset (endOf offset lexemes) := by
  intro node made
  cases lexemes with
  | nil => cases made
  | cons first rest =>
    cases made
    have reached := follow.2.2.le_endOf
    have last :
        (((rest.map Lexeme.toPlacedToken).getLast?).getD first.toPlacedToken).range.span.stop =
        endOf offset (first :: rest) := by
      rw [endOf_cons, endOf, List.getLast?_map]
      cases rest.getLast? <;> rfl
    rw [endOf_cons] at last
    refine ⟨follow.1, Nat.le_trans follow.2.1 (Nat.le_trans reached (Nat.le_of_eq last.symm)), ?_⟩
    rw [endOf_cons]
    exact Nat.le_of_eq last

/-- A node without overlaps, between two offsets. -/
structure Assembly.Fits (low high : Nat) (assembly : Assembly) : Prop where
  range : assembly.node.range.Fits low high
  overlap : assembly.overlap = none

/-- A leaf fits where its range does. -/
theorem Assembly.fits_leaf {low high : Nat} {content : Content} {range : Range}
    (fits : range.Fits low high) : (leaf content range).Fits low high :=
  ⟨fits, rfl⟩

namespace Part

/-- Parts that follow each other from `low` to `high`; what is inside of them does not overlap. -/
inductive Fit : Nat → Nat → List Part → Prop
  | nil {low high : Nat} (le : low ≤ high) : Fit low high []
  /-- A part that is not given to the node takes no room. -/
  | aside {low high : Nat} {part : Part} {rest : List Part} (inner : part.innerOverlap = none)
      (absent : part.range? = none) (further : Fit low high rest) : Fit low high (part :: rest)
  | placed {low middle high : Nat} {part : Part} {range : Range} {rest : List Part}
      (inner : part.innerOverlap = none) (present : part.range? = some range)
      (fits : range.Fits low middle) (further : Fit middle high rest) :
      Fit low high (part :: rest)

variable {low middle high : Nat} {parts more : List Part}

/-- Parts that follow from an offset follow from each earlier one. -/
theorem Fit.lower {lower : Nat} (fit : Fit low high parts) (below : lower ≤ low) :
    Fit lower high parts := by
  induction fit with
  | nil le => exact .nil (Nat.le_trans below le)
  | aside inner absent _ further => exact .aside inner absent (further below)
  | placed inner present fits further =>
    exact .placed inner present (fits.widen below (Nat.le_refl _)) further

/-- Parts up to an offset and parts from it on follow each other. -/
theorem Fit.append (first : Fit low middle parts) (second : Fit middle high more) :
    Fit low high (parts ++ more) := by
  induction first with
  | nil le => exact second.lower le
  | aside inner absent _ further => exact .aside inner absent (further second)
  | placed inner present fits _ further => exact .placed inner present fits (further second)

theorem fit_token {token : Token} {range : Range} (fits : range.Fits low high) :
    Fit low high [.token ⟨token, range⟩] :=
  .placed rfl rfl fits (.nil (Nat.le_refl high))

theorem fit_child {field : Field} {assembly : Assembly} (fits : assembly.Fits low high) :
    Fit low high [.child field assembly] :=
  .placed fits.overlap rfl fits.range (.nil (Nat.le_refl high))

theorem fit_leaf {field : Field} {content : Content} {range : Range} (fits : range.Fits low high) :
    Fit low high [.child field (.leaf content range)] :=
  fit_child (Assembly.fits_leaf fits)

/-- Where the parse gave up does not matter, but what stands there must not overlap. -/
theorem fit_standIn {field : Field} {assembly : Assembly} (overlap : assembly.overlap = none)
    (le : low ≤ high) : Fit low high [.standIn field assembly] :=
  .aside overlap rfl (.nil le)

theorem fit_gap {range : Range} (fits : range.Fits low high) : Fit low high [.gap range] :=
  .placed rfl rfl fits (.nil (Nat.le_refl high))

theorem fit_abandoned {assembly : Assembly} (fits : assembly.Fits low high) :
    Fit low high [.abandoned assembly] :=
  .aside fits.overlap rfl (.nil fits.range.le)

/-- Parts that fit do not overlap. -/
theorem Fit.overlapFrom_eq_none {cursor : Nat} (fit : Fit low high parts) (kind : NodeKind)
    (before : cursor ≤ low) : Assembly.overlapFrom kind cursor parts = none := by
  induction fit generalizing cursor with
  | nil => rfl
  | aside inner absent _ further =>
    rw [Assembly.overlapFrom, inner, absent, Option.none_or]
    exact further before
  | placed inner present fits _ further =>
    rw [Assembly.overlapFrom, inner, present, Option.none_or]
    dsimp only
    rw [if_neg (Nat.not_lt.mpr (Nat.le_trans before fits.low_le))]
    exact further fits.le_high

end Part

/-- What a hull holds ends at `cursor` or earlier, and starts at `low` or later. -/
structure Hull.Holds (low cursor : Nat) (hull : Hull) : Prop where
  stretch : ∀ range ∈ hull.stretch, range.Fits low cursor
  firstEmpty : ∀ range ∈ hull.firstEmpty, range.Fits low cursor

/-- A hull extended by a range behind it holds up to the end of that range. -/
theorem Hull.Holds.add {low cursor high : Nat} {hull : Hull} {range : Range}
    (holds : hull.Holds low cursor) (le : low ≤ cursor) (fits : range.Fits cursor high) :
    (hull.add range).Holds low high := by
  have here := fits.widen le (Nat.le_refl high)
  have kept : ∀ earlier : Range, earlier.Fits low cursor → earlier.Fits low high :=
    fun _ earlier => earlier.widen (Nat.le_refl low) fits.le
  unfold Hull.add
  split
  · refine ⟨fun whole member => kept whole (holds.stretch whole member), ?_⟩
    intro first member
    cases found : hull.firstEmpty with
    | none =>
      rw [found] at member
      cases member
      exact here
    | some earlier =>
      rw [found] at member
      cases member
      exact kept _ (holds.firstEmpty _ found)
  · have empties : ∀ first ∈ hull.firstEmpty, first.Fits low high :=
      fun first member => kept first (holds.firstEmpty first member)
    split
    · refine ⟨?_, empties⟩
      rintro _ ⟨⟩
      exact here
    · rename_i whole found
      refine ⟨?_, empties⟩
      rintro _ ⟨⟩
      exact (holds.stretch whole found).through fits

/-- A hull extended by the parts that follow holds up to their end. -/
theorem Part.Fit.holds {low cursor high : Nat} {parts : List Part} {hull : Hull}
    (fit : Fit cursor high parts) (le : low ≤ cursor) (holds : hull.Holds low cursor) :
    ((parts.filterMap Part.range?).foldl Hull.add hull).Holds low high := by
  induction fit generalizing hull with
  | nil below =>
    exact ⟨fun range member => (holds.stretch range member).widen (Nat.le_refl low) below,
      fun range member => (holds.firstEmpty range member).widen (Nat.le_refl low) below⟩
  | aside _ absent _ further =>
    rw [List.filterMap_cons_none absent]
    exact further le holds
  | placed _ present fits _ further =>
    rw [List.filterMap_cons_some present, List.foldl_cons]
    exact further (Nat.le_trans le fits.le) (holds.add le fits)

/-- A hull of at least one range has a range. -/
theorem Hull.isSome_range?_add (hull : Hull) (range : Range) :
    (hull.add range).range?.isSome = true := by
  unfold add range?
  split
  · cases hull.stretch <;> cases hull.firstEmpty <;> rfl
  · split <;> rfl

/-- A hull with something in it stays so. -/
theorem Hull.isSome_range?_foldl (ranges : List Range) {hull : Hull}
    (before : hull.range?.isSome = true) : (ranges.foldl add hull).range?.isSome = true := by
  induction ranges generalizing hull with
  | nil => exact before
  | cons range rest ih => exact ih (isSome_range?_add hull range)

/-- A node whose parts fit between two offsets is between them, too. -/
theorem Assembly.fits_ofParts {low high : Nat} {content : Content} {parts : List Part}
    (fit : Part.Fit low high parts) (placed : parts.filterMap Part.range? ≠ []) :
    (ofParts content parts).Fits low high := by
  refine ⟨?_, fit.overlapFrom_eq_none content.kind (Nat.zero_le low)⟩
  have holds : (Hull.ofRanges (parts.filterMap Part.range?)).Holds low high :=
    fit.holds (Nat.le_refl low) ⟨nofun, nofun⟩
  have some : (Hull.ofRanges (parts.filterMap Part.range?)).range?.isSome = true := by
    cases ranges : parts.filterMap Part.range? with
    | nil => exact absurd ranges placed
    | cons range rest =>
      exact Hull.isSome_range?_foldl rest (Hull.isSome_range?_add {} range)
  rcases Option.isSome_iff_exists.mp some with ⟨whole, found⟩
  change (((Hull.ofRanges (parts.filterMap Part.range?)).range?).getD default).Fits low high
  rw [found, Option.getD_some]
  rcases Option.or_eq_some_iff.mp found with stretched | ⟨-, empty⟩
  · exact holds.stretch whole stretched
  · exact holds.firstEmpty whole empty

/-! ## Drafts -/

/-- A part as it is given to the draft of its node; what was never looked for, or is no part of
the node, is not given. -/
def Part.draft? : Part → Option Draft.Part
  | .token placed => some (.token placed)
  | .child _ assembly => some (.child assembly.node.range)
  | .standIn _ _ => none
  | .gap range => some (.child range)
  | .abandoned _ => none

/-- A part counts in the range of a node as its step of the draft does. -/
theorem Part.range?_eq_draft? (part : Part) : part.range? = part.draft?.map Draft.Part.range := by
  cases part <;> rfl

/-- An overlap is noticed exactly where a draft refuses a part. -/
theorem Assembly.overlapFrom_eq_none_iff (draft : Draft) (parts : List Part) :
    overlapFrom draft.kind draft.cursor parts = none ↔
      (∀ part ∈ parts, part.innerOverlap = none) ∧
        ∃ finished, (parts.filterMap Part.draft?).foldlM Draft.add draft = .ok finished := by
  induction parts generalizing draft with
  | nil => simp [overlapFrom, pure, Except.pure]
  | cons part rest ih =>
    rw [overlapFrom, Option.or_eq_none_iff, List.forall_mem_cons, and_assoc, Part.range?_eq_draft?]
    refine and_congr_right fun _ => ?_
    cases given : part.draft? with
    | none =>
      rw [List.filterMap_cons_none given]
      exact ih draft
    | some piece =>
      rw [List.filterMap_cons_some given, List.foldlM_cons]
      simp only [Option.map_some, Draft.add]
      split
      · simp [bind, Except.bind]
      · exact ih
          { draft with
            hull := draft.hull.add piece.range
            cursor := piece.range.span.stop
            tokens := draft.tokens ++ piece.token?.toList }

/-- A node has no overlap if and only if nothing inside of its parts overlaps and a draft accepts
them one after the other. -/
theorem Assembly.overlap_ofParts_eq_none_iff (content : Content) (parts : List Part) :
    (ofParts content parts).overlap = none ↔
      (∀ part ∈ parts, part.innerOverlap = none) ∧
        ∃ draft, Draft.ofParts content.kind (parts.filterMap Part.draft?) = .ok draft :=
  overlapFrom_eq_none_iff { kind := content.kind } parts

/-! ## Parts of the typed tree -/

section

open ScriptTree.Part

/-- An expression, its comma and the rest of a list follow each other. -/
theorem Expression.fit_cons {low middle later high : Nat} {field : Field}
    {expression : Expression} {place : Option Range} {rest : List (Expression × Option Range)}
    {more : List Part} (fits : expression.assembly.Fits low middle)
    (comma : Fit middle later (Part.optional .comma place))
    (further : Fit later high (Expression.listParts field rest ++ more)) :
    Fit low high (Expression.listParts field ((expression, place) :: rest) ++ more) := by
  rw [Expression.listParts, List.cons_append, List.append_assoc]
  exact (fit_child fits).append (comma.append further)

/-- A parameter, its comma and the rest of a list follow each other. -/
theorem ParameterList.fit_cons {low middle later high : Nat} {parameter : Parameter}
    {place : Option Range} {rest : List (Parameter × Option Range)} {more : List Part}
    (fits : parameter.assembly.Fits low middle)
    (comma : Fit middle later (Part.optional .comma place))
    (further : Fit later high (ParameterList.parts rest ++ more)) :
    Fit low high (ParameterList.parts ((parameter, place) :: rest) ++ more) := by
  rw [ParameterList.parts, List.cons_append, List.append_assoc]
  exact (fit_child fits).append (comma.append further)

/-- A statement that may be missing fits between two offsets. -/
theorem Statement.fit_toList {low high : Nat} {statement : Option Statement} (le : low ≤ high)
    (fits : ∀ value ∈ statement, value.assembly.Fits low high) :
    Fit low high (Statement.listParts statement.toList) := by
  cases statement with
  | none => exact .nil le
  | some statement => exact fit_child (fits statement rfl)

/-- A call fits from its function to its closing parenthesis. -/
theorem Expression.fits_call {start low high : Nat} {function : Expression} {opening : Range}
    {items : List (Expression × Option Range)} {closing : Option Range}
    (fits : function.assembly.Fits start low) {middle : Nat} (opens : opening.Fits low middle)
    (fit : Fit middle high
      (Expression.listParts .arguments items ++ Part.optional .rParen closing)) :
    (Expression.call function opening items closing).assembly.Fits start high :=
  Assembly.fits_ofParts
    ((fit_child fits).append
      (fit_child (Assembly.fits_ofParts ((fit_token opens).append fit) nofun))) nofun

/-- A block fits as a part, whether it is missing or not. -/
theorem Block.fit_part {low high : Nat} {block : Block} (fits : block.assembly.Fits low high) :
    Fit low high [block.part] := by
  cases block with
  | missing anchor wasSought =>
    cases wasSought with
    | true => exact fit_child fits
    | false => exact fit_standIn rfl fits.range.le
  | written => exact fit_child fits

/-- A class item that may be missing fits between two offsets. -/
theorem ClassItem.fit_toList {low high : Nat} {item : Option ClassItem} (le : low ≤ high)
    (fits : ∀ value ∈ item, Fit low high [value.part]) :
    Fit low high (item.toList.map ClassItem.part) := by
  cases item with
  | none => exact .nil le
  | some item => exact fits item rfl

end

end ScriptTree
