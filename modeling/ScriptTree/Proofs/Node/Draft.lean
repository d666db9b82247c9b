import Mathlib.Data.List.Chain
import ScriptTree.Proofs.Node.Tiling

/-!
# What a draft makes of its parts

A draft takes parts in until one of them starts before the end of the part in
front of it; that part is refused, and with it the node.  A draft that took all
of its parts in has their tokens, and it runs from the first part that is not
empty to the last one.  Since the parts are in order, these are the part that
starts first and the part that ends last, wherever the empty parts stand.
-/

namespace ScriptTree

/-! ## The hull of ranges in order -/

namespace Range

/-- A range that runs from the smallest start of some ranges to their greatest end, and whose ends
are at the positions that the ranges have there. -/
structure IsHullOf (whole : Range) (ranges : List Range) : Prop extends whole.Spans ranges where
  start_eq : ∀ range ∈ ranges, range.span.start = whole.span.start → range.start = whole.start
  stop_eq : ∀ range ∈ ranges, range.span.stop = whole.span.stop → range.stop = whole.stop

variable {whole other : Range} {ranges : List Range}

/-- Ranges have one hull. -/
theorem IsHullOf.unique (hull : whole.IsHullOf ranges) (same : other.IsHullOf ranges) :
    whole = other := by
  have start : whole.span.start = other.span.start :=
    Option.some.inj (hull.min?_eq.symm.trans same.min?_eq)
  have stop : whole.span.stop = other.span.stop :=
    Option.some.inj (hull.max?_eq.symm.trans same.max?_eq)
  have startAt : whole.start = other.start := by
    rcases hull.start_mem with ⟨first, member, starts⟩
    rw [← hull.start_eq first member starts, same.start_eq first member (starts.trans start)]
  have stopAt : whole.stop = other.stop := by
    rcases hull.stop_mem with ⟨last, member, stops⟩
    rw [← hull.stop_eq last member stops, same.stop_eq last member (stops.trans stop)]
  rcases whole with ⟨⟨_, _⟩, _, _⟩
  rcases other with ⟨⟨_, _⟩, _, _⟩
  cases start
  cases stop
  cases startAt
  cases stopAt
  rfl

/-- There is no hull of no ranges. -/
theorem IsHullOf.ne_nil (hull : whole.IsHullOf ranges) : ranges ≠ [] := by
  rintro rfl
  rcases hull.start_mem with ⟨range, member, -⟩
  cases member

/-- Ranges that do not end before they start are in order as soon as neighbours are. -/
theorem pairwise_precedes (chain : ranges.IsChain Precedes)
    (forward : ∀ range ∈ ranges, range.span.start ≤ range.span.stop) :
    ranges.Pairwise Precedes := by
  induction ranges with
  | nil => exact .nil
  | cons first rest ih =>
    have later := ih chain.tail (List.forall_mem_of_forall_mem_cons forward)
    refine .cons (fun range member => ?_) later
    cases rest with
    | nil => cases member
    | cons next others =>
      have near : first.Precedes next := chain.rel
      rcases List.mem_cons.mp member with rfl | behind
      · exact near
      · -- without `forward`, a part that reaches back could stand between the two
        have reached := forward next (List.mem_cons_of_mem _ List.mem_cons_self)
        have far : next.Precedes range := List.rel_of_pairwise_cons later behind
        exact Nat.le_trans near (Nat.le_trans reached far)

/-- A stretch runs through from the start of one of its ranges to the end of one. -/
theorem exists_through_of_stretch? (stretched : stretch? ranges = some whole) :
    ∃ first ∈ ranges, ∃ last ∈ ranges, whole = first.through last := by
  cases ranges with
  | nil => cases stretched
  | cons first rest =>
    refine ⟨first, List.mem_cons_self, _, ?_, (Option.some.inj stretched).symm⟩
    cases ends : rest.getLast? with
    | none => exact List.mem_cons_self
    | some last => exact List.mem_cons_of_mem first (List.mem_of_getLast? ends)

/-- Ranges in order, none of them empty, start and end at different offsets, so the positions at
their least start and at their greatest end are those of one range each. -/
theorem isHullOf_of_stretch? (ordered : ranges.Pairwise Precedes)
    (filled : ∀ range ∈ ranges, range.isEmpty = false)
    (stretched : stretch? ranges = some whole) : whole.IsHullOf ranges := by
  have wide : ∀ range ∈ ranges, range.span.start < range.span.stop :=
    fun range member => range.isEmpty_eq_false_iff.mp (filled range member)
  have rising : ranges.Pairwise fun first second =>
      first.span.start < second.span.start ∧ first.span.stop < second.span.stop := by
    refine ordered.imp_of_mem fun {first second} here there before => ⟨?_, ?_⟩
    · exact Nat.lt_of_lt_of_le (wide first here) before
    · exact Nat.lt_of_le_of_lt before (wide second there)
  have starts : (ranges.map (·.span.start)).Nodup :=
    List.pairwise_map.mpr (rising.imp fun both => Nat.ne_of_lt both.1)
  have stops : (ranges.map (·.span.stop)).Nodup :=
    List.pairwise_map.mpr (rising.imp fun both => Nat.ne_of_lt both.2)
  have spans := spans_of_stretch? ordered (fun range member => Nat.le_of_lt (wide range member))
    stretched
  rcases exists_through_of_stretch? stretched with ⟨first, firstMember, last, lastMember, rfl⟩
  refine ⟨spans, fun range member same => ?_, fun range member same => ?_⟩
  · rw [List.inj_on_of_nodup_map starts member firstMember same]
    rfl
  · rw [List.inj_on_of_nodup_map stops member lastMember same]
    rfl

/-- What ends with a range ends where that does. -/
theorem endOf_concat (offset : Nat) (init : List Range) (last : Range) :
    endOf offset (init ++ [last]) = last.span.stop := by
  simp [endOf]

/-- Ranges precede each other up to the last one if they did so before and it starts no earlier. -/
theorem isChain_concat (init : List Range) (last : Range) :
    (init ++ [last]).IsChain Precedes ↔
      init.IsChain Precedes ∧ endOf 0 init ≤ last.span.start := by
  rw [List.isChain_append, and_iff_right (List.isChain_singleton last)]
  refine and_congr_right fun _ => ?_
  cases ends : init.getLast? <;> simp [endOf, ends, Precedes]

end Range

/-! ## Taking parts in -/

namespace Draft

variable {kind : NodeKind} {draft next : Draft} {parts before : List Part} {part : Part}
  {overlap : Overlap} {fallback range : Range}

/-- The draft with one more part. -/
def extended (draft : Draft) (part : Part) : Draft :=
  { draft with
    hull := draft.hull.add part.range
    cursor := part.range.span.stop
    tokens := draft.tokens ++ part.token?.toList }

/-- A part is taken exactly when it starts no earlier than the last one ended. -/
theorem add_eq_ok_iff :
    draft.add part = .ok next ↔
      draft.cursor ≤ part.range.span.start ∧ next = draft.extended part := by
  rw [add]
  split
  · rename_i early
    simp [Nat.not_le.mpr early]
  · rename_i late
    simp [Nat.le_of_not_lt late, eq_comm, extended]

/-- A part is refused exactly when it starts before the end of the last one, which is reported. -/
theorem add_eq_error_iff :
    draft.add part = .error overlap ↔
      part.range.span.start < draft.cursor ∧
        overlap = ⟨draft.kind, part.range.span.start, draft.cursor⟩ := by
  rw [add]
  split
  · rename_i early
    simp [early, eq_comm]
  · rename_i late
    simp [late]

/-- The last part is added to what the others made. -/
theorem ofParts_concat (kind : NodeKind) (parts : List Part) (part : Part) :
    ofParts kind (parts ++ [part]) = ofParts kind parts >>= fun draft => draft.add part := by
  simp [ofParts, List.foldlM_append]

/-- What a draft has become when it took in some parts, all of them in order. -/
def collected (kind : NodeKind) (parts : List Part) : Draft where
  kind
  hull := Hull.ofRanges (parts.map Part.range)
  cursor := Range.endOf 0 (parts.map Part.range)
  tokens := parts.filterMap Part.token?

/-- The last part extends what was collected of the others. -/
theorem collected_concat (kind : NodeKind) (parts : List Part) (part : Part) :
    collected kind (parts ++ [part]) = (collected kind parts).extended part := by
  cases token : part.token? <;>
    simp [collected, extended, Hull.ofRanges, Range.endOf_concat, List.filterMap_append, token]

/-- A draft takes in parts that are in order, and no others. -/
theorem ofParts_eq_ok_iff :
    ofParts kind parts = .ok draft ↔
      (parts.map Part.range).IsChain Range.Precedes ∧ draft = collected kind parts := by
  -- from the end, since what a draft has become is known by the parts in front
  induction parts using List.reverseRecOn generalizing draft with
  | nil =>
    constructor
    · rintro ⟨⟩
      exact ⟨.nil, rfl⟩
    · rintro ⟨-, rfl⟩
      rfl
  | append_singleton parts part ih =>
    rw [ofParts_concat, List.map_append, List.map_singleton, Range.isChain_concat,
      collected_concat]
    constructor
    · intro accepted
      cases taken : ofParts kind parts with
      | error overlap =>
        rw [taken] at accepted
        cases accepted
      | ok earlier =>
        rw [taken] at accepted
        rcases ih.mp taken with ⟨chain, rfl⟩
        rcases add_eq_ok_iff.mp accepted with ⟨late, rfl⟩
        exact ⟨⟨chain, late⟩, rfl⟩
    · rintro ⟨⟨chain, late⟩, rfl⟩
      rw [ih.mpr ⟨chain, rfl⟩]
      exact add_eq_ok_iff.mpr ⟨late, rfl⟩

/-- The parts of `before` are in order, but `part` starts before the end of the last one of them. -/
def OverlapsAt (kind : NodeKind) (before : List Part) (part : Part) (overlap : Overlap) : Prop :=
  (before.map Part.range).IsChain Range.Precedes ∧
    ∃ previous ∈ before.getLast?, part.range.span.start < previous.range.span.stop ∧
      overlap = ⟨kind, part.range.span.start, previous.range.span.stop⟩

/-- The part that is refused is the first one that overlaps. -/
theorem exists_refused_iff :
    (∃ draft, ofParts kind before = .ok draft ∧ draft.add part = .error overlap) ↔
      OverlapsAt kind before part overlap := by
  simp only [ofParts_eq_ok_iff, and_assoc, exists_and_left, exists_eq_left, OverlapsAt,
    add_eq_error_iff]
  refine and_congr_right fun _ => ?_
  rcases List.eq_nil_or_concat' before with rfl | ⟨init, previous, rfl⟩
  · simp [collected, Range.endOf]
  · simp [collected, Range.endOf_concat]

/-- After a refusal the further parts do not matter. -/
theorem ofParts_append_of_refused {after : List Part} (taken : ofParts kind before = .ok draft)
    (refused : draft.add part = .error overlap) :
    ofParts kind (before ++ part :: after) = .error overlap := by
  rw [ofParts] at taken ⊢
  rw [List.foldlM_append, taken]
  change (draft.add part >>= fun next => after.foldlM add next) = _
  rw [refused]
  rfl

/-- What is reported is the first part that starts before the end of the one before it. -/
theorem ofParts_eq_error_iff :
    ofParts kind parts = .error overlap ↔
      ∃ before part after, parts = before ++ part :: after ∧
        OverlapsAt kind before part overlap := by
  simp only [← exists_refused_iff]
  constructor
  · intro failed
    induction parts using List.reverseRecOn with
    | nil => cases failed
    | append_singleton parts last ih =>
      rw [ofParts_concat] at failed
      cases taken : ofParts kind parts with
      | error earlier =>
        rw [taken] at failed
        cases failed
        rcases ih taken with ⟨before, part, after, rfl, refused⟩
        exact ⟨before, part, after ++ [last], List.append_assoc .., refused⟩
      | ok draft =>
        rw [taken] at failed
        exact ⟨parts, last, [], rfl, draft, taken, failed⟩
  · rintro ⟨before, part, after, rfl, draft, taken, refused⟩
    exact ofParts_append_of_refused taken refused

example : ofParts .block [.child ⟨⟨5, 8⟩, ⟨0, 5⟩, ⟨0, 8⟩⟩, .child ⟨⟨2, 3⟩, ⟨0, 2⟩, ⟨0, 3⟩⟩] =
    .error ⟨.block, 2, 8⟩ :=
  rfl

/-! ## The finished node -/

/-- The range of a node with parts at `ranges`: empty parts do not count where there is another
one, and `fallback` counts only where there is no part. -/
inductive IsRangeOf (fallback : Range) : List Range → Range → Prop
  | spanned {ranges whole} (hull : whole.IsHullOf (Range.wideOf ranges)) :
    IsRangeOf fallback ranges whole
  | empty {first rest} (empties : ∀ range ∈ first :: rest, range.isEmpty = true) :
    IsRangeOf fallback (first :: rest) first
  | absent : IsRangeOf fallback [] fallback

/-- The parts of a node determine its range. -/
theorem IsRangeOf.unique {ranges : List Range} {other : Range}
    (made : IsRangeOf fallback ranges range) (same : IsRangeOf fallback ranges other) :
    range = other := by
  cases made with
  | spanned hull =>
    cases same with
    | spanned again => exact hull.unique again
    | empty empties => exact absurd (Range.wideOf_eq_nil_iff.mpr empties) hull.ne_nil
    | absent => exact absurd rfl hull.ne_nil
  | empty empties =>
    cases same with
    | spanned hull => exact absurd (Range.wideOf_eq_nil_iff.mpr empties) hull.ne_nil
    | empty => rfl
  | absent =>
    cases same with
    | spanned hull => exact absurd rfl hull.ne_nil
    | absent => rfl

/-- Parts in order are finished with the range the rules give them. -/
theorem isRangeOf_finish_collected (kind : NodeKind) (fallback : Range)
    (chain : (parts.map Part.range).IsChain Range.Precedes)
    (forward : ∀ part ∈ parts, part.range.span.start ≤ part.range.span.stop) :
    IsRangeOf fallback (parts.map Part.range) ((collected kind parts).finish fallback).1 := by
  have range : ((collected kind parts).finish fallback).1 =
      ((Range.stretch? (Range.wideOf (parts.map Part.range))).or
        ((parts.map Part.range).find? Range.isEmpty)).getD fallback := by
    rw [finish, Hull.range?, collected, Hull.ofRanges, Hull.stretch_foldl, Hull.firstEmpty_foldl]
    rfl
  have ordered := Range.pairwise_precedes chain (List.forall_mem_map.mpr forward)
  rw [range]
  cases stretched : Range.stretch? (Range.wideOf (parts.map Part.range)) with
  | some whole =>
    refine .spanned (Range.isHullOf_of_stretch? (ordered.filter _) ?_ stretched)
    exact fun range member => (Range.mem_wideOf.mp member).2
  | none =>
    have empties := Range.wideOf_eq_nil_iff.mp (Range.stretch?_eq_none_iff.mp stretched)
    cases ranges : parts.map Part.range with
    | nil => exact .absent
    | cons first rest =>
      rw [ranges] at empties
      rw [List.find?_cons_of_pos (empties first List.mem_cons_self)]
      exact .empty empties

/-- A draft refuses the first of its parts that starts before the end of the part in front of it.
If there is none, then the node has the tokens among the parts, in their order, and it runs from
the least start to the greatest end of the parts that are not empty; it is where the first part is
if all of them are empty, and `fallback` if there are no parts. -/
theorem ofParts_laws (kind : NodeKind) (parts : List Part)
    (forward : ∀ part ∈ parts, part.range.span.start ≤ part.range.span.stop) :
    (∀ overlap, ofParts kind parts = .error overlap ↔
        ∃ before part after, parts = before ++ part :: after ∧
          OverlapsAt kind before part overlap) ∧
      (∀ before part after, parts = before ++ part :: after → ∀ overlap,
        (∃ draft, ofParts kind before = .ok draft ∧ draft.add part = .error overlap) ↔
          OverlapsAt kind before part overlap) ∧
      ∀ draft, ofParts kind parts = .ok draft → ∀ fallback,
        (draft.finish fallback).2 = parts.filterMap Part.token? ∧
          ∀ range, (draft.finish fallback).1 = range ↔
            IsRangeOf fallback (parts.map Part.range) range := by
  refine ⟨fun overlap => ofParts_eq_error_iff, fun _ _ _ _ _ => exists_refused_iff, ?_⟩
  intro draft accepted fallback
  rcases ofParts_eq_ok_iff.mp accepted with ⟨chain, rfl⟩
  refine ⟨rfl, fun range => ?_⟩
  have made := isRangeOf_finish_collected kind fallback chain forward
  constructor
  · rintro rfl
    exact made
  · exact made.unique

/-- A node on two lines, with empty parts in front of its first token and in front of its last. -/
theorem ofParts_laws_empty_ends :
    (∀ part ∈ [Part.child (.emptyAt 3 ⟨0, 3⟩), .token ⟨.kwReturn, ⟨⟨5, 11⟩, ⟨1, 1⟩, ⟨1, 7⟩⟩⟩,
          .child ⟨⟨12, 13⟩, ⟨1, 8⟩, ⟨1, 9⟩⟩, .child (.emptyAt 13 ⟨1, 9⟩),
          .token ⟨.semicolon, ⟨⟨18, 19⟩, ⟨2, 4⟩, ⟨2, 5⟩⟩⟩],
        part.range.span.start ≤ part.range.span.stop) ∧
      IsRangeOf default
        ([.child (.emptyAt 3 ⟨0, 3⟩), .token ⟨.kwReturn, ⟨⟨5, 11⟩, ⟨1, 1⟩, ⟨1, 7⟩⟩⟩,
          .child ⟨⟨12, 13⟩, ⟨1, 8⟩, ⟨1, 9⟩⟩, .child (.emptyAt 13 ⟨1, 9⟩),
          .token ⟨.semicolon, ⟨⟨18, 19⟩, ⟨2, 4⟩, ⟨2, 5⟩⟩⟩].map Part.range)
        ⟨⟨5, 19⟩, ⟨1, 1⟩, ⟨2, 5⟩⟩ :=
  ⟨by decide,
    (((ofParts_laws .returnStatement _ (by decide)).2.2 _ rfl default).2 _).mp rfl⟩

end Draft

/-! ## Nodes of a tree -/

/-- Where no part overlaps the one in front of it, an assembled node is what its draft is finished
to. -/
theorem Assembly.finish_draft {content : Content} {parts : List Part} {draft : Draft}
    (accepted : Draft.ofParts content.kind (parts.filterMap Part.draft?) = .ok draft) :
    draft.finish default =
      ((ofParts content parts).node.range, (ofParts content parts).node.tokens) := by
  rcases Draft.ofParts_eq_ok_iff.mp accepted with ⟨-, rfl⟩
  have ranges : (parts.filterMap Part.draft?).map Draft.Part.range =
      parts.filterMap Part.range? := by
    rw [List.map_filterMap]
    exact List.filterMap_congr fun part _ => (part.range?_eq_draft?).symm
  have tokens : (parts.filterMap Part.draft?).filterMap Draft.Part.token? =
      parts.filterMap Part.token? := by
    rw [List.filterMap_filterMap]
    exact List.filterMap_congr fun part _ => by cases part <;> rfl
  rw [Draft.finish, Draft.collected, ranges, tokens]
  rfl

end ScriptTree
