import ScriptTree.Node.Kind
import ScriptTree.Lexeme

/-!
# Drafts of nodes

The parts of a node are given to a draft in source order.  Each part has to
start where the part before it ends, or later.  The finished node runs from its
first part that is not empty to its last one; empty parts keep the order but do
not stretch the node, and they decide its place only where there is nothing
else.
-/

namespace ScriptTree

/-- A part of a node that starts before the end of the part in front of it. -/
structure Overlap where
  kind : NodeKind
  start : Nat
  cursor : Nat
deriving DecidableEq

/-- What an overlap of two children says to its reader. -/
def Overlap.message (overlap : Overlap) : String :=
  s!"{overlap.kind.label}: child at {overlap.start} starts before the end of the previous one " ++
    s!"({overlap.cursor})"

/-- The ranges of some parts, boiled down to what decides the range of the whole. -/
structure Hull where
  /-- From the first part that is not empty to the last one. -/
  stretch : Option Range := none
  firstEmpty : Option Range := none
deriving DecidableEq

namespace Hull

/-- The hull with one more range.  Only ranges that are not empty stretch it. -/
def add (hull : Hull) (range : Range) : Hull :=
  if range.isEmpty then
    { hull with firstEmpty := hull.firstEmpty.or (some range) }
  else
    match hull.stretch with
    | none => { hull with stretch := some range }
    | some whole => { hull with stretch := some (whole.through range) }

/-- The hull of ranges, in order. -/
def ofRanges (ranges : List Range) : Hull :=
  ranges.foldl add {}

/-- The range of a hull: from the first range to the last, or else the first empty one. -/
def range? (hull : Hull) : Option Range :=
  hull.stretch.or hull.firstEmpty

/-- The first empty range stays the first one. -/
theorem firstEmpty_foldl (ranges : List Range) (hull : Hull) :
    (ranges.foldl add hull).firstEmpty = hull.firstEmpty.or (ranges.find? Range.isEmpty) := by
  induction ranges generalizing hull with
  | nil => rw [List.foldl_nil, List.find?_nil, Option.or_none]
  | cons range rest ih =>
    rw [List.foldl_cons, ih, add, List.find?_cons]
    cases range.isEmpty with
    | true => rw [if_pos rfl, Option.or_assoc, Option.some_or]
    | false => cases hull.stretch <;> rfl

end Hull

/-- A node under construction. -/
structure Draft where
  kind : NodeKind
  hull : Hull := {}
  /-- The end of the last part. -/
  cursor : Nat := 0
  tokens : List PlacedToken := []

namespace Draft

/-- What is added to a node: a token of its own, or a child. -/
inductive Part where
  | token (token : PlacedToken)
  | child (range : Range)

/-- Where a part is. -/
def Part.range : Part → Range
  | .token placed => placed.range
  | .child range => range

/-- The token that a part is, if it is one. -/
def Part.token? : Part → Option PlacedToken
  | .token placed => some placed
  | .child _ => none

/-- The draft with one more part, which must not begin before the last one ends. -/
def add (draft : Draft) (part : Part) : Except Overlap Draft :=
  if part.range.span.start < draft.cursor then
    .error ⟨draft.kind, part.range.span.start, draft.cursor⟩
  else
    .ok
      { draft with
        hull := draft.hull.add part.range
        cursor := part.range.span.stop
        tokens := draft.tokens ++ part.token?.toList }

/-- The draft of a node from its parts, or the first overlap among them. -/
def ofParts (kind : NodeKind) (parts : List Part) : Except Overlap Draft :=
  parts.foldlM add { kind }

/-- The range and the tokens of the node; `fallback` is the range of a node without parts. -/
def finish (draft : Draft) (fallback : Range) : Range × List PlacedToken :=
  (draft.hull.range?.getD fallback, draft.tokens)

end Draft

end ScriptTree
