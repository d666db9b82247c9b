import ScriptTree.Text.Bytes

/-!
# Positions and ranges

A `Range` holds the byte span of a piece of source text together with the line
and column of both ends.  Lines and columns start at zero, and columns count
bytes.  Ranges are half open: a range covers its start and not its end, so an
empty range covers nothing.
-/

namespace ScriptTree

/-- A line and a column, both counted from zero. -/
structure Position where
  line : Nat
  column : Nat
deriving DecidableEq, Inhabited

namespace Position

/-- Positions are ordered by line, then by column. -/
def Before (first second : Position) : Prop :=
  first.line < second.line ∨ (first.line = second.line ∧ first.column < second.column)

instance (first second : Position) : Decidable (Before first second) :=
  inferInstanceAs (Decidable (_ ∨ (_ ∧ _)))

/-- Compares positions by their lines, and on one line by their columns. -/
def compare (first second : Position) : Ordering :=
  if Before first second then .lt else if first = second then .eq else .gt

/-- A position as it is displayed, which is also how it is read. -/
def display (position : Position) : String :=
  s!"{position.line}:{position.column}"

end Position

/-- The bytes from `start` up to, not including, `stop`. -/
structure Span where
  start : Nat
  stop : Nat
deriving DecidableEq, Inhabited

/-- A stretch of a source, in bytes and in lines and columns. -/
structure Range where
  span : Span
  start : Position
  stop : Position
deriving DecidableEq, Inhabited

namespace Range

/-- The range without width at one offset, where something absent would stand. -/
def emptyAt (offset : Nat) (position : Position) : Range :=
  ⟨⟨offset, offset⟩, position, position⟩

/-- The empty range at the end of `range`. -/
def after (range : Range) : Range :=
  emptyAt range.span.stop range.stop

/-- From the start of `first` to the end of `last`. -/
def through (first last : Range) : Range :=
  ⟨⟨first.span.start, last.span.stop⟩, first.start, last.stop⟩

/-- A span that ends where it starts, or before that, holds nothing. -/
def isEmpty (range : Range) : Bool :=
  range.span.stop ≤ range.span.start

/-- How many bytes a range holds. -/
def length (range : Range) : Nat :=
  range.span.stop - range.span.start

/-- A range that is not empty holds a byte. -/
theorem isEmpty_eq_false_iff (range : Range) :
    range.isEmpty = false ↔ range.span.start < range.span.stop := by
  simp [isEmpty]

@[simp]
theorem isEmpty_emptyAt (offset : Nat) (position : Position) :
    (emptyAt offset position).isEmpty := by
  simp [isEmpty, emptyAt]

/-- The source text under a range, which is empty if the range does not fit the source. -/
def text (range : Range) (source : String) : String :=
  String.ofList ((Text.slice range.span.start range.span.stop source.toList).getD [])

/-- Whether a position is in a range.  Its end is not, so nothing is in an empty one. -/
def covers (range : Range) (position : Position) : Bool :=
  !range.isEmpty && !decide (position.Before range.start) && decide (position.Before range.stop)

/-- A range by the positions of its ends. -/
def display (range : Range) : String :=
  s!"{range.start.display}..{range.stop.display}"

end Range

end ScriptTree
