import ScriptTree.Text.LineIndex

/-!
# The line of an offset

The search for the line of an offset finds the one line that starts at the offset
or in front of it and is the last one to do so.  A walk over the line starts from
the first one on finds the same line, and goes along with the text.  As the line
starts increase, a later offset is on a later line, or in a later column of the
same line.

The lines themselves are what the text is split into at its line feeds.  A position
belongs to an offset if and only if its line is one of them and its column is at
most the length of that line, where the line feed stands; the last line has no
line feed, and its columns go on behind the end of the text.
-/

namespace ScriptTree

namespace Position

/-- No position is before itself. -/
theorem not_before_self (position : Position) : ¬position.Before position := by
  unfold Before
  omega

/-- Of two positions at most one is before the other. -/
theorem Before.not_before {first second : Position} (before : first.Before second) :
    ¬second.Before first := by
  unfold Before at *
  omega

end Position

/-- A range covers the positions from its start to before its stop, if it is not empty. -/
theorem Range.covers_iff {range : Range} {position : Position} : range.covers position = true ↔
    range.isEmpty = false ∧ ¬position.Before range.start ∧ position.Before range.stop := by
  simp [covers, and_assoc]

namespace LineIndex

variable {index : LineIndex} {offset line start : Nat}

/-! ## Line starts -/

/-- The offsets at which the second and later lines start. -/
def laterStarts (index : LineIndex) : List Nat :=
  index.starts.toList.tail

/-- The lines after the first start behind the line feeds of the source. -/
theorem laterStarts_ofSource (source : String) :
    (ofSource source).laterStarts = startsFrom 0 source.toList :=
  rfl

/-- All the starts are zero and the starts of the later lines. -/
theorem toList_starts (index : LineIndex) : index.starts.toList = 0 :: index.laterStarts := by
  have first := index.first
  rw [← Array.getElem?_toList] at first
  rw [laterStarts]
  cases found : index.starts.toList with
  | nil =>
    rw [found] at first
    cases first
  | cons start later =>
    rw [found] at first
    cases first
    rfl

/-- There is one line more than there are later starts. -/
theorem lineCount_eq (index : LineIndex) : index.lineCount = index.laterStarts.length + 1 := by
  rw [lineCount, ← Array.length_toList, toList_starts, List.length_cons]

/-- Texts with line feeds in the same places have the same line index. -/
theorem ofSource_congr {first second : String}
    (same : startsFrom 0 first.toList = startsFrom 0 second.toList) :
    ofSource first = ofSource second := by
  simp only [ofSource, same]

/-! ## The last line that starts in front of an offset -/

/-- A later line starts later. -/
theorem start_lt_start {other next : Nat} (starts : index.starts[line]? = some start)
    (later : index.starts[other]? = some next) (ordered : line < other) : start < next := by
  rcases Array.getElem?_eq_some_iff.mp starts with ⟨within, rfl⟩
  rcases Array.getElem?_eq_some_iff.mp later with ⟨reached, rfl⟩
  exact Search.getElem_lt_getElem index.ascending ordered reached

/-- A line behind the line of an offset starts behind the offset. -/
theorem Reaches.lt_start {other next : Nat} (reaches : index.Reaches offset line start)
    (later : index.starts[other]? = some next) (ordered : line < other) : offset < next := by
  rcases Nat.lt_or_eq_of_le (Nat.succ_le_of_lt ordered) with further | rfl
  · rcases Array.getElem?_eq_some_iff.mp later with ⟨reached, -⟩
    have within : line + 1 < index.starts.size := Nat.lt_trans further reached
    have starts := Array.getElem?_eq_getElem within
    exact Nat.lt_trans (reaches.last _ starts) (start_lt_start starts later further)
  · exact reaches.last next later

/-- There is one line of an offset. -/
theorem Reaches.unique {other next : Nat} (reaches : index.Reaches offset line start)
    (alsoReaches : index.Reaches offset other next) : line = other ∧ start = next := by
  have same : line = other := by
    rcases Nat.lt_trichotomy line other with before | same | after
    · exact absurd (reaches.lt_start alsoReaches.starts before) (Nat.not_lt.mpr alsoReaches.reached)
    · exact same
    · exact absurd (alsoReaches.lt_start reaches.starts after) (Nat.not_lt.mpr reaches.reached)
  subst same
  exact ⟨rfl, Option.some.inj (reaches.starts.symm.trans alsoReaches.starts)⟩

/-- The search for the line of an offset always finds one. -/
theorem position?_eq_some_position (index : LineIndex) (offset : Nat) :
    index.position? offset = some (index.position offset) :=
  (Option.some_get _).symm

/-- The position of an offset is on a line that reaches it, as far into it as the offset is. -/
theorem exists_reaches_position (index : LineIndex) (offset : Nat) :
    ∃ start, index.Reaches offset (index.position offset).line start ∧
      (index.position offset).column = offset - start := by
  rcases index.exists_position? offset with ⟨line, start, reaches, found⟩
  rw [position?_eq_some_position, Option.some.injEq] at found
  rw [found]
  exact ⟨start, reaches, rfl⟩

/-- A line that reaches an offset gives its position, so there is only one such line. -/
theorem Reaches.position_eq (reaches : index.Reaches offset line start) :
    index.position offset = ⟨line, offset - start⟩ := by
  rcases index.exists_position? offset with ⟨other, next, alsoReaches, found⟩
  rcases reaches.unique alsoReaches with ⟨rfl, rfl⟩
  rwa [position?_eq_some_position, Option.some.injEq] at found

/-! ## Walking along the line starts -/

/-- Walk on from the line that starts at `start` to the line that holds `offset`. -/
def locate (line start offset : Nat) : List Nat → Position
  | [] => ⟨line, offset - start⟩
  | next :: later =>
    if next ≤ offset then locate (line + 1) next offset later else ⟨line, offset - start⟩

/-- The walk ends on the line of the offset. -/
theorem exists_reaches_locate {later : List Nat}
    (ahead : ∀ place : Nat, index.starts[line + place]? = (start :: later)[place]?)
    (reached : start ≤ offset) :
    ∃ last start', index.Reaches offset last start' ∧
      locate line start offset later = ⟨last, offset - start'⟩ := by
  induction later generalizing line start with
  | nil =>
    refine ⟨line, start, ⟨ahead 0, reached, fun next further => ?_⟩, rfl⟩
    rw [ahead 1] at further
    cases further
  | cons next later ih =>
    rw [locate]
    split
    · rename_i passed
      refine ih (fun place => ?_) passed
      rw [Nat.add_assoc, Nat.add_comm 1, ahead (place + 1), List.getElem?_cons_succ]
    · rename_i behind
      refine ⟨line, start, ⟨ahead 0, reached, fun other further => ?_⟩, rfl⟩
      rw [ahead 1] at further
      cases further
      exact Nat.lt_of_not_le behind

/-- A walk from the first line on finds the position that the search finds. -/
theorem position_eq_locate (index : LineIndex) (offset : Nat) :
    index.position offset = locate 0 0 offset index.laterStarts := by
  have ahead (place : Nat) : index.starts[0 + place]? = (0 :: index.laterStarts)[place]? := by
    rw [← toList_starts, Nat.zero_add, Array.getElem?_toList]
  rcases exists_reaches_locate ahead (Nat.zero_le offset) with ⟨last, start, reaches, found⟩
  rw [found, reaches.position_eq]

/-! ## The order of positions -/

/-- A later offset has a later position. -/
theorem position_before_position (index : LineIndex) {early late : Nat} (ordered : early < late) :
    (index.position early).Before (index.position late) := by
  rcases index.exists_reaches_position early with ⟨start, reaches, column⟩
  rcases index.exists_reaches_position late with ⟨next, alsoReaches, laterColumn⟩
  have reached := reaches.reached
  rcases Nat.lt_trichotomy (index.position early).line (index.position late).line with
    before | same | after
  · exact .inl before
  · have starts := reaches.starts.symm.trans (same ▸ alsoReaches.starts)
    cases Option.some.inj starts
    exact .inr ⟨same, by omega⟩
  · have passed := alsoReaches.lt_start reaches.starts after
    omega

/-- Positions are in the order of their offsets. -/
theorem position_before_position_iff (index : LineIndex) {first second : Nat} :
    (index.position first).Before (index.position second) ↔ first < second := by
  refine ⟨fun before => ?_, index.position_before_position⟩
  rcases Nat.lt_trichotomy first second with ordered | rfl | reversed
  · exact ordered
  · exact absurd before (Position.not_before_self _)
  · exact absurd before (index.position_before_position reversed).not_before

/-- Ranges cover the positions of the offsets in their spans. -/
theorem covers_range_position_iff (index : LineIndex) (span : Span) (offset : Nat) :
    (index.range span).covers (index.position offset) = true ↔
      span.start ≤ offset ∧ offset < span.stop := by
  rw [Range.covers_iff, Range.isEmpty_eq_false_iff, range, position_before_position_iff,
    position_before_position_iff]
  dsimp only
  omega

/-- An offset is found again from its position. -/
theorem offset?_position (index : LineIndex) {offset : Nat} (representable : offset < offsetCount) :
    index.offset? (index.position offset) = some offset := by
  rcases index.exists_reaches_position offset with ⟨start, reaches, column⟩
  rw [offset?, reaches.starts, column, Option.map_some, Nat.add_sub_cancel' reaches.reached,
    Nat.mod_eq_of_lt representable]

/-! ## Lines of the text -/

/-- The offsets at which lines start, the first one at `start` and each of the others behind the
line feed of the one before it. -/
def layOut (start : Nat) : List (List Char) → List Nat
  | [] => []
  | line :: later => start :: layOut (start + Text.byteLength line + 1) later

/-- Each line is laid out at one offset. -/
theorem length_layOut (start : Nat) (lines : List (List Char)) :
    (layOut start lines).length = lines.length := by
  induction lines generalizing start with
  | nil => rfl
  | cons line later ih => rw [layOut, List.length_cons, List.length_cons, ih]

/-- Where the next line starts, if there is one. -/
theorem getElem?_succ_layOut {lines : List (List Char)} {first start place : Nat}
    {line : List Char} (found : lines[place]? = some line)
    (starts : (layOut first lines)[place]? = some start) :
    (layOut first lines)[place + 1]? =
      if place + 1 < lines.length then some (start + Text.byteLength line + 1) else none := by
  induction lines generalizing first place with
  | nil => cases found
  | cons head later ih =>
    cases place with
    | zero =>
      cases found
      cases starts
      cases later <;> rfl
    | succ place =>
      rw [layOut, List.getElem?_cons_succ] at starts ⊢
      rw [ih found starts, List.length_cons]
      simp only [Nat.add_lt_add_iff_right]

/-- The starts behind line feeds are the offsets of the laid out lines, less the first. -/
theorem startsFrom_eq_tail (offset : Nat) (text : List Char) :
    startsFrom offset text = (layOut offset (text.splitOn '\n')).tail := by
  induction text generalizing offset with
  | nil => rfl
  | cons character rest ih =>
    rcases List.exists_cons_of_ne_nil (List.splitOnP_ne_nil (· == '\n') rest) with
      ⟨line, later, lines⟩
    rw [startsFrom, ih, List.splitOn, List.splitOn, List.splitOnP_cons_eq_if_modifyHead, lines]
    by_cases feed : character = '\n'
    · subst feed
      rfl
    · simp [feed, layOut, Text.byteLength, Nat.add_assoc]

/-- The starts of a source are the offsets of its lines laid out one behind the other. -/
theorem toList_starts_ofSource (source : String) :
    (ofSource source).starts.toList = layOut 0 (source.toList.splitOn '\n') := by
  rcases List.exists_cons_of_ne_nil (List.splitOnP_ne_nil (· == '\n') source.toList) with
    ⟨line, later, lines⟩
  rw [toList_starts, laterStarts_ofSource, startsFrom_eq_tail, List.splitOn, lines]
  rfl

/-- A line holds the offsets of the columns up to its line feed, and the last line of all columns.
-/
theorem reaches_iff {source : String} {place start column : Nat} {line : List Char}
    (found : (source.toList.splitOn '\n')[place]? = some line)
    (starts : (ofSource source).starts[place]? = some start) :
    (ofSource source).Reaches (start + column) place start ↔
      column ≤ Text.byteLength line ∨ place + 1 = (source.toList.splitOn '\n').length := by
  have laidOut := starts
  rw [← Array.getElem?_toList, toList_starts_ofSource] at laidOut
  have next := getElem?_succ_layOut found laidOut
  rw [← toList_starts_ofSource, Array.getElem?_toList] at next
  have within := (List.getElem?_eq_some_iff.mp found).1
  constructor
  · intro reaches
    by_cases more : place + 1 < (source.toList.splitOn '\n').length
    · rw [if_pos more] at next
      have behind := reaches.last _ next
      exact .inl (by omega)
    · exact .inr (by omega)
  · intro holds
    refine ⟨starts, Nat.le_add_right _ _, fun other further => ?_⟩
    rw [next] at further
    split at further
    · cases further
      omega
    · cases further

/-- A sum that has wrapped around is the offset of another position. -/
theorem position_wrapped_ne (index : LineIndex) {position : Position} {start : Nat}
    (starts : index.starts[position.line]? = some start)
    (wraps : offsetCount ≤ start + position.column) :
    index.position ((start + position.column) % offsetCount) ≠ position := by
  intro back
  rcases index.exists_reaches_position ((start + position.column) % offsetCount) with
    ⟨other, reaches, column⟩
  rw [back] at reaches column
  cases Option.some.inj (starts.symm.trans reaches.starts)
  have less : (start + position.column) % offsetCount < offsetCount :=
    Nat.mod_lt _ (Nat.two_pow_pos 64)
  have reached := reaches.reached
  omega

/-- The offset of a position has that position if and only if its line has a place for its column
and the sum of both does not wrap around. -/
theorem position_offset?_eq_some_iff (source : String) (position : Position) :
    ((ofSource source).offset? position).map (ofSource source).position = some position ↔
      ∃ line start, (source.toList.splitOn '\n')[position.line]? = some line ∧
        (ofSource source).starts[position.line]? = some start ∧
        start + position.column < offsetCount ∧
        (position.column ≤ Text.byteLength line ∨
          position.line + 1 = (source.toList.splitOn '\n').length) := by
  have sizes : (ofSource source).starts.size = (source.toList.splitOn '\n').length := by
    rw [← Array.length_toList, toList_starts_ofSource, length_layOut]
  constructor
  · intro same
    rcases Option.map_eq_some_iff.mp same with ⟨offset, found, back⟩
    rcases Option.map_eq_some_iff.mp found with ⟨start, starts, rfl⟩
    have within := (Array.getElem?_eq_some_iff.mp starts).1
    rw [sizes] at within
    have line := List.getElem?_eq_getElem within
    have fits : start + position.column < offsetCount :=
      Nat.lt_of_not_le fun wraps => position_wrapped_ne _ starts wraps back
    rw [Nat.mod_eq_of_lt fits] at back
    rcases (ofSource source).exists_reaches_position (start + position.column) with
      ⟨other, reaches, -⟩
    rw [back] at reaches
    cases Option.some.inj (starts.symm.trans reaches.starts)
    exact ⟨_, start, line, starts, fits, (reaches_iff line starts).mp reaches⟩
  · rintro ⟨line, start, found, starts, fits, holds⟩
    have reaches := (reaches_iff found starts).mpr holds
    rw [offset?, starts, Option.map_some, Option.map_some, Nat.mod_eq_of_lt fits,
      reaches.position_eq, Nat.add_sub_cancel_left]

/-- The laws of a line index.  Every offset has a position, and a later offset has a later one,
behind the end of the text as well.  An offset is found again from its position, and a position from
its offset if its line has a place for its column and there is such an offset.  A range covers the
positions of the offsets in its span. -/
theorem position_laws (source : String) :
    let index := ofSource source
    let lines := source.toList.splitOn '\n'
    (∀ offset, index.position? offset = some (index.position offset)) ∧
      (∀ first second, first < second →
        (index.position first).Before (index.position second)) ∧
      (∀ offset, offset < offsetCount → index.offset? (index.position offset) = some offset) ∧
      (∀ position, (index.offset? position).map index.position = some position ↔
        ∃ line start, lines[position.line]? = some line ∧
          index.starts[position.line]? = some start ∧ start + position.column < offsetCount ∧
          (position.column ≤ Text.byteLength line ∨ position.line + 1 = lines.length)) ∧
      ∀ span offset, (index.range span).covers (index.position offset) = true ↔
        span.start ≤ offset ∧ offset < span.stop :=
  ⟨position?_eq_some_position _, fun _ _ => position_before_position _,
    fun _ => offset?_position _, position_offset?_eq_some_iff source, covers_range_position_iff _⟩

/-- On the second line of two, columns up to the greatest offset have an offset of their own. -/
theorem position_laws_second_line :
    let index := ofSource "\nx"
    (0 < 1 ∧ (index.position 0).Before (index.position 1)) ∧
      (3 < offsetCount ∧ index.offset? (index.position 3) = some 3) ∧
      (index.offset? ⟨1, offsetCount - 2⟩).map index.position = some ⟨1, offsetCount - 2⟩ := by
  intro index
  have laws := position_laws "\nx"
  have line : ("\nx".toList.splitOn '\n')[1]? = some ['x'] := by decide
  have starts : index.starts[1]? = some 1 := by decide
  have last : 1 + 1 = ("\nx".toList.splitOn '\n').length := by decide
  have small : 3 < offsetCount := by decide
  have fits : 1 + (offsetCount - 2) < offsetCount := by decide
  exact ⟨⟨Nat.zero_lt_one, laws.2.1 0 1 Nat.zero_lt_one⟩, ⟨small, laws.2.2.1 3 small⟩,
    (laws.2.2.2.1 ⟨1, offsetCount - 2⟩).mpr ⟨_, _, line, starts, fits, .inr last⟩⟩

/-- The greatest column of the last line has no offset of its own, although that line has a place
for every column: the sum wraps around to the start of the text. -/
theorem position_offset?_greatest_column :
    let index := ofSource "\nx"
    let lines := "\nx".toList.splitOn '\n'
    let greatest : Position := ⟨1, offsetCount - 1⟩
    ¬((index.offset? greatest).map index.position = some greatest ↔
      ∃ line, lines[greatest.line]? = some line ∧
        (greatest.column ≤ Text.byteLength line ∨ greatest.line + 1 = lines.length)) := by
  intro index lines greatest same
  have line : lines[greatest.line]? = some ['x'] := by decide
  have last : greatest.line + 1 = lines.length := by decide
  have starts : index.starts[greatest.line]? = some 1 := by decide
  have wraps : offsetCount ≤ 1 + greatest.column := by decide
  rcases Option.map_eq_some_iff.mp (same.mpr ⟨_, line, .inr last⟩) with ⟨offset, found, back⟩
  rcases Option.map_eq_some_iff.mp found with ⟨start, alsoStarts, rfl⟩
  cases Option.some.inj (starts.symm.trans alsoStarts)
  exact position_wrapped_ne index starts wraps back

end LineIndex

end ScriptTree
