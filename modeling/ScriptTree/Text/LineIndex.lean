import ScriptTree.Text.Range

/-!
# Line index

The line structure of one source text: the offsets at which its lines start, in
increasing order.  A line feed ends a line and belongs to it, so a text without
line feeds has one line, and the offsets past the end of the text continue its
last line.

The line of an offset is looked up by a binary search, which finds the line that
starts right there, or else the place behind the last line that starts in front
of it.  Some line starts at zero, so there always is such a line.
-/

namespace ScriptTree

/-- What a search among increasing numbers finds: the place of a number, or the place where it
would have to be put in. -/
inductive Search where
  | found (place : Nat)
  | missing (place : Nat)

namespace Search

/-- Search for a number from the place `low` up to, not including, the place `high`, the number
in the middle first. -/
def between (numbers : Array Nat) (wanted low high : Nat) (inside : high ≤ numbers.size) :
    Search :=
  if some : low < high then
    let middle := low + (high - low) / 2
    have reached : middle < numbers.size := by omega
    if numbers[middle] = wanted then
      .found middle
    else if numbers[middle] < wanted then
      between numbers wanted (middle + 1) high inside
    else
      between numbers wanted low middle (by omega)
  else
    .missing low
termination_by high - low

variable {numbers : Array Nat} {wanted low high place : Nat}

/-- The numbers in front of `low` are smaller than the wanted one, and those from `high` on are
greater. -/
structure Narrows (numbers : Array Nat) (wanted low high : Nat) : Prop where
  smaller : ∀ {place} (_ : place < numbers.size), place < low → numbers[place] < wanted
  greater : ∀ {place} (_ : place < numbers.size), high ≤ place → wanted < numbers[place]

/-- In an ascending array, a later place holds a greater number. -/
theorem getElem_lt_getElem (ascending : numbers.toList.Pairwise (· < ·)) {first second : Nat}
    (ordered : first < second) (reached : second < numbers.size) :
    numbers[first] < numbers[second] :=
  List.pairwise_iff_getElem.mp ascending first second (Nat.lt_trans ordered reached) reached ordered

/-- A step to the right passes only smaller numbers. -/
theorem Narrows.above (narrows : Narrows numbers wanted low high)
    (ascending : numbers.toList.Pairwise (· < ·)) {middle : Nat} (reached : middle < numbers.size)
    (small : numbers[middle] < wanted) : Narrows numbers wanted (middle + 1) high where
  smaller {place} _ before := by
    rcases Nat.lt_or_eq_of_le (Nat.le_of_lt_succ before) with passed | rfl
    · exact Nat.lt_trans (getElem_lt_getElem ascending passed reached) small
    · exact small
  greater := narrows.greater

/-- A step to the left passes only greater numbers. -/
theorem Narrows.below (narrows : Narrows numbers wanted low high)
    (ascending : numbers.toList.Pairwise (· < ·)) {middle : Nat} (reached : middle < numbers.size)
    (great : wanted < numbers[middle]) : Narrows numbers wanted low middle where
  smaller := narrows.smaller
  greater {place} within behind := by
    rcases Nat.lt_or_eq_of_le behind with passed | rfl
    · exact Nat.lt_trans great (getElem_lt_getElem ascending passed within)
    · exact great

/-- What a search has to find: the number itself, or where the smaller numbers end and the greater
ones begin. -/
def Answers (numbers : Array Nat) (wanted : Nat) : Search → Prop
  | .found place => ∃ _ : place < numbers.size, numbers[place] = wanted
  | .missing place => place ≤ numbers.size ∧ Narrows numbers wanted place place

/-- The search between two places that enclose the number gives the right answer. -/
theorem answers_between (ascending : numbers.toList.Pairwise (· < ·)) (ordered : low ≤ high)
    (inside : high ≤ numbers.size) (narrows : Narrows numbers wanted low high) :
    Answers numbers wanted (between numbers wanted low high inside) := by
  fun_induction between numbers wanted low high inside with
  | case1 low high _ _ middle reached same => exact ⟨reached, same⟩
  | case2 low high _ some middle reached _ small ih =>
    have half : middle = low + (high - low) / 2 := rfl
    exact ih (by omega) (narrows.above ascending reached small)
  | case3 low high _ some middle reached other small ih =>
    have half : middle = low + (high - low) / 2 := rfl
    have great : wanted < numbers[middle] := by omega
    exact ih (by omega) (narrows.below ascending reached great)
  | case4 low high inside none =>
    obtain rfl : low = high := by omega
    exact ⟨inside, narrows⟩

end Search

/-- The offsets right after the line feeds of a text that begins at `offset`. -/
def LineIndex.startsFrom (offset : Nat) : List Char → List Nat
  | [] => []
  | character :: rest =>
    let next := offset + character.utf8Size
    if character = '\n' then next :: startsFrom next rest else startsFrom next rest

/-- The offsets at which the lines of a source start. -/
structure LineIndex where
  /-- The offset at which each line starts. -/
  starts : Array Nat
  first : starts[0]? = some 0
  ascending : starts.toList.Pairwise (· < ·)

namespace LineIndex

/-- A line that starts within a text starts behind the start of the text. -/
theorem lt_of_mem_startsFrom {offset next : Nat} {text : List Char}
    (member : next ∈ startsFrom offset text) : offset < next := by
  induction text generalizing offset with
  | nil => cases member
  | cons character rest ih =>
    have positive := character.utf8Size_pos
    rw [startsFrom] at member
    split at member
    · rcases List.mem_cons.mp member with rfl | later
      · omega
      · exact Nat.lt_trans (by omega) (ih later)
    · exact Nat.lt_trans (by omega) (ih member)

/-- The lines after the first one start at greater and greater offsets. -/
theorem pairwise_startsFrom (offset : Nat) (text : List Char) :
    (startsFrom offset text).Pairwise (· < ·) := by
  induction text generalizing offset with
  | nil => exact .nil
  | cons character rest ih =>
    rw [startsFrom]
    split
    · exact .cons (fun _ later => lt_of_mem_startsFrom later) (ih _)
    · exact ih _

/-- The line index of a source. -/
def ofSource (source : String) : LineIndex where
  starts := (0 :: startsFrom 0 source.toList).toArray
  first := rfl
  ascending := .cons (fun _ later => lt_of_mem_startsFrom later) (pairwise_startsFrom 0 _)

/-- How many lines a source has.  There is one more than there are line feeds. -/
def lineCount (index : LineIndex) : Nat :=
  index.starts.size

/-- The last line that starts at an offset or in front of it, if there is one. -/
def line? (index : LineIndex) (offset : Nat) : Option Nat :=
  match Search.between index.starts offset 0 index.starts.size (Nat.le_refl _) with
  | .found line => some line
  | .missing 0 => none
  | .missing (line + 1) => some line

/-- The position of an offset, if some line starts at the offset or in front of it. -/
def position? (index : LineIndex) (offset : Nat) : Option Position := do
  let line ← index.line? offset
  let start ← index.starts[line]?
  if start ≤ offset then some ⟨line, offset - start⟩ else none

/-- A line starts at `start`, and it is the last one to start at an offset or in front of it. -/
structure Reaches (index : LineIndex) (offset line start : Nat) : Prop where
  starts : index.starts[line]? = some start
  reached : start ≤ offset
  last : ∀ next, index.starts[line + 1]? = some next → offset < next

variable (index : LineIndex) (offset : Nat)

/-- The search never ends in front of the first line. -/
theorem exists_reaches : ∃ line start, index.line? offset = some line ∧
    index.Reaches offset line start := by
  have narrows : Search.Narrows index.starts offset 0 index.starts.size :=
    ⟨fun _ before => absurd before (Nat.not_lt_zero _), fun within behind => by omega⟩
  have answers := Search.answers_between index.ascending (Nat.zero_le _) (Nat.le_refl _) narrows
  unfold line?
  split
  · rename_i line found
    rw [found] at answers
    rcases answers with ⟨within, rfl⟩
    refine ⟨line, _, rfl, Array.getElem?_eq_getElem within, Nat.le_refl _, fun next further => ?_⟩
    rcases Array.getElem?_eq_some_iff.mp further with ⟨later, rfl⟩
    exact Search.getElem_lt_getElem index.ascending (Nat.lt_succ_self line) later
  · rename_i missing
    rw [missing] at answers
    rcases Array.getElem?_eq_some_iff.mp index.first with ⟨within, zero⟩
    have great := answers.2.greater within (Nat.le_refl 0)
    omega
  · rename_i line missing
    rw [missing] at answers
    have within : line < index.starts.size := answers.1
    refine ⟨line, _, rfl, Array.getElem?_eq_getElem within,
      Nat.le_of_lt (answers.2.smaller within (Nat.lt_succ_self line)), fun next further => ?_⟩
    rcases Array.getElem?_eq_some_iff.mp further with ⟨later, rfl⟩
    exact answers.2.greater later (Nat.le_refl _)

/-- Every offset is reached by some line, and its position says which one, and how far into it. -/
theorem exists_position? : ∃ line start, index.Reaches offset line start ∧
    index.position? offset = some ⟨line, offset - start⟩ := by
  rcases index.exists_reaches offset with ⟨line, start, found, reaches⟩
  refine ⟨line, start, reaches, ?_⟩
  simp [position?, found, reaches.starts, reaches.reached]

theorem isSome_position? : (index.position? offset).isSome = true := by
  rcases index.exists_position? offset with ⟨line, start, -, found⟩
  rw [found, Option.isSome_some]

/-- Every offset has a position. -/
def position : Position :=
  (index.position? offset).get (index.isSome_position? offset)

/-- A span with the positions of its ends. -/
def range (span : Span) : Range :=
  ⟨span, index.position span.start, index.position span.stop⟩

/-- How many offsets there are.  An offset is a number of 64 bits. -/
def offsetCount : Nat := Nat.pow 2 64

/-- The byte offset of a position on one of the source's lines.  A column may go past the end of its
line; where it goes past the greatest offset, the sum wraps around. -/
def offset? (position : Position) : Option Nat :=
  index.starts[position.line]?.map fun start => (start + position.column) % offsetCount

/-- The range of a whole source, leading and trailing blanks included. -/
def wholeRange (source : String) (index : LineIndex) : Range :=
  index.range ⟨0, Text.byteLength source.toList⟩

end LineIndex

end ScriptTree
