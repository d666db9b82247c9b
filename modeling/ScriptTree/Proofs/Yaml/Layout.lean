import ScriptTree.Yaml.Layout

/-!
# Cells of a text

The cells of a text that is put together are those of its parts, one after the other.  Only the
first character of a line can be in the first column, where a document may start or end.
-/

namespace ScriptTree.Yaml

/-- The place after a text. -/
def placeAfter (place : Position) (text : List Char) : Position :=
  text.foldl nextPlace place

/-- The number of bytes in front of what follows a text. -/
def offsetAfter (offset : Nat) (text : List Char) : Nat :=
  text.foldl (fun offset character => offset + character.utf8Size) offset

variable {place : Position} {offset : Nat} {text : List Char} {character : Char}

/-- A text is laid out by laying out its second part where the first one ends. -/
theorem layOut_append (place : Position) (offset : Nat) (first second : List Char) :
    layOut place offset (first ++ second) =
      layOut place offset first ++ layOut (placeAfter place first) (offsetAfter offset first)
        second := by
  induction first generalizing place offset with
  | nil => rfl
  | cons character rest ih => simp only [List.cons_append, layOut, ih, placeAfter, offsetAfter,
      List.foldl_cons]

/-- The place behind a text is reached part by part. -/
theorem placeAfter_append (place : Position) (first second : List Char) :
    placeAfter place (first ++ second) = placeAfter (placeAfter place first) second :=
  List.foldl_append

/-- The offset behind a text is reached part by part. -/
theorem offsetAfter_append (offset : Nat) (first second : List Char) :
    offsetAfter offset (first ++ second) = offsetAfter (offsetAfter offset first) second :=
  List.foldl_append

/-- Characters that are no breaks move the place along the line. -/
theorem placeAfter_of_forall (place : Position)
    (solid : ∀ character ∈ text, isBreak character = false) :
    placeAfter place text = ⟨place.line, place.column + text.length⟩ := by
  induction text generalizing place with
  | nil => rfl
  | cons character rest ih =>
    rw [List.forall_mem_cons] at solid
    rw [placeAfter, List.foldl_cons, ← placeAfter, ih _ solid.2, nextPlace,
      if_neg (by simp [solid.1])]
    simp only [List.length_cons, Position.mk.injEq, true_and]
    omega

/-- Blanks move the place along the line. -/
theorem placeAfter_blanks (place : Position) (count : Nat) :
    placeAfter place (Json.blanks count) = ⟨place.line, place.column + count⟩ := by
  rw [placeAfter_of_forall _ fun character member => by rw [List.eq_of_mem_replicate member]; rfl,
    Json.blanks, List.length_replicate]

/-- The cells of a text hold its characters. -/
theorem map_character_layOut (place : Position) (offset : Nat) (text : List Char) :
    (layOut place offset text).map Cell.character = text := by
  induction text generalizing place offset with
  | nil => rfl
  | cons character rest ih => rw [layOut, List.map_cons, ih]

/-- Only the empty text is laid out as no cells. -/
theorem layOut_eq_nil_iff : layOut place offset text = [] ↔ text = [] := by
  cases text <;> simp [layOut]

/-! ## The first column -/

/-- A document marker stands in the first column only. -/
theorem isDocumentMarker_of_column {cell : Cell} {rest : List Cell}
    (right : 0 < cell.place.column) :
    isDocumentMarker (cell :: rest) = false := by
  have : cell.place.column ≠ 0 := by omega
  rcases rest with _ | ⟨second, _ | ⟨third, more⟩⟩ <;> simp [isDocumentMarker, isMarker, this]

/-- A document marker starts with a dash or a point. -/
theorem isDocumentMarker_of_character {cell : Cell} {rest : List Cell} (dash : cell.character ≠ '-')
    (point : cell.character ≠ '.') : isDocumentMarker (cell :: rest) = false := by
  rcases rest with _ | ⟨second, _ | ⟨third, more⟩⟩ <;>
    simp [isDocumentMarker, isMarker, dash, point]

/-- A text that is laid out to the right of the first column starts with no document marker. -/
theorem isDocumentMarker_layOut (right : 0 < place.column) (offset : Nat) (text : List Char) :
    isDocumentMarker (layOut place offset text) = false := by
  cases text with
  | nil => rfl
  | cons character rest => exact isDocumentMarker_of_column right

/-! ## Gaps -/

/-- Whether a token may start with a character. -/
def isSolid (character : Char) : Bool :=
  !isBlank character && !isBreak character && character ≠ '#' && character ≠ '\ufeff'

variable {inFlow admits : Bool}

/-- A gap ends at a solid character. -/
theorem skipGap_of_isSolid {rest : List Cell} {cell : Cell}
    (solid : isSolid cell.character = true) :
    skipGap inFlow admits false (cell :: rest) = (admits, cell :: rest) := by
  simp only [isSolid, Bool.and_eq_true, Bool.not_eq_true', decide_eq_true_eq, isBlank,
    Bool.or_eq_false_iff, decide_eq_false_iff_not] at solid
  obtain ⟨⟨⟨⟨noBlank, noTab⟩, noBreak⟩, noComment⟩, noMark⟩ := solid
  simp [skipGap, noBreak, noComment, noBlank, noTab, noMark]

/-- Before a solid character there is no gap to skip. -/
theorem skipGap_layOut_of_isSolid {rest : List Char} (solid : isSolid character = true) :
    skipGap inFlow admits false (layOut place offset (character :: rest)) =
      (admits, layOut place offset (character :: rest)) :=
  skipGap_of_isSolid solid

/-- Nothing is skipped twice. -/
theorem skipGap_skipGap (inFlow admits comment : Bool) (cells : List Cell) :
    skipGap inFlow (skipGap inFlow admits comment cells).1 false
      (skipGap inFlow admits comment cells).2 = skipGap inFlow admits comment cells := by
  fun_induction skipGap inFlow admits comment cells with
  | case1 => rfl
  | case2 => assumption
  | case3 => assumption
  | case4 => assumption
  | case5 => assumption
  | case6 admits comment cell rest noBreak noComment noBlank noMark =>
    simp only [Bool.or_eq_true, not_or] at noComment
    have : comment = false := by simpa using noComment.1
    subst this
    simp [skipGap, noBreak, noComment.2, noBlank, noMark]

/-- Blanks at the start of a gap are skipped. -/
theorem skipGap_blanks (count : Nat) (rest : List Char) :
    skipGap inFlow admits false (layOut place offset (Json.blanks count ++ rest)) =
      skipGap inFlow admits false
        (layOut (placeAfter place (Json.blanks count)) (offsetAfter offset (Json.blanks count))
          rest) := by
  induction count generalizing place offset with
  | zero => rfl
  | succ count ih =>
    have more : Json.blanks (count + 1) = ' ' :: Json.blanks count := List.replicate_succ
    rw [more, List.cons_append, layOut, skipGap]
    simp only [show isBreak ' ' = false from rfl]
    exact ih

/-- Outside of flow collections a line break is skipped, and a simple key may start behind it. -/
theorem skipGap_newline (admits : Bool) (place : Position) (offset : Nat) (rest : List Char) :
    skipGap false admits false (layOut place offset ('\n' :: rest)) =
      skipGap false true false (layOut ⟨place.line + 1, 0⟩ (offset + 1) rest) := by
  cases admits <;> rfl

end ScriptTree.Yaml
