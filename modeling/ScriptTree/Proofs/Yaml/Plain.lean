import ScriptTree.Proofs.Yaml.Quoted

/-!
# Reading back plain scalars

A plain scalar is a line of words with blanks between them.  It is read up to the end of its line
if the next line stands to the left of the margin, because only what stands to the right could go
on with it.
-/

namespace ScriptTree.Yaml

variable {place : Position} {offset : Nat} {character : Char}

/-- What follows a text: the next token stands on this line or nothing does, and it stands to the
left of a column. -/
inductive EndsBefore (column : Nat) : List Char → Prop
  | nil : EndsBefore column []
  | token {count : Nat} {character : Char} (rest : List Char) (left : count < column)
      (solid : isSolid character = true) :
      EndsBefore column (Json.blanks count ++ character :: rest)

/-- What ends before a column ends before each column further right. -/
theorem EndsBefore.mono {first second : Nat} {rest : List Char} (ends : EndsBefore first rest)
    (below : first ≤ second) : EndsBefore second rest := by
  cases ends with
  | nil => exact .nil
  | token more left solid => exact .token more (Nat.lt_of_lt_of_le left below) solid

/-- A solid character belongs to no gap. -/
theorem isGap_of_isSolid {cell : Cell} (solid : isSolid cell.character = true) :
    cell.isGap = false := by
  simp only [isSolid, Bool.and_eq_true, Bool.not_eq_true', decide_eq_true_eq] at solid
  rw [Cell.isGap, solid.1.1.1, solid.1.1.2]
  rfl

/-- Blanks are laid out as cells of a gap. -/
theorem isGap_of_mem_layOut_blanks (place : Position) (offset count : Nat) :
    ∀ cell ∈ layOut place offset (Json.blanks count), cell.isGap = true ∧ cell.character = ' ' := by
  induction count generalizing place offset with
  | zero => rintro cell ⟨⟩
  | succ count ih =>
    have more : Json.blanks (count + 1) = ' ' :: Json.blanks count := List.replicate_succ
    rw [more, layOut, List.forall_mem_cons]
    exact ⟨⟨rfl, rfl⟩, ih _ _⟩

/-- A gap of blanks ends where something else follows. -/
theorem span_isGap_blanks (place : Position) (offset count : Nat) (rest : List Char)
    (solid : ∀ first ∈ rest.head?, isBlank first = false ∧ isBreak first = false) :
    (layOut place offset (Json.blanks count ++ rest)).takeWhile Cell.isGap =
        layOut place offset (Json.blanks count) ∧
      (layOut place offset (Json.blanks count ++ rest)).dropWhile Cell.isGap =
        layOut (placeAfter place (Json.blanks count)) (offsetAfter offset (Json.blanks count))
          rest := by
  have gap := fun cell member => (isGap_of_mem_layOut_blanks place offset count cell member).1
  rw [layOut_append, List.takeWhile_append_of_pos gap, List.dropWhile_append_of_pos gap]
  cases rest with
  | nil => simp [layOut]
  | cons first more =>
    have := solid first rfl
    simp [layOut, Cell.isGap, this]

/-- A gap comes next on a line where the text before its line feed starts with one, or is empty. -/
theorem isGapNext_layOut (place : Position) (offset : Nat) (text rest : List Char) :
    isGapNext (layOut place offset (text ++ '\n' :: rest)) = isAtGap text := by
  cases text <;> rfl

/-- A word of a text is read up to the next blank, or up to the end of the line. -/
theorem plainWord_layOut {afterBlank : Bool} {text : List Char} (place : Position) (offset : Nat)
    (rest : List Char)
    (continues : continuesPlain afterBlank text = true) :
    plainWord false (layOut place offset (text ++ '\n' :: rest)) =
      (text.takeWhile (· ≠ ' '),
        layOut (placeAfter place (text.takeWhile (· ≠ ' ')))
          (offsetAfter offset (text.takeWhile (· ≠ ' ')))
          (text.dropWhile (· ≠ ' ') ++ '\n' :: rest)) := by
  induction text generalizing place offset afterBlank with
  | nil => rfl
  | cons character more ih =>
    rw [continuesPlain] at continues
    simp only [Bool.and_eq_true, Bool.not_eq_true'] at continues
    rcases continues with ⟨⟨⟨⟨printable, noBreak⟩, noColon⟩, -⟩, continues⟩
    by_cases blank : character = ' '
    · subst blank
      simp [layOut, plainWord, Cell.isGap, isBlank, placeAfter, offsetAfter]
    · have noTab : character ≠ '\t' := by
        rintro rfl
        cases printable
      have noGap : Cell.isGap ⟨place, offset, character⟩ = false := by
        simp [Cell.isGap, isBlank, blank, noTab, noBreak]
      rw [List.cons_append, layOut, plainWord, ih _ _ continues, endsAtColon,
        isGapNext_layOut, noGap]
      simp [blank, noColon, placeAfter, offsetAfter]

section

variable {margin : Nat} {cells gap next : List Cell} {word : List Char}

/-- A plain part is a single word, if the gap behind it ends the scalar. -/
theorem plainPart_of_last (read : plainWord false cells = (word, gap ++ next)) (filled : word ≠ [])
    (gapEnds : (gap ++ next).takeWhile Cell.isGap = gap ∧ (gap ++ next).dropWhile Cell.isGap = next)
    (noTab : hasTabBelow margin gap = false)
    (last : gap = [] ∨ resumesPlain false margin next = false) :
    plainPart false margin cells =
      some ⟨word.map .solid, gap.any fun cell => isBreak cell.character, next⟩ := by
  have stops : (!gap.isEmpty && resumesPlain false margin next) = false := by
    rcases last with rfl | last
    · rfl
    · rw [last, Bool.and_false]
  rw [plainPart]
  simp [read, filled, gapEnds, noTab, stops]

/-- A plain part goes on behind a gap that does not end the scalar. -/
theorem plainPart_of_more (read : plainWord false cells = (word, gap ++ next)) (filled : word ≠ [])
    (gapEnds : (gap ++ next).takeWhile Cell.isGap = gap ∧ (gap ++ next).dropWhile Cell.isGap = next)
    (noTab : hasTabBelow margin gap = false) (some : gap ≠ [])
    (resumes : resumesPlain false margin next = true) {part : PlainPart}
    (more : plainPart false margin next = .some part) (nonempty : part.pieces ≠ []) :
    plainPart false margin cells = .some { part with
      pieces := word.map .solid ++ gap.map (Piece.ofCharacter ·.character) ++ part.pieces } := by
  rw [plainPart]
  simp [read, filled, gapEnds, noTab, some, resumes, more, nonempty]

end

/-- What continues a plain scalar continues it from every character on. -/
theorem continuesPlain_of_append {afterBlank : Bool} {first : List Char} {last : Char}
    {second : List Char} (continues : continuesPlain afterBlank (first ++ last :: second) = true) :
    continuesPlain (last = ' ') second = true := by
  induction first generalizing afterBlank with
  | nil =>
    rw [List.nil_append, continuesPlain, Bool.and_eq_true] at continues
    exact continues.2
  | cons character more ih =>
    rw [List.cons_append, continuesPlain, Bool.and_eq_true] at continues
    exact ih continues.2

/-- A plain scalar consists of printable characters without breaks. -/
theorem of_continuesPlain {afterBlank : Bool} {text : List Char}
    (continues : continuesPlain afterBlank text = true) :
    ∀ character ∈ text, isPrintable character = true ∧ isBreak character = false := by
  induction text generalizing afterBlank with
  | nil => rintro character ⟨⟩
  | cons character more ih =>
    simp only [continuesPlain, Bool.and_eq_true, Bool.not_eq_true'] at continues
    rcases continues with ⟨⟨⟨⟨printable, noBreak⟩, -⟩, -⟩, continues⟩
    rw [List.forall_mem_cons]
    exact ⟨⟨printable, noBreak⟩, ih continues⟩

/-- A text is its leading blanks and what follows them. -/
theorem exists_eq_blanks_append (text : List Char) :
    ∃ count rest, text = Json.blanks count ++ rest ∧ ∀ first ∈ rest.head?, first ≠ ' ' := by
  induction text with
  | nil => exact ⟨0, [], rfl, by rintro _ ⟨⟩⟩
  | cons character more ih =>
    by_cases blank : character = ' '
    · rcases ih with ⟨count, rest, rfl, front⟩
      exact ⟨count + 1, rest, by rw [blank]; rfl, front⟩
    · exact ⟨0, character :: more, rfl, by rintro _ ⟨rfl⟩; exact blank⟩

/-- What is read behind the last word of a plain scalar. -/
theorem exists_gap_of_endsBefore {margin : Nat} {rest : List Char} (place : Position) (offset : Nat)
    (ends : EndsBefore margin rest) :
    ∃ gap next, layOut place offset ('\n' :: rest) = gap ++ next ∧
      ((gap ++ next).takeWhile Cell.isGap = gap ∧ (gap ++ next).dropWhile Cell.isGap = next) ∧
      hasTabBelow margin gap = false ∧ resumesPlain false margin next = false ∧
      (gap.any fun cell => isBreak cell.character) = true ∧
      ∀ admits, skipGap false admits false next =
        skipGap false admits false (layOut ⟨place.line + 1, 0⟩ (offset + 1) rest) := by
  cases ends with
  | nil => exact ⟨layOut place offset ['\n'], [], rfl, ⟨rfl, rfl⟩, rfl, rfl, rfl, fun _ => rfl⟩
  | @token count character more left solid =>
    have noGap := solid
    simp only [isSolid, Bool.and_eq_true, Bool.not_eq_true', decide_eq_true_eq] at noGap
    rcases noGap with ⟨⟨⟨noBlank, noBreak⟩, noComment⟩, -⟩
    have gapEnds := span_isGap_blanks ⟨place.line + 1, 0⟩ (offset + 1) count
      (character :: more) (by rintro _ ⟨rfl⟩; exact ⟨noBlank, noBreak⟩)
    have cells := layOut_append ⟨place.line + 1, 0⟩ (offset + 1) (Json.blanks count)
        (character :: more)
    rw [placeAfter_blanks, Nat.zero_add] at cells
    rw [cells, placeAfter_blanks, Nat.zero_add] at gapEnds
    refine ⟨⟨place, offset, '\n'⟩ :: layOut ⟨place.line + 1, 0⟩ (offset + 1) (Json.blanks count),
      layOut ⟨place.line + 1, count⟩ (offsetAfter (offset + 1) (Json.blanks count))
        (character :: more),
      ?_, ?_, ?_, ?_, rfl, fun admits => ?_⟩
    · exact congrArg (List.cons _) cells
    · have isGap : Cell.isGap ⟨place, offset, '\n'⟩ = true := rfl
      rw [List.cons_append, List.takeWhile_cons_of_pos isGap, List.dropWhile_cons_of_pos isGap]
      exact ⟨congrArg _ gapEnds.1, gapEnds.2⟩
    · have noTab : ∀ cell ∈ layOut ⟨place.line + 1, 0⟩ (offset + 1) (Json.blanks count),
          cell.character ≠ '\t' := by
        intro cell member
        rw [(isGap_of_mem_layOut_blanks _ _ _ cell member).2]
        decide
      rw [hasTabBelow, List.any_eq_false]
      intro cell member
      have member := (List.dropWhile_sublist _).subset member
      rcases List.mem_cons.mp member with rfl | member
      · simp
      · simp [noTab cell member]
    · have outside : ¬margin ≤ count := Nat.not_le.mpr left
      simp [resumesPlain, layOut, outside]
    · rw [skipGap_blanks, placeAfter_blanks, Nat.zero_add]

/-- A plain scalar is one word, or there are blanks and more of it behind its first word. -/
theorem dropWhile_cases {afterBlank : Bool} {text : List Char}
    (fits : continuesPlain afterBlank text = true) :
    text.dropWhile (· ≠ ' ') = [] ∨
      ∃ count tail, text.dropWhile (· ≠ ' ') = Json.blanks (count + 1) ++ tail ∧
        continuesPlain true tail = true ∧ tail ≠ [] ∧ ∀ first ∈ tail.head?, first ≠ ' ' := by
  have parts : text.takeWhile (· ≠ ' ') ++ text.dropWhile (· ≠ ' ') = text :=
    List.takeWhile_append_dropWhile
  cases after : text.dropWhile (· ≠ ' ') with
  | nil => exact Or.inl rfl
  | cons blank more =>
    have isBlank : blank = ' ' := by
      have notWord := List.head?_dropWhile_not (· ≠ ' ') text
      rw [after] at notWord
      simpa using notWord
    rcases exists_eq_blanks_append more with ⟨count, tail, rfl, front⟩
    have blanks : blank :: (Json.blanks count ++ tail) = Json.blanks (count + 1) ++ tail := by
      rw [isBlank]
      rfl
    have continues : continuesPlain true tail = true := by
      rw [← parts, after, blanks, Json.blanks, List.replicate_succ', ← List.append_assoc,
        ← List.append_assoc, List.append_assoc, List.singleton_append] at fits
      simpa using continuesPlain_of_append fits
    refine Or.inr ⟨count, tail, blanks, continues, ?_, front⟩
    rintro rfl
    cases continues

/-- What is read between two words of a plain scalar. -/
theorem exists_gap_of_continuesPlain {margin count : Nat} {tail rest : List Char} (offset : Nat)
    (continues : continuesPlain true tail = true) (filled : tail ≠ [])
    (front : ∀ first ∈ tail.head?, first ≠ ' ') (inside : margin ≤ place.column) :
    ∃ gap place' offset', place.column < place'.column ∧
      layOut place offset (Json.blanks (count + 1) ++ (tail ++ '\n' :: rest)) =
        gap ++ layOut place' offset' (tail ++ '\n' :: rest) ∧
      ((gap ++ layOut place' offset' (tail ++ '\n' :: rest)).takeWhile Cell.isGap = gap ∧
        (gap ++ layOut place' offset' (tail ++ '\n' :: rest)).dropWhile Cell.isGap =
          layOut place' offset' (tail ++ '\n' :: rest)) ∧
      hasTabBelow margin gap = false ∧ gap ≠ [] ∧
      resumesPlain false margin (layOut place' offset' (tail ++ '\n' :: rest)) = true ∧
      gap.map (Piece.ofCharacter ·.character) = (Json.blanks (count + 1)).map Piece.onLine := by
  rcases List.exists_cons_of_ne_nil filled with ⟨first, more, rfl⟩
  have solid := of_continuesPlain continues first List.mem_cons_self
  have noTab : first ≠ '\t' := by
    rintro rfl
    cases solid.1
  have noComment : first ≠ '#' := by
    simp only [continuesPlain, Bool.and_true, Bool.and_eq_true, Bool.not_eq_true',
      decide_eq_false_iff_not] at continues
    exact continues.1.2
  have gapEnds := span_isGap_blanks place offset (count + 1) (first :: more ++ '\n' :: rest)
    (by rintro _ ⟨rfl⟩; exact ⟨by simp [isBlank, front first rfl, noTab], solid.2⟩)
  have further : place.column < (placeAfter place (Json.blanks (count + 1))).column := by
    rw [placeAfter_blanks]
    exact Nat.lt_add_of_pos_right (Nat.succ_pos count)
  rw [layOut_append] at gapEnds
  refine ⟨layOut place offset (Json.blanks (count + 1)), _, _, further, layOut_append ..,
    gapEnds, ?_, ?_, ?_, ?_⟩
  · rw [hasTabBelow, List.any_eq_false]
    intro cell member
    have blank :=
      (isGap_of_mem_layOut_blanks _ _ _ cell ((List.dropWhile_sublist _).subset member)).2
    simp [blank]
  · rw [Ne, layOut_eq_nil_iff]
    rintro ⟨⟩
  · have within : margin ≤ (placeAfter place (Json.blanks (count + 1))).column := by omega
    have noMarker := isDocumentMarker_layOut (Nat.zero_lt_of_lt further)
      (offsetAfter offset (Json.blanks (count + 1))) (first :: more ++ '\n' :: rest)
    simp only [List.cons_append, layOut] at noMarker
    simp [resumesPlain, layOut, noComment, noMarker, within]
  · change List.map (Piece.ofCharacter ∘ Cell.character) _ = _
    rw [← List.map_map, map_character_layOut]
    refine List.map_congr_left fun character member => ?_
    rw [List.eq_of_mem_replicate member]
    rfl

/-- A plain scalar that ends with its line is read up to there.  The gap behind it is read as well,
which makes no difference to what is read next. -/
theorem exists_plainPart {place : Position} {offset margin : Nat} {afterBlank : Bool}
    {text rest : List Char} (fits : continuesPlain afterBlank text = true) (filled : text ≠ [])
    (front : ∀ first ∈ text.head?, first ≠ ' ') (inside : margin ≤ place.column)
    (ends : EndsBefore margin rest) :
    ∃ part place' offset',
      plainPart false margin (layOut place offset (text ++ '\n' :: rest)) = some part ∧
      part.pieces = text.map Piece.onLine ∧ part.isBroken = true ∧ place'.column = 0 ∧
      ∀ admits, skipGap false admits false part.rest =
        skipGap false admits false (layOut place' offset' rest) := by
  have read := plainWord_layOut place offset rest fits
  have parts : text.takeWhile (· ≠ ' ') ++ text.dropWhile (· ≠ ' ') = text :=
    List.takeWhile_append_dropWhile
  have wordFilled : text.takeWhile (· ≠ ' ') ≠ [] := by
    rcases List.exists_cons_of_ne_nil filled with ⟨first, more, rfl⟩
    simp [front first rfl]
  have wordPieces : (text.takeWhile (· ≠ ' ')).map .solid =
      (text.takeWhile (· ≠ ' ')).map Piece.onLine := by
    refine List.map_congr_left fun character member => ?_
    have : character ≠ ' ' := by simpa using List.all_eq_true.mp List.all_takeWhile character member
    rw [Piece.onLine, if_neg this]
  rcases dropWhile_cases fits with after | ⟨count, tail, after, continues, tailFilled, tailFront⟩
  · rw [after, List.nil_append] at read
    rw [after, List.append_nil] at parts
    rcases exists_gap_of_endsBefore _ _ ends with
      ⟨gap, next, cells, gapEnds, noTab, last, broken, skips⟩
    rw [cells] at read
    refine ⟨_, _, _, plainPart_of_last read wordFilled gapEnds noTab (Or.inr last), ?_, broken, rfl,
      skips⟩
    rw [wordPieces, parts]
  · have wordInside : margin ≤ (placeAfter place (text.takeWhile (· ≠ ' '))).column := by
      rw [placeAfter_of_forall place fun character member => (of_continuesPlain fits character
        ((List.takeWhile_sublist _).subset member)).2]
      exact Nat.le_trans inside (Nat.le_add_right _ _)
    have shorter : tail.length < text.length := by
      rw [← parts, after, List.length_append, List.length_append, Json.blanks,
        List.length_replicate]
      omega
    rw [after, List.append_assoc] at read
    rcases exists_gap_of_continuesPlain
      (offsetAfter offset (text.takeWhile (· ≠ ' '))) continues tailFilled tailFront wordInside with
      ⟨gap, place₁, offset₁, further, cells, gapEnds, noTab, nonempty, resumes, gapPieces⟩
    rw [cells] at read
    rcases exists_plainPart continues tailFilled tailFront
      (Nat.le_trans wordInside (Nat.le_of_lt further)) ends with
      ⟨part, place', offset', more, pieces, broken, column, skips⟩
    have more' := plainPart_of_more read wordFilled gapEnds noTab nonempty resumes more
      (by rw [pieces]; simpa using tailFilled)
    refine ⟨_, place', offset', more', ?_, broken, column, skips⟩
    rw [wordPieces, gapPieces, pieces, ← List.map_append, ← List.map_append, List.append_assoc,
      ← after, parts]
termination_by text.length

end ScriptTree.Yaml
