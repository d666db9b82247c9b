import ScriptTree.Proofs.Lexeme.Shifting

/-!
# Reading is local

What is read between two places of a source depends on nothing in front of the
first place and on nothing behind the second one, if a lexeme starts at the first
place and one ends at the second.  So the text between them, read by itself, has
the same lexemes, and their spans are shifted by the first place.
-/

namespace ScriptTree

namespace Lexeme

/-- The same token in the same text, `bytes` further down. -/
structure IsMoved (bytes : Nat) (moved own : Lexeme) : Prop where
  token : moved.token = own.token
  text : moved.text = own.text
  span : moved.range.span = own.range.span.shift bytes

/-- Pieces that are placed further down are the same lexemes further down, whatever the lines are.
-/
theorem forall₂_isMoved_place (index other : LineIndex) (bytes offset : Nat) (pieces : List Piece) :
    List.Forall₂ (IsMoved bytes) (place index (bytes + offset) pieces)
      (place other offset pieces) := by
  induction pieces generalizing offset with
  | nil => exact .nil
  | cons piece rest ih =>
    refine .cons ⟨rfl, rfl, ?_⟩ ?_
    · simp only [LineIndex.range, Span.shift, Nat.add_assoc]
    · rw [Nat.add_assoc]
      exact ih _

/-- Lexemes in a row are those of the text that they stretch over. -/
theorem forall₂_isMoved_stretch {source : String} {before own after : List Lexeme}
    (within : tokenize (.ofSource source) source = before ++ own ++ after) {whole : Range}
    (stretched : PlacedToken.stretch? (own.map toPlacedToken) = some whole) :
    List.Forall₂ (IsMoved whole.span.start) own
      (tokenize (.ofSource (whole.text source)) (whole.text source)) := by
  rw [List.append_assoc] at within
  rcases exists_of_place_eq_append within with ⟨front, rest, found, -, placed⟩
  rcases exists_of_place_eq_append placed with ⟨pieces, back, rfl, rfl, -⟩
  have present : pieces ≠ [] := by
    rintro rfl
    cases stretched
  rw [stretch?_place _ _ present, Option.some.injEq, Nat.zero_add] at stretched
  subst stretched
  have texts := Piece.flatMap_text_all source.toList
  rw [found, List.flatMap_append, List.flatMap_append, ← List.append_assoc] at texts
  have divided : Piece.all source.toList = front ++ pieces ++ back := by
    rw [found, List.append_assoc]
  rw [LineIndex.text_range texts.symm, tokenize, String.toList_ofList,
    Piece.all_flatMap_middle divided, Nat.zero_add]
  exact forall₂_isMoved_place _ _ _ 0 pieces

/-- From the first to the last of some lexemes in a row. -/
theorem stretch?_between {tokens : List Lexeme} (first last : Fin tokens.length)
    (ordered : first ≤ last) :
    PlacedToken.stretch? (((tokens.take (last + 1)).drop first).map toPlacedToken) =
      some (tokens[first].range.through tokens[last].range) := by
  have inside : first.val < last + 1 := Nat.lt_succ_of_le ordered
  have ends : PlacedToken.stretch? ([tokens[first], tokens[last]].map toPlacedToken) =
      some (tokens[first].range.through tokens[last].range) := rfl
  rw [← ends]
  apply PlacedToken.stretch?_congr
  · simp [List.head?_drop, inside]
  · simp [List.getLast?_drop, List.getLast?_take]
    omega

/-- The text of a lexeme is what stands at its range. -/
theorem text_range_of_mem_tokenize {source : String} {lexeme : Lexeme}
    (member : lexeme ∈ tokenize (.ofSource source) source) :
    lexeme.range.text source = lexeme.text := by
  rcases isSliceOf_of_mem_tokenize member with ⟨before, after, whole, place⟩
  rw [place, LineIndex.text_range whole, String.ofList_toList]

end Lexeme

/-- Reading is local.  The text from the start of one lexeme to the end of the same or a later one
is read as the lexemes from the one to the other, with spans that are shifted by where the first of
them starts.  In particular each lexeme is read back from its own text, as a single one. -/
theorem tokenize_local (source : String) :
    let tokens := Lexeme.tokenize (.ofSource source) source
    (∀ first last : Fin tokens.length, first ≤ last →
      let part := (tokens[first].range.through tokens[last].range).text source
      List.Forall₂ (Lexeme.IsMoved tokens[first].range.span.start)
        ((tokens.take (last + 1)).drop first) (Lexeme.tokenize (.ofSource part) part)) ∧
    ∀ lexeme ∈ tokens, ∃ alone,
      Lexeme.tokenize (.ofSource lexeme.text) lexeme.text = [alone] ∧
        lexeme.IsMoved lexeme.range.span.start alone := by
  intro tokens
  constructor
  · intro first last ordered
    have within : tokens =
        tokens.take first ++ (tokens.take (last + 1)).drop first ++ tokens.drop (last + 1) := by
      have front : tokens.take first = (tokens.take (last + 1)).take first := by
        rw [List.take_take, Nat.min_eq_left (Nat.le_succ_of_le ordered)]
      rw [front, List.take_append_drop, List.take_append_drop]
    exact Lexeme.forall₂_isMoved_stretch within (Lexeme.stretch?_between first last ordered)
  · intro lexeme member
    rcases List.append_of_mem member with ⟨before, after, divided⟩
    have within : tokens = before ++ [lexeme] ++ after := by
      rw [divided, List.append_assoc, List.singleton_append]
    have stretched : PlacedToken.stretch? ([lexeme].map Lexeme.toPlacedToken) =
        some lexeme.range := rfl
    have moved := Lexeme.forall₂_isMoved_stretch within stretched
    rw [Lexeme.text_range_of_mem_tokenize member] at moved
    rcases List.forall₂_cons_left_iff.mp moved with ⟨alone, others, same, none, whole⟩
    rw [List.forall₂_nil_left_iff.mp none] at whole
    exact ⟨alone, whole, same⟩

end ScriptTree
