import Mathlib.Data.List.Forall2
import ScriptTree.Proofs.Lexeme.Cutting
import ScriptTree.Proofs.Lexeme.Order
import ScriptTree.Proofs.Text.LineIndex

/-!
# Lexemes of a slice

A slice of a source from the start of one lexeme to the end of another is cut as
it was cut in the source, because a cut looks at little more than its piece.  So
the slice has the same lexemes, and only their places differ: the lines by the
number of line feeds in front of the slice.
-/

namespace ScriptTree

/-! ## Cutting a slice -/

namespace Piece

/-- A text is cut piece by piece. -/
theorem all_cons (character : Char) (rest : List Char) :
    all (character :: rest) = (cut character rest).1 :: all (cut character rest).2 := by
  rw [all]

/-- The text after some pieces is cut into the other pieces. -/
theorem all_of_all_eq_append {text : List Char} {first second : List Piece}
    (divided : all text = first ++ second) : all (second.flatMap Piece.text) = second := by
  induction first generalizing text with
  | nil =>
    rw [List.nil_append] at divided
    rw [← divided, flatMap_text_all]
  | cons piece others ih =>
    cases text with
    | nil => simp [all] at divided
    | cons character rest =>
      rw [all_cons, List.cons_append, List.cons.injEq] at divided
      exact ih divided.2

/-- The text of some pieces is cut into them, whatever text came after it. -/
theorem all_flatMap_of_all_eq_append {text : List Char} {first second : List Piece}
    (divided : all text = first ++ second) : all (first.flatMap Piece.text) = first := by
  induction first generalizing text with
  | nil => rw [List.flatMap_nil, all]
  | cons piece others ih =>
    cases text with
    | nil => simp [all] at divided
    | cons character rest =>
      rw [all_cons, List.cons_append, List.cons.injEq] at divided
      rcases divided with ⟨found, later⟩
      have remaining := flatMap_text_all (cut character rest).2
      rw [later, List.flatMap_append] at remaining
      have whole := cut_append character rest
      rw [found] at whole
      cases written : piece.text with
      | nil => exact absurd (found ▸ written) (cut_text_ne_nil character rest)
      | cons head taken =>
        rw [written, List.cons_append, List.cons.injEq] at whole
        rcases whole with ⟨rfl, whole⟩
        have ends : cut head ((taken ++ others.flatMap Piece.text) ++ second.flatMap Piece.text) =
            (piece, others.flatMap Piece.text ++ second.flatMap Piece.text) := by
          rw [List.append_assoc, remaining, whole]
          exact Prod.ext found rfl
        rw [List.flatMap_cons, written, List.cons_append, all_cons, cut_of_append ends,
          ih later]

/-- Pieces in the middle of a text are cut by themselves in the same way. -/
theorem all_flatMap_middle {text : List Char} {before middle after : List Piece}
    (divided : all text = before ++ middle ++ after) :
    all (middle.flatMap Piece.text) = middle := by
  rw [List.append_assoc] at divided
  have later := all_of_all_eq_append divided
  exact all_flatMap_of_all_eq_append later

end Piece

/-! ## Lines of a slice -/

namespace LineIndex

/-- The starts of later lines are not reached at the start of the text. -/
theorem locate_of_le {line start offset base : Nat} (text : List Char) (near : offset ≤ base) :
    locate line start offset (startsFrom base text) = ⟨line, offset - start⟩ := by
  induction text generalizing base with
  | nil => rfl
  | cons character rest ih =>
    have positive := character.utf8Size_pos
    rw [startsFrom]
    split
    · rw [locate, if_neg (by omega)]
    · exact ih (by omega)

theorem position_zero (source : String) : (ofSource source).position 0 = ⟨0, 0⟩ :=
  (position_eq_locate _ 0).trans (locate_of_le source.toList (Nat.le_refl 0))

/-- The line of an offset is the number of line feeds before it. -/
theorem line_locate (line start base : Nat) (before after : List Char) :
    (locate line start (base + Text.byteLength before) (startsFrom base (before ++ after))).line =
      line + before.count '\n' := by
  induction before generalizing line start base with
  | nil => exact congrArg Position.line (locate_of_le after (Nat.le_refl base))
  | cons character rest ih =>
    rw [List.cons_append, startsFrom, Text.byteLength, ← Nat.add_assoc]
    split
    · rename_i feed
      rw [locate, if_pos (Nat.le_add_right _ _), ih, feed, List.count_cons_self]
      omega
    · rename_i other
      rw [ih, List.count_cons_of_ne other]

/-- A line has as many line feeds in front of it as its number says. -/
theorem line_position {source : String} {before after : List Char}
    (whole : source.toList = before ++ after) :
    ((ofSource source).position (Text.byteLength before)).line = before.count '\n' := by
  have line := line_locate 0 0 0 before after
  rw [Nat.zero_add, Nat.zero_add] at line
  rw [position_eq_locate, laterStarts_ofSource, whole, line]

end LineIndex

/-! ## Placing a slice -/

/-- The same lexeme, on a line that is `lines` further down. -/
structure Lexeme.IsBelow (lines : Nat) (below above : Lexeme) : Prop where
  token : below.token = above.token
  text : below.text = above.text
  startLine : below.range.start.line = lines + above.range.start.line
  stopLine : below.range.stop.line = lines + above.range.stop.line

namespace Lexeme

/-- Pieces are placed one stretch after the other. -/
theorem place_append (index : LineIndex) (offset : Nat) (first second : List Piece) :
    place index offset (first ++ second) =
      place index offset first ++
        place index (offset + Text.byteLength (first.flatMap Piece.text)) second := by
  induction first generalizing offset with
  | nil => rfl
  | cons piece rest ih =>
    rw [List.cons_append, place, ih, place, List.flatMap_cons, Text.byteLength_append,
      Nat.add_assoc]
    rfl

/-- Where placed pieces are divided, the pieces are. -/
theorem exists_of_place_eq_append {index : LineIndex} {offset : Nat} {pieces : List Piece}
    {first second : List Lexeme} (divided : place index offset pieces = first ++ second) :
    ∃ front back, pieces = front ++ back ∧ place index offset front = first ∧
      place index (offset + Text.byteLength (front.flatMap Piece.text)) back = second := by
  induction first generalizing offset pieces with
  | nil => exact ⟨[], pieces, rfl, rfl, divided⟩
  | cons lexeme others ih =>
    cases pieces with
    | nil => cases divided
    | cons piece rest =>
      rw [place, List.cons_append, List.cons.injEq] at divided
      rcases divided with ⟨rfl, later⟩
      rcases ih later with ⟨front, back, rfl, placed, placedLater⟩
      refine ⟨piece :: front, back, rfl, by rw [place, placed], ?_⟩
      rw [List.flatMap_cons, Text.byteLength_append, ← Nat.add_assoc]
      exact placedLater

/-- A lexeme of a source is one of its pieces, placed behind those in front of it. -/
theorem exists_piece_of_mem_tokenize {source : String} {lexeme : Lexeme}
    (member : lexeme ∈ tokenize (.ofSource source) source) :
    ∃ front piece back, Piece.all source.toList = front ++ piece :: back ∧
      lexeme.token = piece.token ∧ lexeme.text = String.ofList piece.text ∧
      lexeme.range = (LineIndex.ofSource source).range
        ⟨Text.byteLength (front.flatMap Piece.text),
          Text.byteLength (front.flatMap Piece.text) + Text.byteLength piece.text⟩ := by
  rcases List.append_of_mem member with ⟨passed, left, divided⟩
  rcases exists_of_place_eq_append divided with ⟨front, back, whole, -, placed⟩
  cases back with
  | nil => cases placed
  | cons piece back =>
    rw [Nat.zero_add, place, List.cons.injEq] at placed
    rcases placed with ⟨rfl, -⟩
    exact ⟨front, piece, back, whole, rfl, rfl, rfl⟩

/-- A lexeme is what is cut at its place in the source. -/
theorem exists_cut_of_mem_tokenize {source : String} {lexeme : Lexeme}
    (member : lexeme ∈ tokenize (.ofSource source) source) :
    ∃ before first rest, source.toList = before ++ first :: rest ∧
      lexeme.range.span.start = Text.byteLength before ∧
      lexeme.token = (Piece.cut first rest).1.token ∧
      lexeme.text.toList = (Piece.cut first rest).1.text := by
  rcases exists_piece_of_mem_tokenize member with ⟨front, piece, back, whole, token, text, range⟩
  have texts := Piece.flatMap_text_all source.toList
  have cuts := Piece.all_of_all_eq_append whole
  rw [whole, List.flatMap_append] at texts
  cases tail : (piece :: back).flatMap Piece.text with
  | nil =>
    rw [tail, Piece.all] at cuts
    cases cuts
  | cons first rest =>
    rw [tail] at texts
    rw [tail, Piece.all_cons, List.cons.injEq] at cuts
    rw [token, text, range, ← cuts.1, String.toList_ofList]
    exact ⟨front.flatMap Piece.text, first, rest, texts.symm, rfl, rfl, rfl⟩

/-- Placed pieces stretch over the whole of their text. -/
theorem stretch?_place (index : LineIndex) (offset : Nat) {pieces : List Piece}
    (present : pieces ≠ []) :
    PlacedToken.stretch? ((place index offset pieces).map toPlacedToken) =
      some (index.range ⟨offset, offset + Text.byteLength (pieces.flatMap Piece.text)⟩) := by
  induction pieces generalizing offset with
  | nil => exact absurd rfl present
  | cons piece rest ih =>
    rw [place, List.map_cons, ← List.singleton_append, PlacedToken.stretch?_append,
      List.flatMap_cons, Text.byteLength_append, ← Nat.add_assoc]
    by_cases last : rest = []
    · subst last
      rfl
    · rw [ih _ last]
      rfl

/-- The pieces of a slice, placed in the source and placed in the slice. -/
theorem forall₂_place {source part : String} {before after : List Char}
    (whole : source.toList = before ++ part.toList ++ after) {passed : List Char}
    {pieces : List Piece} (written : part.toList = passed ++ pieces.flatMap Piece.text) :
    List.Forall₂ (IsBelow (before.count '\n'))
      (place (.ofSource source) (Text.byteLength (before ++ passed)) pieces)
      (place (.ofSource part) (Text.byteLength passed) pieces) := by
  have line : ∀ {front back : List Char}, part.toList = front ++ back →
      ((LineIndex.ofSource source).position (Text.byteLength (before ++ front))).line =
        before.count '\n' + ((LineIndex.ofSource part).position (Text.byteLength front)).line := by
    intro front back divided
    have inSource : source.toList = before ++ front ++ (back ++ after) := by
      rw [whole, divided]
      simp
    rw [LineIndex.line_position inSource, LineIndex.line_position divided, List.count_append]
  induction pieces generalizing passed with
  | nil => exact .nil
  | cons piece rest ih =>
    rw [List.flatMap_cons] at written
    have later : part.toList = (passed ++ piece.text) ++ rest.flatMap Piece.text := by
      rw [written, List.append_assoc]
    have others := ih later
    have stop := line later
    rw [← List.append_assoc, Text.byteLength_append (before ++ passed)] at others stop
    rw [Text.byteLength_append passed] at others stop
    exact .cons ⟨rfl, rfl, line written, stop⟩ others

end Lexeme

/-! ## Trivia around a slice -/

/-- Some of the items that pass a test stand between two of them. -/
theorem exists_of_filter_eq_append {α : Type} {test : α → Bool} {items before own after : List α}
    (passing : items.filter test = before ++ own ++ after) (present : own ≠ []) :
    ∃ first middle last, items = first ++ middle ++ last ∧ middle.filter test = own ∧
      middle.head? = own.head? ∧ middle.getLast? = own.getLast? := by
  rw [List.append_assoc] at passing
  rcases List.filter_eq_append_iff.mp passing with ⟨first, items, rfl, -, passing⟩
  cases own with
  | nil => exact absurd rfl present
  | cons head tail =>
    rcases List.filter_eq_cons_iff.mp passing with ⟨idle, items, rfl, -, passes, passing⟩
    rcases List.eq_nil_or_concat' tail with rfl | ⟨inner, final, rfl⟩
    · refine ⟨first ++ idle, [head], items, by simp, ?_, rfl, rfl⟩
      rw [List.filter_cons_of_pos passes, List.filter_nil]
    · rw [List.append_eq, List.append_assoc] at passing
      rcases List.filter_eq_append_iff.mp passing with ⟨middle, items, rfl, kept, passing⟩
      rcases List.filter_eq_cons_iff.mp passing with ⟨more, items, rfl, refused, ends, -⟩
      refine ⟨first ++ idle, head :: (middle ++ more ++ [final]), items, by simp, ?_, rfl, ?_⟩
      · rw [List.filter_cons_of_pos passes, List.filter_append, List.filter_append, kept,
          List.filter_eq_nil_iff.mpr refused, List.filter_cons_of_pos ends, List.filter_nil,
          List.append_nil]
      · simp [List.getLast?_cons]

namespace PlacedToken

/-- The stretch of tokens depends on the first and the last of them only. -/
theorem stretch?_congr {first second : List PlacedToken} (heads : first.head? = second.head?)
    (lasts : first.getLast? = second.getLast?) : stretch? first = stretch? second := by
  cases first with
  | nil =>
    cases second with
    | nil => rfl
    | cons => cases heads
  | cons head rest =>
    cases second with
    | nil => cases heads
    | cons head' rest' =>
      rw [List.getLast?_cons, List.getLast?_cons, Option.some.injEq] at lasts
      cases heads
      rw [stretch?, stretch?, lasts]

end PlacedToken

/-- The text under the range of a slice. -/
theorem LineIndex.text_range {source : String} {before middle after : List Char}
    (whole : source.toList = before ++ middle ++ after) (index : LineIndex) :
    (index.range ⟨Text.byteLength before,
      Text.byteLength before + Text.byteLength middle⟩).text source = String.ofList middle := by
  rw [Range.text, LineIndex.range, whole, Text.slice_append, Option.getD_some]

theorem Lexeme.map_token_place (index : LineIndex) (offset : Nat) (pieces : List Piece) :
    (place index offset pieces).map (·.token) = pieces.map Piece.token := by
  induction pieces generalizing offset with
  | nil => rfl
  | cons piece rest ih => rw [place, List.map_cons, List.map_cons, ih]

namespace Lexing

/-- Significant lexemes in a row come from pieces that take up the range of the row, from the piece
of the first lexeme to the piece of the last one. -/
theorem exists_pieces {source : String} {before own after : List Lexeme}
    (within : (ofSource source).lexemes = before ++ own ++ after) {whole : Range}
    (stretched : PlacedToken.stretch? (own.map Lexeme.toPlacedToken) = some whole) :
    ∃ front pieces back, Piece.all source.toList = front ++ pieces ++ back ∧
      (Lexeme.place (.ofSource source) (Text.byteLength (front.flatMap Piece.text)) pieces).filter
        (fun lexeme => !lexeme.token.isTrivia) = own ∧
      whole = (LineIndex.ofSource source).range ⟨Text.byteLength (front.flatMap Piece.text),
        Text.byteLength (front.flatMap Piece.text) +
          Text.byteLength (pieces.flatMap Piece.text)⟩ ∧
      pieces.head?.map Piece.token = own.head?.map (·.token) ∧
      pieces.getLast?.map Piece.token = own.getLast?.map (·.token) := by
  have present : own ≠ [] := by
    rintro rfl
    cases stretched
  rcases exists_of_filter_eq_append within present with
    ⟨first, middle, last, divided, kept, heads, lasts⟩
  have alike : PlacedToken.stretch? (own.map Lexeme.toPlacedToken) =
      PlacedToken.stretch? (middle.map Lexeme.toPlacedToken) :=
    PlacedToken.stretch?_congr (by simp [heads]) (by simp [lasts])
  rw [alike] at stretched
  rw [List.append_assoc] at divided
  rcases Lexeme.exists_of_place_eq_append divided with ⟨front, rest, found, -, placed⟩
  rcases Lexeme.exists_of_place_eq_append placed with ⟨pieces, back, rfl, rfl, -⟩
  have presentPieces : pieces ≠ [] := by
    rintro rfl
    cases stretched
  rw [Lexeme.stretch?_place _ _ presentPieces, Option.some.injEq, Nat.zero_add] at stretched
  rw [Nat.zero_add] at kept
  refine ⟨front, pieces, back, by rw [found, List.append_assoc], kept, stretched.symm, ?_, ?_⟩
  · rw [← heads, ← List.head?_map, ← List.head?_map, Lexeme.map_token_place]
  · rw [← lasts, ← List.getLast?_map, ← List.getLast?_map, Lexeme.map_token_place]

/-- Lexemes in a row are those of the text that they stretch over. -/
theorem forall₂_lexemes_slice {source : String} {before own after : List Lexeme}
    (within : (ofSource source).lexemes = before ++ own ++ after) {whole : Range}
    (stretched : PlacedToken.stretch? (own.map Lexeme.toPlacedToken) = some whole) :
    ∃ lines, List.Forall₂ (Lexeme.IsBelow lines) own (ofSource (whole.text source)).lexemes := by
  rcases exists_pieces within stretched with ⟨front, pieces, back, divided, kept, rfl, -⟩
  have texts := Piece.flatMap_text_all source.toList
  rw [divided, List.flatMap_append, List.flatMap_append] at texts
  rw [LineIndex.text_range texts.symm]
  have written : (String.ofList (pieces.flatMap Piece.text)).toList =
      [] ++ pieces.flatMap Piece.text := String.toList_ofList
  have whole : source.toList = front.flatMap Piece.text ++
      (String.ofList (pieces.flatMap Piece.text)).toList ++ back.flatMap Piece.text := by
    rw [written]
    exact texts.symm
  have below := Lexeme.forall₂_place whole written
  rw [List.append_nil] at below
  refine ⟨(front.flatMap Piece.text).count '\n', ?_⟩
  rw [← kept, ofSource, ofLexemes, Lexeme.tokenize, String.toList_ofList,
    Piece.all_flatMap_middle divided]
  apply List.rel_filter
  · intro below above alike
    simp only [alike.token]
  · exact below

end Lexing

end ScriptTree
