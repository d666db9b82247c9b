import Mathlib.Data.List.Nodup
import ScriptTree.Lexeme

/-!
# Lexemes in order

The lexemes of a source follow each other without overlap, and none of them is
empty.  So each has its own start, and sorting by starts puts any rearrangement
of them back in order.  Some of them in a row stretch from the start of the first
to the end of the last.
-/

namespace ScriptTree

theorem Text.byteLength_pos {text : List Char} (nonempty : text ≠ []) :
    0 < byteLength text := by
  cases text with
  | nil => exact absurd rfl nonempty
  | cons character rest =>
    rw [byteLength]
    exact Nat.add_pos_left character.utf8Size_pos _

namespace Lexeme

/-- The first lexeme starts before the second. -/
def StartsBefore (first second : Lexeme) : Prop :=
  first.range.span.start < second.range.span.start

/-- Pieces are placed behind where they start. -/
theorem le_start_of_mem_place {index : LineIndex} {offset : Nat} {pieces : List Piece}
    {lexeme : Lexeme} (member : lexeme ∈ place index offset pieces) :
    offset ≤ lexeme.range.span.start := by
  induction pieces generalizing offset with
  | nil => cases member
  | cons piece rest ih =>
    rcases List.mem_cons.mp member with rfl | later
    · exact Nat.le_refl offset
    · exact Nat.le_trans (Nat.le_add_right offset _) (ih later)

/-- A piece that is not empty has room at its place. -/
theorem start_lt_stop_of_mem_place {index : LineIndex} {offset : Nat} {pieces : List Piece}
    (nonempty : ∀ piece ∈ pieces, piece.text ≠ []) {lexeme : Lexeme}
    (member : lexeme ∈ place index offset pieces) :
    lexeme.range.span.start < lexeme.range.span.stop := by
  induction pieces generalizing offset with
  | nil => cases member
  | cons piece rest ih =>
    rcases List.mem_cons.mp member with rfl | later
    · exact Nat.lt_add_of_pos_right (Text.byteLength_pos (nonempty piece List.mem_cons_self))
    · exact ih (fun other member => nonempty other (List.mem_cons_of_mem _ member)) later

/-- Pieces that are not empty are placed one after the other. -/
theorem pairwise_place (index : LineIndex) (offset : Nat) {pieces : List Piece}
    (nonempty : ∀ piece ∈ pieces, piece.text ≠ []) :
    (place index offset pieces).Pairwise StartsBefore := by
  induction pieces generalizing offset with
  | nil => exact .nil
  | cons piece rest ih =>
    refine .cons ?_ (ih _ fun other member => nonempty other (List.mem_cons_of_mem _ member))
    intro lexeme member
    have positive := Text.byteLength_pos (nonempty piece List.mem_cons_self)
    exact Nat.lt_of_lt_of_le (Nat.lt_add_of_pos_right positive) (le_start_of_mem_place member)

theorem text_nonempty_of_mem_place {index : LineIndex} {offset : Nat} {pieces : List Piece}
    (nonempty : ∀ piece ∈ pieces, piece.text ≠ []) {lexeme : Lexeme}
    (member : lexeme ∈ place index offset pieces) : lexeme.text.isEmpty = false := by
  induction pieces generalizing offset with
  | nil => cases member
  | cons piece rest ih =>
    rcases List.mem_cons.mp member with rfl | later
    · have written := nonempty piece List.mem_cons_self
      simp [String.isEmpty_eq_false_iff, written]
    · exact ih (fun other member => nonempty other (List.mem_cons_of_mem _ member)) later

end Lexeme

namespace Lexing

/-- The lexemes of a source start one behind the other. -/
theorem pairwise_lexemes (source : String) :
    (ofSource source).lexemes.Pairwise Lexeme.StartsBefore :=
  (Lexeme.pairwise_place _ 0 fun _ => Piece.text_ne_nil_of_mem_all).filter _

theorem text_nonempty {source : String} {lexeme : Lexeme}
    (member : lexeme ∈ (ofSource source).lexemes) : lexeme.text.isEmpty = false :=
  Lexeme.text_nonempty_of_mem_place (fun _ => Piece.text_ne_nil_of_mem_all)
    (List.mem_of_mem_filter member)

end Lexing

/-! ## Lexemes one after the other -/

namespace Lexeme

/-- Lexemes that follow each other from an offset on: none starts before the one in front of it
ends, or ends before it starts.  Lexemes without width are allowed. -/
def Follow (offset : Nat) : List Lexeme → Prop
  | [] => True
  | lexeme :: rest =>
    offset ≤ lexeme.range.span.start ∧ lexeme.range.span.start ≤ lexeme.range.span.stop ∧
      Follow lexeme.range.span.stop rest

instance decidableFollow : (offset : Nat) → (lexemes : List Lexeme) →
    Decidable (Follow offset lexemes)
  | _, [] => .isTrue trivial
  | _, lexeme :: rest =>
    have := decidableFollow lexeme.range.span.stop rest
    inferInstanceAs (Decidable (_ ∧ _ ∧ _))

/-- Where lexemes end that begin at an offset. -/
def endOf (offset : Nat) (lexemes : List Lexeme) : Nat :=
  (lexemes.getLast?.map fun lexeme => lexeme.range.span.stop).getD offset

variable {offset : Nat} {lexemes : List Lexeme}

/-- What follows an offset follows every earlier one. -/
theorem Follow.lower {earlier : Nat} (follow : Follow offset lexemes) (before : earlier ≤ offset) :
    Follow earlier lexemes := by
  cases lexemes with
  | nil => trivial
  | cons lexeme rest => exact ⟨Nat.le_trans before follow.1, follow.2⟩

theorem endOf_cons (offset : Nat) (lexeme : Lexeme) (rest : List Lexeme) :
    endOf offset (lexeme :: rest) = endOf lexeme.range.span.stop rest := by
  cases last : rest.getLast? <;> simp [endOf, List.getLast?_cons, last]

/-- Lexemes end behind where they start. -/
theorem Follow.le_endOf (follow : Follow offset lexemes) : offset ≤ endOf offset lexemes := by
  induction lexemes generalizing offset with
  | nil => exact Nat.le_refl offset
  | cons lexeme rest ih =>
    rw [endOf_cons]
    exact Nat.le_trans follow.1 (Nat.le_trans follow.2.1 (ih follow.2.2))

/-- Lexemes follow each other if both their parts do. -/
theorem follow_append_iff {first second : List Lexeme} :
    Follow offset (first ++ second) ↔ Follow offset first ∧ Follow (endOf offset first) second := by
  induction first generalizing offset with
  | nil => simp [Follow, endOf]
  | cons lexeme rest ih =>
    rw [List.cons_append, Follow, Follow, ih, endOf_cons, and_assoc, and_assoc]

/-- Lexemes that are left out leave room. -/
theorem Follow.filter (follow : Follow offset lexemes) (keeps : Lexeme → Bool) :
    Follow offset (lexemes.filter keeps) := by
  induction lexemes generalizing offset with
  | nil => trivial
  | cons lexeme rest ih =>
    rcases follow with ⟨before, forward, rest⟩
    rw [List.filter_cons]
    split
    · exact ⟨before, forward, ih rest⟩
    · exact (ih rest).lower (Nat.le_trans before forward)

/-- Pieces are placed one after the other. -/
theorem follow_place (index : LineIndex) (offset : Nat) (pieces : List Piece) :
    Follow offset (place index offset pieces) := by
  induction pieces generalizing offset with
  | nil => trivial
  | cons piece rest ih => exact ⟨Nat.le_refl offset, Nat.le_add_right offset _, ih _⟩

end Lexeme

/-- The lexemes of a source follow each other from its start. -/
theorem Lexing.follow_lexemes (source : String) : Lexeme.Follow 0 (ofSource source).lexemes :=
  (Lexeme.follow_place _ 0 _).filter _

namespace PlacedToken

/-- The order of the source: by where a token starts. -/
def startsNoLater (first second : PlacedToken) : Bool :=
  first.range.span.start ≤ second.range.span.start

/-- Tokens merged by where they start. -/
def inOrder (tokens : List PlacedToken) : List PlacedToken :=
  tokens.mergeSort startsNoLater

/-- Tokens in order start one behind the other. -/
theorem pairwise_inOrder (tokens : List PlacedToken) :
    (inOrder tokens).Pairwise fun first second => startsNoLater first second := by
  apply List.pairwise_mergeSort
  · intro first second third
    simp only [startsNoLater, decide_eq_true_eq]
    exact Nat.le_trans
  · intro first second
    simp only [startsNoLater, Bool.or_eq_true, decide_eq_true_eq]
    exact Nat.le_total ..

/-- Tokens with starts of their own are in order in one way only. -/
theorem inOrder_eq_of_perm {tokens ordered : List PlacedToken}
    (perm : tokens.Perm ordered)
    (strict : ordered.Pairwise fun first second =>
      first.range.span.start < second.range.span.start) :
    inOrder tokens = ordered := by
  have sorted := pairwise_inOrder tokens
  have weak : ordered.Pairwise fun first second => startsNoLater first second :=
    strict.imp fun before => decide_eq_true (Nat.le_of_lt before)
  have same : (inOrder tokens).Perm ordered := (List.mergeSort_perm ..).trans perm
  have distinct : (ordered.map fun token => token.range.span.start).Nodup :=
    List.pairwise_map.mpr (strict.imp Nat.ne_of_lt)
  refine same.eq_of_pairwise ?_ sorted weak
  intro first second here there before after
  apply List.inj_on_of_nodup_map distinct (same.subset here) there
  exact Nat.le_antisymm (of_decide_eq_true before) (of_decide_eq_true after)

end PlacedToken

/-! ## Tokens in a row -/

/-- The ranges of two neighbouring parts taken together, where each of them may be absent. -/
def Range.joined : Option Range → Option Range → Option Range
  | none, later => later
  | some earlier, none => some earlier
  | some earlier, some later => some (earlier.through later)

namespace PlacedToken

/-- From the first of some tokens to the last one. -/
def stretch? : List PlacedToken → Option Range
  | [] => none
  | first :: rest => some (first.range.through ((rest.getLast?).getD first).range)

/-- Tokens that follow each other in the source, none of which is empty. -/
structure InRow (tokens : List PlacedToken) : Prop where
  wide : ∀ token ∈ tokens, token.range.span.start < token.range.span.stop
  ordered : tokens.Pairwise fun first second => first.range.span.start < second.range.span.start

/-- The stretch of two rows goes over both. -/
theorem stretch?_append (first second : List PlacedToken) :
    stretch? (first ++ second) = Range.joined (stretch? first) (stretch? second) := by
  cases first with
  | nil => rfl
  | cons head rest =>
    cases second with
    | nil =>
      rw [List.append_nil]
      rfl
    | cons next others =>
      simp [stretch?, Range.joined, Range.through, List.getLast?_append, List.getLast?_cons]

theorem stretch?_eq_none_iff {tokens : List PlacedToken} :
    stretch? tokens = none ↔ tokens = [] := by
  cases tokens <;> simp [stretch?]

namespace InRow

variable {first second : List PlacedToken}

theorem left (row : InRow (first ++ second)) : InRow first where
  wide := fun token member => row.wide token (List.mem_append_left second member)
  ordered := (List.pairwise_append.mp row.ordered).1

theorem right (row : InRow (first ++ second)) : InRow second where
  wide := fun token member => row.wide token (List.mem_append_right first member)
  ordered := (List.pairwise_append.mp row.ordered).2.1

/-- Tokens in a row stretch over something. -/
theorem isEmpty_stretch {tokens : List PlacedToken} (row : InRow tokens) {whole : Range}
    (stretched : stretch? tokens = some whole) : whole.isEmpty = false := by
  cases tokens with
  | nil => cases stretched
  | cons head rest =>
    cases stretched
    have wide := row.wide head List.mem_cons_self
    cases last : rest.getLast? with
    | none => exact decide_eq_false (by simpa [Range.through, last] using wide)
    | some final =>
      have member := List.mem_of_getLast? last
      have before := List.rel_of_pairwise_cons row.ordered member
      have wideFinal := row.wide final (List.mem_cons_of_mem head member)
      exact decide_eq_false (by
        simpa [Range.through, last] using Nat.lt_trans before wideFinal)

end InRow

end PlacedToken

/-- The lexemes of a source are in a row. -/
theorem Lexing.inRow_lexemes (source : String) :
    PlacedToken.InRow ((ofSource source).lexemes.map Lexeme.toPlacedToken) where
  wide := by
    intro token member
    rcases List.mem_map.mp member with ⟨lexeme, present, rfl⟩
    exact Lexeme.start_lt_stop_of_mem_place (fun _ => Piece.text_ne_nil_of_mem_all)
      (List.mem_of_mem_filter present)
  ordered := List.pairwise_map.mpr (pairwise_lexemes source)

end ScriptTree
