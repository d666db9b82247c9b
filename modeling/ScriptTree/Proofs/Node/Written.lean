import Mathlib.Data.List.Forall2
import ScriptTree.Proofs.Grammar.First
import ScriptTree.Proofs.Node.Stretch
import ScriptTree.Proofs.Syntax.Parts

/-!
# Complete expressions in a source

A complete expression is nowhere empty, so it stands just where its tokens stand.
If these are lexemes in a row, so are those of each of its parts, and the range of
its node is what they stretch over.
-/

namespace ScriptTree

open ScriptTree.Part Slot

/-! ## The range of a complete expression -/

/-- A complete identifier covers its token. -/
theorem Identifier.covers_of_isComplete {identifier : Identifier}
    (complete : identifier.isComplete = true) : identifier.range.Covers identifier.slots := by
  rw [isComplete, isMissing, Bool.not_eq_true'] at complete
  exact Range.covers_token (placed_slots_of_nonempty complete identifier.range)

namespace Expression

mutual

/-- A complete expression reaches from the first of its tokens to the last one. -/
theorem covers_of_isComplete {expression : Expression} (complete : expression.isComplete = true) :
    expression.range.Covers expression.slots := by
  match expression with
  | .binary operator left sign right =>
    simp only [isComplete, Bool.and_eq_true] at complete
    exact Assembly.covers_ofParts
      (((spells_child (covers_of_isComplete complete.1)).append (spells_token _ _)).append
        (spells_child (covers_of_isComplete complete.2)))
  | .unary operator sign operand =>
    rw [isComplete] at complete
    exact Assembly.covers_ofParts
      ((spells_token _ _).append (spells_child (covers_of_isComplete complete)))
  | .arrayAccess array opening index closing =>
    simp only [isComplete, Bool.and_eq_true] at complete
    exact Assembly.covers_ofParts
      ((((spells_child (covers_of_isComplete complete.1.1)).append (spells_token _ _)).append
        (spells_child (covers_of_isComplete complete.1.2))).append (spells_optional _ _))
  | .memberAccess object dot member =>
    simp only [isComplete, Bool.and_eq_true] at complete
    exact Assembly.covers_ofParts
      (((spells_child (covers_of_isComplete complete.1)).append (spells_token _ _)).append
        (spells_leaf (Identifier.covers_of_isComplete complete.2)))
  | .call function opening arguments closing =>
    simp only [isComplete, Bool.and_eq_true] at complete
    exact covers_call (covers_of_isComplete complete.1.1.1) (spells_of_areComplete complete.1.1.2)
  | .parenthesized opening inner closing =>
    rw [isComplete, Bool.and_eq_true] at complete
    exact Assembly.covers_ofParts
      (((spells_token _ _).append (spells_child (covers_of_isComplete complete.1))).append
        (spells_optional _ _))
  | .identifier name => exact Identifier.covers_of_isComplete complete
  | .boolean _ | .number _ | .string _ => exact Range.covers_token rfl
  | .arrayInitializer _ _ _ _ | .error _ => cases complete

/-- Complete expressions in a list stretch a node as their tokens do. -/
theorem spells_of_areComplete {field : Field} {items : List (Expression × Option Range)}
    (complete : areComplete items = true) :
    Spells (listParts field items) (listSlots items) := by
  match items with
  | [] => exact spells_nil
  | (expression, comma) :: rest =>
    simp only [areComplete, Bool.and_eq_true] at complete
    exact spells_cons (covers_of_isComplete complete.1.1) (spells_of_areComplete complete.2)

end

end Expression

/-! ## Lexemes in slots -/

/-- The lexeme is what the slot is written as, and the slot is filled with it. -/
structure Lexeme.Fills (lexeme : Lexeme) (slot : Slot) : Prop where
  mark : lexeme.mark = slot.mark
  placed : slot.placed? = some lexeme.toPlacedToken

namespace Slot

variable {lexemes : List Lexeme} {slots part : List Slot}

/-- Slots that are written as some lexemes, and filled with them in that order, are filled one by
one. -/
theorem forall₂_fills (marks : lexemes.map Lexeme.mark = Slot.marks slots)
    (placed : lexemes.map Lexeme.toPlacedToken = Slot.placed slots) :
    List.Forall₂ Lexeme.Fills lexemes slots := by
  induction slots generalizing lexemes with
  | nil =>
    rw [List.map_eq_nil_iff.mp marks]
    exact .nil
  | cons slot rest ih =>
    rcases List.map_eq_cons_iff.mp marks with ⟨lexeme, others, rfl, mark, later⟩
    rw [Slot.placed, List.filterMap_cons] at placed
    cases filled : slot.placed? with
    | none =>
      -- There are as many lexemes as slots, so no slot is left empty.
      rw [filled] at placed
      dsimp only at placed
      have fewer := List.length_filterMap_le placed? rest
      have lengths := congrArg List.length later
      rw [List.length_map, List.length_map] at lengths
      rw [← placed, List.length_map, ← lengths] at fewer
      exact absurd fewer (Nat.not_succ_le_self _)
    | some token =>
      rw [filled, List.map_cons, List.cons.injEq] at placed
      exact .cons ⟨mark, filled.trans (congrArg some placed.1.symm)⟩ (ih later placed.2)

/-- Lexemes that fill slots have the marks of the slots. -/
theorem marks_of_forall₂ (fills : List.Forall₂ Lexeme.Fills lexemes slots) :
    lexemes.map Lexeme.mark = Slot.marks slots := by
  induction fills with
  | nil => rfl
  | cons here _ ih => exact congrArg₂ List.cons here.mark ih

/-- Lexemes that fill slots are placed as the slots say. -/
theorem placed_of_forall₂ (fills : List.Forall₂ Lexeme.Fills lexemes slots) :
    lexemes.map Lexeme.toPlacedToken = Slot.placed slots := by
  induction fills with
  | nil => rfl
  | cons here _ ih => rw [Slot.placed, List.filterMap_cons, here.placed, List.map_cons, ih, placed]

/-- Slots in a row are filled with lexemes in a row. -/
theorem exists_infix_of_forall₂ (fills : List.Forall₂ Lexeme.Fills lexemes slots)
    (within : part <:+: slots) :
    ∃ own, own <:+: lexemes ∧ List.Forall₂ Lexeme.Fills own part := by
  rcases within with ⟨before, after, rfl⟩
  have front := List.forall₂_take_append _ _ _ fills
  have own := List.forall₂_drop_append _ _ _ front
  exact ⟨_, (List.drop_suffix ..).isInfix.trans (List.take_prefix ..).isInfix, own⟩

end Slot

/-- The lexemes of a complete expression stretch over its range. -/
theorem Expression.stretch?_of_forall₂ {expression : Expression} {own : List Lexeme}
    (complete : expression.isComplete = true)
    (fills : List.Forall₂ Lexeme.Fills own expression.slots)
    (row : PlacedToken.InRow (own.map Lexeme.toPlacedToken)) :
    PlacedToken.stretch? (own.map Lexeme.toPlacedToken) = some expression.range := by
  have placed := Slot.placed_of_forall₂ fills
  have covers := covers_of_isComplete complete (placed ▸ row)
  rw [← placed] at covers
  cases stretch : PlacedToken.stretch? (own.map Lexeme.toPlacedToken) with
  | some whole => rw [covers.2 whole stretch]
  | none =>
    rw [PlacedToken.stretch?_eq_none_iff, List.map_eq_nil_iff] at stretch
    subst stretch
    rcases exists_firstToken? complete with ⟨token, found, -⟩
    exact absurd (List.forall₂_nil_left_iff.mp fills) (ne_nil_of_firstToken? found)

end ScriptTree
