import Mathlib.Data.List.Forall2
import ScriptTree.Grammar.Recovery

/-!
# Lexemes divided alike

Skipping looks at tokens only.  So two lists of lexemes with the same tokens are
divided alike, also where one of them goes on after the other one has ended, as
long as the skip stops before that.
-/

namespace ScriptTree.Grammar

/-- Two lists of lexemes divided alike, where the part that is left is followed by `tail` in one
of them. -/
def DividesAlike (alike : Lexeme → Lexeme → Prop) (tail : List Lexeme)
    (whole part : List Lexeme × List Lexeme) : Prop :=
  List.Forall₂ alike whole.1 part.1 ∧
    ∃ left, whole.2 = left ++ tail ∧ List.Forall₂ alike left part.2

variable {alike : Lexeme → Lexeme → Prop} {tail front above : List Lexeme}

/-- What leaves the whole tail of the tail takes nothing of it. -/
theorem DividesAlike.of_tail {whole : List Lexeme × List Lexeme}
    (divided : whole.1 ++ whole.2 = tail) (left : tail <:+ whole.2) :
    DividesAlike alike tail whole ([], []) := by
  have total := congrArg List.length divided
  have longer := left.length_le
  rw [List.length_append] at total
  have empty : whole.1 = [] := List.length_eq_zero_iff.mp (by omega)
  rw [empty, List.nil_append] at divided
  constructor
  · rw [empty]
    exact .nil
  · exact ⟨[], divided, .nil⟩

namespace SyncLevel

variable (tokens : ∀ first second, alike first second → first.token = second.token)

include tokens

theorem splitSemicolon_alike (similar : List.Forall₂ alike front above)
    (within : tail <:+ (splitSemicolon (front ++ tail)).2 ∨ (splitSemicolon above).2 ≠ []) :
    DividesAlike alike tail (splitSemicolon (front ++ tail)) (splitSemicolon above) := by
  cases similar with
  | nil => exact .of_tail (splitSemicolon_append tail) (within.resolve_right (not_not.mpr rfl))
  | cons same others =>
    rw [List.cons_append, splitSemicolon, splitSemicolon, tokens _ _ same]
    split
    · exact ⟨.cons same .nil, _, rfl, others⟩
    · exact ⟨.nil, _, rfl, .cons same others⟩

/-- A skip that stops in front of the tail, or before the shorter list ends, takes the same lexemes
of both lists. -/
theorem skip_alike (level : SyncLevel) (depth : Nat) (similar : List.Forall₂ alike front above)
    (within : tail <:+ (level.skip depth (front ++ tail)).2 ∨ (level.skip depth above).2 ≠ []) :
    DividesAlike alike tail (level.skip depth (front ++ tail)) (level.skip depth above) := by
  induction similar generalizing depth with
  | nil =>
    exact .of_tail (level.skip_append depth tail) (within.resolve_right (not_not.mpr rfl))
  | @cons first firstAbove rest restAbove same others ih =>
    have further {depth : Nat} (within : tail <:+ (level.skip depth (rest ++ tail)).2 ∨
        (level.skip depth restAbove).2 ≠ []) :
        DividesAlike alike tail
          (first :: (level.skip depth (rest ++ tail)).1, (level.skip depth (rest ++ tail)).2)
          (firstAbove :: (level.skip depth restAbove).1, (level.skip depth restAbove).2) :=
      ⟨.cons same (ih depth within).1, (ih depth within).2⟩
    rw [List.cons_append, skip, skip, ← tokens _ _ same] at within ⊢
    by_cases stops : level.stopsAt depth first.token = true
    · rw [if_pos stops, if_pos stops]
      exact ⟨.nil, first :: rest, rfl, .cons same others⟩
    · rw [if_neg stops, if_neg stops] at within ⊢
      cases found : first.token <;> simp only [found] at within ⊢
      case lBrace => exact further within
      case rBrace =>
        by_cases inner : 1 < depth
        · rw [if_pos inner, if_pos inner] at within ⊢
          exact further within
        · rw [if_neg inner, if_neg inner] at within ⊢
          have ending := splitSemicolon_alike tokens others within
          exact ⟨.cons same ending.1, ending.2⟩
      case semicolon =>
        by_cases outer : depth = 0
        · rw [if_pos outer, if_pos outer]
          exact ⟨.cons same .nil, rest, rfl, others⟩
        · rw [if_neg outer, if_neg outer] at within ⊢
          exact further within
      all_goals exact further within

end SyncLevel

/-- A skip takes nothing where it stops in front of the first lexeme. -/
theorem SyncLevel.skip_eq_nil_iff {level : SyncLevel} {depth : Nat} {lexeme : Lexeme}
    {rest : List Lexeme} :
    (level.skip depth (lexeme :: rest)).1 = [] ↔ level.stopsAt depth lexeme.token = true := by
  unfold skip
  split
  · simp_all
  · split <;> (try split) <;> simp_all

/-- The last lexemes of two lists that are alike. -/
theorem getLast?_alike (similar : List.Forall₂ alike front above) :
    front = [] ∧ above = [] ∨
      ∃ last lastAbove, front.getLast? = some last ∧ above.getLast? = some lastAbove ∧
        alike last lastAbove := by
  induction similar with
  | nil => exact .inl ⟨rfl, rfl⟩
  | @cons first firstAbove rest restAbove same others ih =>
    right
    rcases ih with ⟨rfl, rfl⟩ | ⟨last, lastAbove, ends, endsAbove, lastSame⟩
    · exact ⟨first, firstAbove, rfl, rfl, same⟩
    · refine ⟨last, lastAbove, ?_, ?_, lastSame⟩
      · rw [List.getLast?_cons, ends]
        rfl
      · rw [List.getLast?_cons, endsAbove]
        rfl

/-- A view of an element made of an error node is made of a view of the node. -/
theorem map_map_ofNode {α : Type} {view : α → α} {viewNode : ErrorNode → ErrorNode}
    {ofNode : ErrorNode → α} (commutes : ∀ node, view (ofNode node) = ofNode (viewNode node))
    (node : Option ErrorNode) : (node.map ofNode).map view = (node.map viewNode).map ofNode := by
  cases node <;> simp [commutes]

/-- What two lists add for one element and the lexemes skipped after it, in front of what follows,
is the same under two views if the parts are. -/
theorem map_resumed {α : Type} {view viewOther : α → α}
    {viewNode viewNodeOther : ErrorNode → ErrorNode} {ofNode : ErrorNode → α}
    (commutes : ∀ node, view (ofNode node) = ofNode (viewNode node))
    (commutesOther : ∀ node, viewOther (ofNode node) = ofNode (viewNodeOther node))
    {item itemOther : Option α} {node nodeOther : Option ErrorNode} {more moreOther : List α}
    (sameItem : item.map view = itemOther.map viewOther)
    (sameNode : node.map viewNode = nodeOther.map viewNodeOther)
    (sameMore : more.map view = moreOther.map viewOther) :
    (item.toList ++ (node.map ofNode).toList ++ more).map view =
      (itemOther.toList ++ (nodeOther.map ofNode).toList ++ moreOther).map viewOther := by
  simp only [List.map_append, ← Option.toList_map, map_map_ofNode commutes,
    map_map_ofNode commutesOther, sameItem, sameNode, sameMore]

end ScriptTree.Grammar
