import ScriptTree.Proofs.Syntax.WellFormed

/-!
# The parts of an expression

An expression is put together from smaller ones, the name behind a dot among
them.  A complete expression has complete parts, an expression that is read as it
is written has such parts, and the slots of a part stand in a row among those of
the expression.
-/

namespace ScriptTree.Expression

open Slot

/-- The expressions that an expression is put together from. -/
def parts : Expression → List Expression
  | .binary _ left _ right => [left, right]
  | .unary _ _ operand => [operand]
  | .arrayAccess array _ index _ => [array, index]
  | .memberAccess object _ member => [object, .identifier member]
  | .call function _ arguments _ => function :: arguments.map (·.1)
  | .parenthesized _ inner _ => [inner]
  | .arrayInitializer _ elements _ _ => elements.map (·.1)
  | .boolean _ | .number _ | .string _ | .identifier _ | .error _ => []

variable {expression part : Expression}

section

variable {items : List (Expression × Option Range)}

/-- A part among the items of a list is smaller than the list. -/
theorem sizeOf_lt_of_mem_items (member : part ∈ items.map (·.1)) : sizeOf part < sizeOf items := by
  rcases List.mem_map.mp member with ⟨⟨part, comma⟩, listed, rfl⟩
  have item := List.sizeOf_lt_of_mem listed
  rw [Prod.mk.sizeOf_spec] at item
  change sizeOf part < sizeOf items
  omega

/-- A part of complete items is complete. -/
theorem isComplete_of_mem_items (complete : areComplete items = true)
    (member : part ∈ items.map (·.1)) : part.isComplete = true := by
  induction items with
  | nil => cases member
  | cons item rest ih =>
    rw [areComplete, Bool.and_eq_true, Bool.and_eq_true] at complete
    rcases List.mem_cons.mp member with rfl | later
    · exact complete.1.1
    · exact ih complete.2 later

/-- A part of grouped items is grouped. -/
theorem isGrouped_of_mem_items (grouped : areGrouped items = true)
    (member : part ∈ items.map (·.1)) : part.isGrouped = true := by
  induction items with
  | nil => cases member
  | cons item rest ih =>
    rw [areGrouped, Bool.and_eq_true] at grouped
    rcases List.mem_cons.mp member with rfl | later
    · exact grouped.1
    · exact ih grouped.2 later

/-- The slots of an item stand in one piece among those of the list. -/
theorem slots_infix_of_mem_items (member : part ∈ items.map (·.1)) :
    part.slots <:+: listSlots items := by
  induction items with
  | nil => cases member
  | cons item rest ih =>
    rw [listSlots]
    rcases List.mem_cons.mp member with rfl | later
    · exact ((List.prefix_append ..).trans (List.prefix_append ..)).isInfix
    · exact (ih later).trans (List.suffix_append ..).isInfix

end

/-- A part is smaller than its expression. -/
theorem sizeOf_lt_of_mem_parts (member : part ∈ expression.parts) :
    sizeOf part < sizeOf expression := by
  cases expression with
  | binary | unary | arrayAccess | parenthesized =>
    simp only [parts, List.mem_cons, List.not_mem_nil, or_false] at member
    rcases member with rfl | rfl <;> simp <;> omega
  | memberAccess object dot member =>
    cases dot
    simp only [parts, List.mem_cons, List.not_mem_nil, or_false] at member
    rcases member with rfl | rfl <;> simp <;> omega
  | call function opening arguments closing =>
    rcases List.mem_cons.mp member with rfl | listed
    · simp
      omega
    · have item := sizeOf_lt_of_mem_items listed
      simp
      omega
  | arrayInitializer opening elements gap closing =>
    have item := sizeOf_lt_of_mem_items member
    simp
    omega
  | boolean | number | string | identifier | error => cases member

/-- The parts of a complete expression are complete. -/
theorem isComplete_of_mem_parts (complete : expression.isComplete = true)
    (member : part ∈ expression.parts) : part.isComplete = true := by
  cases expression with
  | binary | unary | arrayAccess | memberAccess | parenthesized =>
    simp only [parts, List.mem_cons, List.not_mem_nil, or_false] at member
    simp only [isComplete, Bool.and_eq_true] at complete
    rcases member with rfl | rfl <;> simp [complete]
  | call function opening arguments closing =>
    simp only [isComplete, Bool.and_eq_true] at complete
    rcases List.mem_cons.mp member with rfl | listed
    · exact complete.1.1.1
    · exact isComplete_of_mem_items complete.1.1.2 listed
  | arrayInitializer => cases complete
  | boolean | number | string | identifier | error => cases member

/-- The parts of an expression that is read as it is written are so, too. -/
theorem isGrouped_of_mem_parts (grouped : expression.isGrouped = true)
    (member : part ∈ expression.parts) : part.isGrouped = true := by
  cases expression with
  | binary | unary | arrayAccess | memberAccess | parenthesized =>
    simp only [parts, List.mem_cons, List.not_mem_nil, or_false] at member
    simp only [isGrouped, Bool.and_eq_true] at grouped
    rcases member with rfl | rfl <;> simp [grouped]
  | call function opening arguments closing =>
    simp only [isGrouped, Bool.and_eq_true] at grouped
    rcases List.mem_cons.mp member with rfl | listed
    · exact grouped.1.1
    · exact isGrouped_of_mem_items grouped.1.2 listed
  | arrayInitializer => exact isGrouped_of_mem_items grouped member
  | boolean | number | string | identifier | error => cases member

/-- A part is written within the expression. -/
theorem slots_infix_of_mem_parts (member : part ∈ expression.parts) :
    part.slots <:+: expression.slots := by
  cases expression with
  | binary operator left sign right =>
    simp only [parts, List.mem_cons, List.not_mem_nil, or_false] at member
    rw [slots]
    rcases member with rfl | rfl
    · exact ((List.prefix_append ..).trans (List.prefix_append ..)).isInfix
    · exact (List.suffix_append ..).isInfix
  | unary operator sign operand =>
    rw [slots, List.mem_singleton.mp member]
    exact (List.suffix_append ..).isInfix
  | arrayAccess array opening index closing =>
    simp only [parts, List.mem_cons, List.not_mem_nil, or_false] at member
    rw [slots]
    rcases member with rfl | rfl
    · exact (((List.prefix_append ..).trans (List.prefix_append ..)).trans
        (List.prefix_append ..)).isInfix
    · exact List.infix_append ..
  | memberAccess object dot member =>
    simp only [parts, List.mem_cons, List.not_mem_nil, or_false] at member
    rw [slots]
    rcases member with rfl | rfl
    · exact ((List.prefix_append ..).trans (List.prefix_append ..)).isInfix
    · exact (List.suffix_append ..).isInfix
  | call function opening arguments closing =>
    rw [slots]
    rcases List.mem_cons.mp member with rfl | listed
    · exact (((List.prefix_append ..).trans (List.prefix_append ..)).trans
        (List.prefix_append ..)).isInfix
    · exact (slots_infix_of_mem_items listed).trans (List.infix_append ..)
  | parenthesized opening inner closing =>
    rw [slots, List.mem_singleton.mp member]
    exact List.infix_append ..
  | arrayInitializer opening elements gap closing =>
    rw [slots]
    exact (slots_infix_of_mem_items member).trans (List.infix_append ..)
  | boolean | number | string | identifier | error => cases member

end ScriptTree.Expression
