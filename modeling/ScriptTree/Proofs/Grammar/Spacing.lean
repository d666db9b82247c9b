import Mathlib.Data.List.Chain
import ScriptTree.Proofs.Grammar.First

/-!
# What follows a semicolon

In what a complete program is written as, a semicolon ends something, and the
token after it begins the next statement or declaration, or closes a body, or is
the `else` of the statement that the semicolon ended.  So no semicolon stands in
front of something that goes on with an expression, apart from the signs and
the parenthesis that may begin one.
-/

namespace ScriptTree

open Grammar Slot

/-- The tokens that can come after a semicolon. -/
def followsSemicolon : Token → Bool
  | .rBrace | .kwElse => true
  | token => startsStatement token || token.isDeclarationKeyword

namespace Slot

/-- There is no semicolon among the slots. -/
def IsPlain (slots : List Slot) : Prop :=
  ∀ slot ∈ slots, slot.token ≠ .semicolon

/-- Whatever stands right after a semicolon can come after one. -/
def IsSpaced (slots : List Slot) : Prop :=
  slots.IsChain fun first second =>
    first.token = .semicolon → followsSemicolon second.token = true

section

variable {first second : List Slot} {token : Token} {place : Option Range}

@[simp]
theorem isPlain_nil : IsPlain [] :=
  nofun

@[simp]
theorem isPlain_append : IsPlain (first ++ second) ↔ IsPlain first ∧ IsPlain second := by
  simp [IsPlain, or_imp, forall_and]

@[simp]
theorem isPlain_singleton {slot : Slot} : IsPlain [slot] ↔ slot.token ≠ .semicolon := by
  simp [IsPlain]

@[simp]
theorem isPlain_required : IsPlain (required token place) ↔ token ≠ .semicolon :=
  isPlain_singleton

@[simp]
theorem isPlain_comma {isLast : Bool} : IsPlain (comma isLast place) := by
  cases isLast <;> cases place <;> simp [comma, allowed]

@[simp]
theorem isSpaced_nil : IsSpaced [] :=
  .nil

theorem isSpaced_required (token : Token) (place : Option Range) :
    IsSpaced (required token place) :=
  .singleton _

theorem isSpaced_allowed (token : Token) (place : Option Range) :
    IsSpaced (allowed token place) := by
  cases place
  · exact isSpaced_nil
  · exact isSpaced_required ..

/-- Nothing is wrong after slots without a semicolon. -/
theorem IsPlain.append (plain : IsPlain first) (spaced : IsSpaced second) :
    IsSpaced (first ++ second) := by
  induction first with
  | nil => exact spaced
  | cons slot rest ih =>
    have later := ih fun other member => plain other (List.mem_cons_of_mem _ member)
    refine List.isChain_cons.mpr ⟨fun next _ found => ?_, later⟩
    exact absurd found (plain slot List.mem_cons_self)

/-- Nothing is wrong in front of a token that can come after a semicolon. -/
theorem IsSpaced.append (spaced : IsSpaced first) (later : IsSpaced second)
    (follows : ∀ slot ∈ second.head?, followsSemicolon slot.token = true) :
    IsSpaced (first ++ second) :=
  List.IsChain.append spaced later fun _ _ slot member _ => follows slot member

theorem follows_of_firstToken? (found : firstToken? first = some token)
    (follows : followsSemicolon token = true) :
    ∀ slot ∈ first.head?, followsSemicolon slot.token = true := by
  intro slot member
  rw [firstToken?, Option.mem_def.mp member] at found
  cases found
  exact follows

/-- Parts in a row, each of which can come after a semicolon. -/
theorem isSpaced_flatMap {α : Type} {items : List α} {slots : α → List Slot}
    (each : ∀ item ∈ items, IsSpaced (slots item) ∧
      ∃ token, firstToken? (slots item) = some token ∧ followsSemicolon token = true) :
    IsSpaced (items.flatMap slots) ∧
      ∀ slot ∈ (items.flatMap slots).head?, followsSemicolon slot.token = true := by
  induction items with
  | nil => exact ⟨isSpaced_nil, nofun⟩
  | cons item rest ih =>
    rcases each item List.mem_cons_self with ⟨spaced, token, found, follows⟩
    rcases ih fun other member => each other (List.mem_cons_of_mem _ member) with ⟨later, begins⟩
    rw [List.flatMap_cons]
    exact ⟨spaced.append later begins,
      follows_of_firstToken? (firstToken?_append found _) follows⟩

end

end Slot

/-! ## Expressions -/

namespace Expression

mutual

theorem isPlain_slots : (expression : Expression) → expression.isComplete = true →
    IsPlain expression.slots
  | .binary operator left _ right, complete => by
    simp only [isComplete, Bool.and_eq_true] at complete
    cases operator <;> simp [isPlain_slots left complete.1, isPlain_slots right complete.2,
      BinaryOperator.token]
  | .unary operator _ operand, complete => by
    cases operator <;> simp [isPlain_slots operand complete, UnaryOperator.token]
  | .arrayAccess array _ index _, complete => by
    simp only [isComplete, Bool.and_eq_true] at complete
    simp [isPlain_slots array complete.1.1, isPlain_slots index complete.1.2]
  | .memberAccess object _ _, complete => by
    simp only [isComplete, Bool.and_eq_true] at complete
    simp [isPlain_slots object complete.1, Identifier.slots]
  | .call function _ items _, complete => by
    simp only [isComplete, Bool.and_eq_true] at complete
    simp [isPlain_slots function complete.1.1.1, isPlain_listSlots items complete.1.1.2]
  | .parenthesized _ inner _, complete => by
    simp only [isComplete, Bool.and_eq_true] at complete
    simp [isPlain_slots inner complete.1]
  | .boolean literal, _ => by cases value : literal.value <;> simp [value]
  | .number _, _ | .string _, _ => by simp
  | .identifier _, _ => by simp [Identifier.slots]

theorem isPlain_listSlots : (items : List (Expression × Option Range)) →
    areComplete items = true → IsPlain (listSlots items)
  | [], _ => by simp
  | (expression, _) :: rest, complete => by
    simp only [areComplete, Bool.and_eq_true] at complete
    simp [isPlain_slots expression complete.1.1, isPlain_listSlots rest complete.2]

end

theorem isPlain_value {expression : Expression} (complete : expression.isCompleteValue = true) :
    IsPlain expression.slots := by
  cases expression with
  | arrayInitializer opening elements gap closing =>
    simp only [isCompleteValue_arrayInitializer, Bool.and_eq_true] at complete
    simp [isPlain_listSlots elements complete.1.1.2]
  | _ => exact isPlain_slots _ complete

end Expression

/-! ## Statements -/

theorem TypeReference.isPlain_slots (reference : TypeReference) : IsPlain reference.slots := by
  rcases reference with ⟨type, range⟩
  cases type <;> simp [slots]

theorem Identifier.isPlain_slots (identifier : Identifier) : IsPlain identifier.slots := by
  simp [slots]

theorem VariableDeclaration.isSpaced_slots {declaration : VariableDeclaration}
    (complete : declaration.isComplete = true) : IsSpaced declaration.slots := by
  rcases declaration with ⟨kind, keyword, type, name, size, initializer, terminator⟩
  simp only [isComplete, Bool.and_eq_true] at complete
  rcases complete with ⟨⟨⟨-, completeSize⟩, completeValue⟩, -⟩
  have keyword : kind.token ≠ .semicolon := by cases kind <;> nofun
  refine IsPlain.append ?_ (isSpaced_required ..)
  cases size <;> cases initializer <;>
    simp_all [type.isPlain_slots, name.isPlain_slots, Expression.isPlain_slots,
      Expression.isPlain_value]

theorem AssignmentStatement.isSpaced_slots {assignment : AssignmentStatement}
    (complete : assignment.isComplete = true) : IsSpaced assignment.slots := by
  rcases assignment with ⟨left, operator, sign, right, terminator⟩
  simp only [isComplete, Bool.and_eq_true] at complete
  have operator : operator.token ≠ .semicolon := by cases operator <;> nofun
  refine IsPlain.append ?_ (isSpaced_required ..)
  simp [operator, left.isPlain_slots complete.1.1.1.1, right.isPlain_slots complete.1.2]

theorem ExpressionStatement.isSpaced_slots {statement : ExpressionStatement}
    (complete : statement.isComplete = true) : IsSpaced statement.slots := by
  rw [isComplete, Bool.and_eq_true] at complete
  exact (Expression.isPlain_slots _ complete.1).append (isSpaced_required ..)

theorem ReturnStatement.isSpaced_slots {statement : ReturnStatement}
    (complete : statement.isComplete = true) : IsSpaced statement.slots := by
  rcases statement with ⟨keyword, value, terminator⟩
  refine IsPlain.append ?_ (isSpaced_required ..)
  cases value <;> simp_all [Expression.isPlain_slots]

theorem followsSemicolon_of_startsStatement {token : Token}
    (starts : startsStatement token = true) : followsSemicolon token = true := by
  unfold followsSemicolon
  split <;> simp [starts]

mutual

/-- A block, with the semicolon that may come after it. -/
theorem Block.isSpaced_slots (semicolon : Option Range) : (block : Block) →
    block.isComplete = true → IsSpaced (block.slots ++ allowed .semicolon semicolon)
  | .written opening items closing, complete => by
    rw [Block.isComplete, Bool.and_eq_true] at complete
    rcases Statement.isSpaced_listSlots items complete.1 with ⟨inner, -⟩
    have opens : IsPlain (required .lBrace (some opening)) := isPlain_required.mpr nofun
    have ends : IsPlain (required .rBrace closing) := isPlain_required.mpr nofun
    rw [Block.slots, List.append_assoc, List.append_assoc]
    refine opens.append (inner.append (ends.append (isSpaced_allowed ..)) ?_)
    exact follows_of_firstToken? (firstToken?_required_append ..) rfl

theorem Statement.isSpaced_slots : (statement : Statement) → statement.isComplete = true →
    IsSpaced statement.slots
  | .assignmentStatement _, complete => by
    rw [Statement.slots]
    exact AssignmentStatement.isSpaced_slots complete
  | .expressionStatement _, complete => by
    rw [Statement.slots]
    exact ExpressionStatement.isSpaced_slots complete
  | .ifStatement keyword condition consequence none, complete => by
    simp only [Statement.isComplete, Bool.and_eq_true] at complete
    have heading : IsPlain (required .kwIf (some keyword) ++ condition.slots) := by
      simp [condition.isPlain_slots complete.1.1]
    rw [Statement.slots]
    exact heading.append (consequence.isSpaced_slots complete.2)
  | .ifStatement keyword condition consequence (some (elseKeyword, alternative)), complete => by
    simp only [Statement.isComplete, Bool.and_eq_true] at complete
    have heading : IsPlain (required .kwIf (some keyword) ++ condition.slots) := by
      simp [condition.isPlain_slots complete.1.1.1]
    have goesOn : IsPlain (required .kwElse (some elseKeyword)) := isPlain_required.mpr nofun
    have further := goesOn.append (alternative.isSpaced_slots complete.2)
    rw [Statement.slots, List.append_assoc, List.append_assoc]
    refine heading.append ((consequence.isSpaced_slots complete.1.2).append further ?_)
    exact follows_of_firstToken? (firstToken?_required_append ..) rfl
  | .returnStatement _, complete => by
    rw [Statement.slots]
    exact ReturnStatement.isSpaced_slots complete
  | .variableDeclaration _, complete => by
    rw [Statement.slots]
    exact VariableDeclaration.isSpaced_slots complete
  | .block block, complete => by
    have spaced := block.isSpaced_slots none complete
    rwa [allowed, List.append_nil, ← Statement.slots] at spaced

theorem Branch.isSpaced_slots : (branch : Branch) → branch.isComplete = true →
    IsSpaced branch.slots
  | .written statement none, complete => by
    simp only [Branch.isComplete, Bool.and_eq_true] at complete
    rw [Branch.slots, allowed, List.append_nil]
    exact statement.isSpaced_slots complete.1
  | .written (.block block) (some semicolon), complete => by
    simp only [Branch.isComplete, Statement.isComplete, Bool.and_eq_true] at complete
    rw [Branch.slots, Statement.slots]
    exact block.isSpaced_slots (some semicolon) complete.1
  | .written (.assignmentStatement _) (some _), complete
  | .written (.expressionStatement _) (some _), complete
  | .written (.ifStatement _ _ _ _) (some _), complete
  | .written (.returnStatement _) (some _), complete
  | .written (.variableDeclaration _) (some _), complete
  | .written (.error _) (some _), complete => by
    rw [Branch.isComplete, Bool.and_eq_true] at complete
    cases complete.2

theorem Statement.isSpaced_listSlots : (items : List Statement) →
    Statement.areComplete items = true →
      IsSpaced (Statement.listSlots items) ∧
        ∀ slot ∈ (Statement.listSlots items).head?, followsSemicolon slot.token = true
  | [], _ => ⟨isSpaced_nil, nofun⟩
  | statement :: rest, complete => by
    rw [Statement.areComplete, Bool.and_eq_true] at complete
    rcases Statement.isSpaced_listSlots rest complete.2 with ⟨later, begins⟩
    rcases Statement.exists_firstToken? complete.1 with ⟨token, found, starts⟩
    exact ⟨(statement.isSpaced_slots complete.1).append later begins,
      follows_of_firstToken? (firstToken?_append found _)
        (followsSemicolon_of_startsStatement starts)⟩

end

/-! ## Declarations and programs -/

theorem ParameterList.isPlain_itemSlots (items : List (Parameter × Option Range)) :
    IsPlain (itemSlots items) := by
  induction items with
  | nil => exact isPlain_nil
  | cons item rest ih =>
    rcases item with ⟨⟨qualifier, type, name⟩, comma⟩
    cases qualifier with
    | none => simp [ih, type.isPlain_slots, name.isPlain_slots]
    | some qualifier =>
      have keyword : qualifier.1.token ≠ .semicolon := by cases qualifier.1 <;> nofun
      simp [ih, type.isPlain_slots, name.isPlain_slots, keyword]

theorem ParameterList.isPlain_slots (parameters : ParameterList) : IsPlain parameters.slots := by
  cases parameters <;> simp [slots, isPlain_itemSlots]

theorem ClassItem.isSpaced_slots {item : ClassItem} (complete : item.isComplete = true) :
    IsSpaced item.slots :=
  match item with
  | .member (.variableDeclaration _) => VariableDeclaration.isSpaced_slots complete
  | .member (.assignmentStatement _) => AssignmentStatement.isSpaced_slots complete

/-- A class body, with the semicolon that may come after it. -/
theorem ClassBody.isSpaced_slots {body : ClassBody} (complete : body.isComplete = true)
    (semicolon : Option Range) : IsSpaced (body.slots ++ allowed .semicolon semicolon) := by
  cases body with
  | missing => cases complete
  | written opening items closing =>
    rw [isComplete, Bool.and_eq_true, List.all_eq_true] at complete
    have each : ∀ item ∈ items, IsSpaced item.slots ∧
        ∃ token, firstToken? item.slots = some token ∧ followsSemicolon token = true := by
      intro item member
      rcases ClassItem.exists_firstToken? (complete.1 item member) with ⟨token, found, starts⟩
      exact ⟨ClassItem.isSpaced_slots (complete.1 item member), token, found,
        followsSemicolon_of_startsStatement starts⟩
    have opens : IsPlain (required .lBrace (some opening)) := isPlain_required.mpr nofun
    have ends : IsPlain (required .rBrace closing) := isPlain_required.mpr nofun
    rw [slots, List.append_assoc, List.append_assoc]
    refine opens.append ((isSpaced_flatMap each).1.append (ends.append (isSpaced_allowed ..)) ?_)
    exact follows_of_firstToken? (firstToken?_required_append ..) rfl

theorem InstanceDeclaration.isSpaced_slots {declaration : InstanceDeclaration}
    (complete : declaration.isComplete = true) : IsSpaced declaration.slots := by
  rcases declaration with ⟨keyword, name, parent, body, semicolon⟩
  have heading : IsPlain (required .kwInstance (some keyword) ++ name.slots ++
      parent.elim [] ParentClause.slots) := by
    cases parent <;> simp [Identifier.isPlain_slots]
  refine heading.append ?_
  cases body with
  | none => exact isSpaced_required ..
  | some body =>
    rw [isComplete, Bool.and_eq_true] at complete
    exact body.isSpaced_slots semicolon complete.2

theorem PrototypeDeclaration.isSpaced_slots {declaration : PrototypeDeclaration}
    (complete : declaration.isComplete = true) : IsSpaced declaration.slots := by
  rw [isComplete, Bool.and_eq_true] at complete
  rw [slots, List.append_assoc _ declaration.body.slots]
  exact IsPlain.append (by simp [Identifier.isPlain_slots])
    (declaration.body.isSpaced_slots declaration.semicolon complete.2)

theorem FunctionDeclaration.isSpaced_slots {declaration : FunctionDeclaration}
    (complete : declaration.isComplete = true) : IsSpaced declaration.slots := by
  rw [isComplete, Bool.and_eq_true] at complete
  rw [slots, List.append_assoc _ declaration.body.slots]
  exact IsPlain.append
    (by simp [Identifier.isPlain_slots, TypeReference.isPlain_slots, ParameterList.isPlain_slots])
    (declaration.body.isSpaced_slots declaration.semicolon complete.2)

theorem ClassDeclaration.isSpaced_slots {declaration : ClassDeclaration}
    (complete : declaration.isComplete = true) : IsSpaced declaration.slots := by
  rw [isComplete, Bool.and_eq_true] at complete
  rw [slots, List.append_assoc _ declaration.body.slots]
  exact IsPlain.append (by simp [Identifier.isPlain_slots])
    (ClassBody.isSpaced_slots complete.2 declaration.semicolon)

theorem Declaration.isSpaced_slots {declaration : Declaration}
    (complete : declaration.isComplete = true) : IsSpaced declaration.slots :=
  match declaration with
  | .instanceDeclaration _ => InstanceDeclaration.isSpaced_slots complete
  | .prototypeDeclaration _ => PrototypeDeclaration.isSpaced_slots complete
  | .functionDeclaration _ => FunctionDeclaration.isSpaced_slots complete
  | .variableDeclaration _ => VariableDeclaration.isSpaced_slots complete
  | .classDeclaration _ => ClassDeclaration.isSpaced_slots complete

/-- In what a complete program is written as, only what begins or closes something, or an `else`,
comes right after a semicolon. -/
theorem Program.isSpaced_slots {program : Program} (complete : program.isComplete = true) :
    IsSpaced program.slots := by
  rw [isComplete, List.all_eq_true] at complete
  refine (isSpaced_flatMap fun declaration member => ?_).1
  rcases Declaration.exists_firstToken? (complete declaration member) with ⟨token, found, opens⟩
  refine ⟨Declaration.isSpaced_slots (complete declaration member), token, found, ?_⟩
  unfold followsSemicolon
  split <;> simp [opens]

/-- After a semicolon among the lexemes of a complete program comes a token that can follow one. -/
theorem Program.followsSemicolon_next {program : Program} (complete : program.isComplete = true)
    {passed later : List Lexeme} {semicolon next : Lexeme}
    (written : (passed ++ semicolon :: next :: later).map Lexeme.mark = program.writing)
    (isSemicolon : semicolon.token = .semicolon) : followsSemicolon next.token = true := by
  rw [List.map_append, List.map_cons, List.map_cons, writing, Slot.marks] at written
  rcases List.map_eq_append_iff.mp written.symm with ⟨front, rest, whole, -, tail⟩
  rcases List.map_eq_cons_iff.mp tail with ⟨first, more, rfl, found, tail⟩
  rcases List.map_eq_cons_iff.mp tail with ⟨second, further, rfl, foundNext, -⟩
  have spaced := Program.isSpaced_slots complete
  rw [whole] at spaced
  have pair := (List.isChain_cons_cons.mp (List.IsChain.right_of_append spaced)).1
  have token : first.token = .semicolon :=
    (congrArg Mark.token found).trans isSemicolon
  have follows := pair token
  rwa [show second.token = next.token from congrArg Mark.token foundNext] at follows

end ScriptTree
