import ScriptTree.Grammar.Program
import ScriptTree.Proofs.Syntax.Complete

/-!
# First tokens

What a complete node is written as is never empty, and its first token is one
by which the grammar recognizes the node.
-/

namespace ScriptTree

open Grammar Slot

/-- The first token that slots are written as. -/
def Slot.firstToken? (slots : List Slot) : Option Token :=
  slots.head?.map Slot.token

namespace Slot

@[simp]
theorem firstToken?_required_append (token : Token) (place : Option Range)
    (rest : List Slot) : firstToken? (required token place ++ rest) = some token :=
  rfl

/-- The first token of a row is the first token of its first part that has any. -/
theorem firstToken?_append {first : List Slot} {token : Token}
    (found : firstToken? first = some token) (rest : List Slot) :
    firstToken? (first ++ rest) = some token := by
  cases first with
  | nil => cases found
  | cons slot more => exact found

theorem ne_nil_of_firstToken? {slots : List Slot} {token : Token}
    (found : firstToken? slots = some token) : slots ≠ [] := by
  rintro rfl
  cases found

end Slot

/-- The tokens that a statement can start with. -/
def startsStatement : Token → Bool
  | .kwIf | .kwReturn | .kwVar | .kwConst | .lBrace => true
  | token => startsExpression token && !token.isError

theorem TypeReference.exists_firstToken? {reference : TypeReference}
    (complete : reference.isComplete = true) :
    ∃ token, firstToken? reference.slots = some token ∧
      State.recognizeType token = some () := by
  obtain ⟨type, range⟩ := reference
  cases type with
  | missing => cases complete
  | _ => exact ⟨_, rfl, rfl⟩

/-- The first token of an expression is that of its leftmost part. -/
theorem Expression.exists_firstToken? {expression : Expression}
    (complete : expression.isComplete = true) :
    ∃ token, firstToken? expression.slots = some token ∧ startsExpression token = true ∧
      token.isError = false := by
  cases expression with
  | binary operator left sign right =>
    simp only [isComplete, Bool.and_eq_true] at complete
    obtain ⟨token, found, opens⟩ := exists_firstToken? complete.1
    rw [slots, List.append_assoc]
    exact ⟨token, firstToken?_append found _, opens⟩
  | unary operator sign operand => cases operator <;> exact ⟨_, by rw [slots]; rfl, rfl, rfl⟩
  | arrayAccess array opening index closing =>
    simp only [isComplete, Bool.and_eq_true] at complete
    obtain ⟨token, found, opens⟩ := exists_firstToken? complete.1.1
    rw [slots, List.append_assoc, List.append_assoc]
    exact ⟨token, firstToken?_append found _, opens⟩
  | memberAccess object dot member =>
    simp only [isComplete, Bool.and_eq_true] at complete
    obtain ⟨token, found, opens⟩ := exists_firstToken? complete.1
    rw [slots, List.append_assoc]
    exact ⟨token, firstToken?_append found _, opens⟩
  | call function opening items closing =>
    simp only [isComplete, Bool.and_eq_true] at complete
    obtain ⟨token, found, opens⟩ := exists_firstToken? complete.1.1.1
    rw [slots, List.append_assoc, List.append_assoc]
    exact ⟨token, firstToken?_append found _, opens⟩
  | parenthesized => exact ⟨.lParen, by rw [slots]; rfl, rfl, rfl⟩
  | boolean literal =>
    obtain ⟨value, range⟩ := literal
    cases value <;> exact ⟨_, by rw [slots]; rfl, rfl, rfl⟩
  | number => exact ⟨.number, by rw [slots]; rfl, rfl, rfl⟩
  | string => exact ⟨.string, by rw [slots]; rfl, rfl, rfl⟩
  | identifier => exact ⟨.identifier, by rw [slots]; rfl, rfl, rfl⟩
  | arrayInitializer | error => simp [isComplete] at complete

theorem Expression.exists_firstToken?_listSlots {items : List (Expression × Option Range)}
    (nonempty : items ≠ []) (complete : areComplete items = true) :
    ∃ token, firstToken? (listSlots items) = some token ∧ startsExpression token = true ∧
      token.isError = false := by
  cases items with
  | nil => exact absurd rfl nonempty
  | cons item rest =>
    rw [areComplete, Bool.and_eq_true, Bool.and_eq_true] at complete
    rcases exists_firstToken? complete.1.1 with ⟨token, found, opens⟩
    rw [listSlots, List.append_assoc]
    exact ⟨token, firstToken?_append found _, opens⟩

theorem ne_of_startsExpression {token other : Token} (starts : startsExpression token = true)
    (closes : startsExpression other = false) : token ≠ other := by
  rintro rfl
  rw [starts] at closes
  cases closes

theorem VariableDeclaration.firstToken?_slots (declaration : VariableDeclaration) :
    firstToken? declaration.slots = some declaration.kind.token :=
  rfl

theorem startsStatement_of_startsExpression {token : Token}
    (starts : startsExpression token = true) (readable : token.isError = false) :
    startsStatement token = true := by
  unfold startsStatement
  split
  all_goals simp_all

theorem Statement.exists_firstToken? {statement : Statement}
    (complete : statement.isComplete = true) :
    ∃ token, firstToken? statement.slots = some token ∧ startsStatement token = true := by
  match statement with
  | .assignmentStatement assignment =>
    simp only [isComplete, AssignmentStatement.isComplete, Bool.and_eq_true] at complete
    obtain ⟨token, found, opens⟩ := Expression.exists_firstToken? complete.1.1.1.1
    rw [slots, AssignmentStatement.slots, List.append_assoc, List.append_assoc]
    exact ⟨token, firstToken?_append found _,
      startsStatement_of_startsExpression opens.1 opens.2⟩
  | .expressionStatement inner =>
    simp only [isComplete, ExpressionStatement.isComplete, Bool.and_eq_true] at complete
    obtain ⟨token, found, opens⟩ := Expression.exists_firstToken? complete.1
    rw [slots, ExpressionStatement.slots]
    exact ⟨token, firstToken?_append found _,
      startsStatement_of_startsExpression opens.1 opens.2⟩
  | .ifStatement _ _ _ none => exact ⟨.kwIf, by rw [slots]; rfl, rfl⟩
  | .ifStatement _ _ _ (some _) => exact ⟨.kwIf, by rw [slots]; rfl, rfl⟩
  | .returnStatement _ => exact ⟨.kwReturn, by rw [slots]; rfl, rfl⟩
  | .variableDeclaration declaration =>
    obtain ⟨kind, _⟩ := declaration
    cases kind <;> exact ⟨_, by rw [slots]; rfl, rfl⟩
  | .block (.written _ _ _) => exact ⟨.lBrace, by rw [slots, Block.slots]; rfl, rfl⟩
  | .block (.missing _ _) => simp [isComplete, Block.isComplete] at complete
  | .error _ => simp [isComplete] at complete

theorem Block.firstToken?_slots (block : Block) : firstToken? block.slots = some .lBrace := by
  cases block <;>
    (rw [slots]
     rfl)

/-- Only a block starts with a brace. -/
theorem Statement.firstToken?_ne_lBrace {statement : Statement}
    (complete : statement.isComplete = true) (plain : statement.isBlock = false) :
    firstToken? statement.slots ≠ some .lBrace := by
  have ofExpression : ∀ {expression : Expression} {rest : List Slot},
      expression.isComplete = true → firstToken? (expression.slots ++ rest) ≠ some .lBrace := by
    intro expression rest complete
    rcases Expression.exists_firstToken? complete with ⟨token, found, opens, -⟩
    rw [firstToken?_append found]
    exact fun same => ne_of_startsExpression opens rfl (Option.some.inj same)
  match statement with
  | .assignmentStatement assignment =>
    simp only [isComplete, AssignmentStatement.isComplete, Bool.and_eq_true] at complete
    rw [slots, AssignmentStatement.slots, List.append_assoc, List.append_assoc]
    exact ofExpression complete.1.1.1.1
  | .expressionStatement inner =>
    simp only [isComplete, ExpressionStatement.isComplete, Bool.and_eq_true] at complete
    rw [slots, ExpressionStatement.slots]
    exact ofExpression complete.1
  | .ifStatement _ _ _ none => rw [slots]; nofun
  | .ifStatement _ _ _ (some _) => rw [slots]; nofun
  | .returnStatement _ => rw [slots]; nofun
  | .variableDeclaration declaration =>
    rw [slots, VariableDeclaration.firstToken?_slots]
    cases declaration.kind <;> nofun
  | .block _ => cases plain
  | .error _ => simp [isComplete] at complete

theorem Branch.exists_firstToken? {branch : Branch} (complete : branch.isComplete = true) :
    ∃ token, firstToken? branch.slots = some token ∧ startsStatement token = true := by
  cases branch with
  | missing => simp [isComplete] at complete
  | written statement semicolon =>
    rw [isComplete, Bool.and_eq_true] at complete
    rcases Statement.exists_firstToken? complete.1 with ⟨token, found, opens⟩
    rw [slots]
    exact ⟨token, firstToken?_append found _, opens⟩

theorem ClassItem.exists_firstToken? {item : ClassItem} (complete : item.isComplete = true) :
    ∃ token, firstToken? item.slots = some token ∧ startsStatement token = true := by
  match item with
  | .member (.variableDeclaration declaration) =>
    have whole : (Statement.variableDeclaration declaration).isComplete = true := by
      rw [Statement.isComplete]
      exact complete
    exact Statement.exists_firstToken? whole
  | .member (.assignmentStatement assignment) =>
    have whole : (Statement.assignmentStatement assignment).isComplete = true := by
      rw [Statement.isComplete]
      exact complete
    exact Statement.exists_firstToken? whole
  | .member (.error _) | .abandoned _ => cases complete

theorem Declaration.exists_firstToken? {declaration : Declaration}
    (complete : declaration.isComplete = true) :
    ∃ token, firstToken? declaration.slots = some token ∧
      token.isDeclarationKeyword = true := by
  match declaration with
  | .instanceDeclaration _ => exact ⟨.kwInstance, rfl, rfl⟩
  | .prototypeDeclaration _ => exact ⟨.kwPrototype, rfl, rfl⟩
  | .functionDeclaration _ => exact ⟨.kwFunc, rfl, rfl⟩
  | .classDeclaration _ => exact ⟨.kwClass, rfl, rfl⟩
  | .variableDeclaration declaration =>
    obtain ⟨kind, _⟩ := declaration
    cases kind <;> exact ⟨_, rfl, rfl⟩
  | .error _ => cases complete

end ScriptTree
