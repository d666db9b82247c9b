import ScriptTree.Proofs.Acceptance
import ScriptTree.Proofs.Grammar.Expressions
import ScriptTree.Proofs.Grammar.Gathering
import ScriptTree.Proofs.Lexeme.Enclosing
import ScriptTree.Proofs.Node.Unplaced
import ScriptTree.Proofs.ReadingBack

/-!
# Expressions read again

In a source without errors each expression stands in a row of lexemes, which are
what it is written as.  Its text can be taken out of the source and made the value
of a constant: between the sign and the semicolon it is cut into the same lexemes,
and these are read as the same expression, wherever it stood before.
-/

namespace ScriptTree

/-! ## A constant with a value -/

/-- What a constant is written with in front of its value. -/
def constantHeading : List Mark :=
  [⟨.kwConst, none⟩, ⟨.kwInt, none⟩, ⟨.identifier, some "A"⟩, ⟨.assign, none⟩]

/-- The words in front of the value can be written. -/
theorem isSpellable_of_mem_constantHeading : ∀ mark ∈ constantHeading, mark.isSpellable = true := by
  decide +kernel

theorem mark_piece_of_mem_constantHeading : ∀ mark ∈ constantHeading, mark.piece.mark = mark := by
  decide +kernel

/-- A value behind a heading is a declaration of a constant. -/
theorem enclosed_constantHeading (part : String) :
    Lexing.enclosed constantHeading part = "const int A = " ++ part ++ ";" := by
  have printed : Mark.print constantHeading = "const int A = ".toList := by decide +kernel
  rw [Lexing.enclosed, printed, String.ofList_append, String.ofList_append, String.ofList_toList,
    String.ofList_toList, ← String.append_assoc]

/-- A constant with a value, in no particular place. -/
def VariableDeclaration.constant (value : Expression) : VariableDeclaration where
  kind := .const
  keyword := default
  type := ⟨.int, default⟩
  name := ⟨"A", default⟩
  size := none
  initializer := some ⟨default, value⟩
  terminator := some default

/-- A program that is one constant. -/
def Program.constant (value : Expression) : Program where
  declarations := [.variableDeclaration (.constant value)]
  range := default

/-- A constant of a complete and grouped value is well formed. -/
theorem Program.isWellFormed_constant {value : Expression} (complete : value.isComplete = true)
    (grouped : value.isGrouped = true) : (constant value).isWellFormed = true := by
  have named : Identifier.isComplete ⟨"A", default⟩ = true := by decide
  rw [isWellFormed, constant, List.all_cons, List.all_nil, Bool.and_true,
    Declaration.isWellFormed, Bool.and_eq_true]
  constructor
  · simp [Declaration.isComplete, VariableDeclaration.constant, named, TypeReference.isComplete,
      Expression.isCompleteValue_of_isComplete complete]
  · simpa [Declaration.isGrouped, VariableDeclaration.isGrouped, VariableDeclaration.constant]
      using grouped

/-- A constant is written as its heading, its value and a semicolon. -/
theorem Program.writing_constant (value : Expression) :
    (constant value).writing =
      constantHeading ++ (Slot.marks value.slots ++ [⟨.semicolon, none⟩]) := by
  simp only [writing, slots, constant, List.flatMap_singleton, Declaration.slots,
    VariableDeclaration.slots, Slot.marks_append]
  simp [VariableDeclaration.constant, constantHeading]
  exact ⟨rfl, rfl⟩

/-! ## Reading a constant -/

namespace VariableDeclaration

/-- What is a constant with a value, places apart, is a variable with that value. -/
theorem exists_value_of_unplaced {found : Declaration} {value : Expression}
    (alike : found.unplaced = .variableDeclaration (constant value).unplaced) :
    ∃ declaration initializer, found = .variableDeclaration declaration ∧
      declaration.initializer = some initializer ∧
      initializer.value.unplaced = value.unplaced := by
  cases found with
  | variableDeclaration declaration =>
    rcases declaration with ⟨kind, keyword, type, name, size, initializer, terminator⟩
    have same := congrArg VariableDeclaration.initializer
      (Declaration.variableDeclaration.inj alike)
    cases initializer with
    | none => cases same
    | some initializer =>
      exact ⟨_, initializer, rfl, rfl, congrArg Initializer.value (Option.some.inj same)⟩
  | _ => cases alike

/-- The value of a declaration is a child of its node. -/
theorem child?_value {declaration : VariableDeclaration} {initializer : Initializer}
    (written : declaration.initializer = some initializer) :
    declaration.toNode.child? .value = some initializer.value.toNode := by
  rcases declaration with ⟨kind, keyword, type, name, size, value, terminator⟩
  cases written
  rcases size with _ | ⟨opening, size, _ | closing⟩ <;> rfl

end VariableDeclaration

section

variable {source : String} {value : Expression} (complete : value.isComplete = true)
  (grouped : value.isGrouped = true)
  (written : (Lexing.ofSource source).lexemes.map Lexeme.mark = (Program.constant value).writing)
  (options : ParseOptions)

include complete grouped written

/-- A source that writes a constant is read as one declaration, which has the same value. -/
theorem exists_value_of_writing :
    ∃ declaration, (parse source options).root.children = [declaration] ∧
      declaration.kind = .variableDeclaration ∧
        ∃ again, declaration.child? .value = some again ∧
          Snapshot.ofNode false again = Snapshot.ofNode false value.toNode := by
  have wellFormed := Program.isWellFormed_constant complete grouped
  have alike := (parse_of_writing wellFormed written options).1
  rcases List.map_eq_singleton_iff.mp alike with ⟨found, declarations, alike⟩
  rcases VariableDeclaration.exists_value_of_unplaced alike with
    ⟨declaration, initializer, rfl, initialized, same⟩
  refine ⟨declaration.toNode, ?_, rfl, initializer.value.toNode,
    VariableDeclaration.child?_value initialized, ?_⟩
  · rw [ParseResult.children_root, declarations]
    rfl
  · apply Snapshot.ofNode_congr
    rw [Expression.toNode, ← Expression.unplaced_assembly, same, Expression.unplaced_assembly]
    rfl

/-- Where nothing is wrong with its lexemes, it has no errors. -/
theorem hasErrors_eq_false_of_writing
    (errorless : ∀ diagnostic ∈ (Lexing.ofSource source).diagnostics, diagnostic.isError = false) :
    (parse source options).hasErrors = false := by
  have unreported := (program_of_writing (Program.isWellFormed_constant complete grouped) written
    (LineIndex.wholeRange source (.ofSource source))).2
  have none : (parse source options).errorCount = 0 := by
    rw [errorCount_parse, unreported, List.append_nil, List.countP_eq_zero]
    intro diagnostic member
    have lexical := (List.mergeSort_perm ..).mem_iff.mp member
    rw [errorless diagnostic lexical]
    exact Bool.false_ne_true
  rw [ParseResult.hasErrors, none]
  rfl

end

/-! ## Expressions of a source -/

/-- Each expression in the tree of a source without errors stands in its lexemes. -/
theorem standsIn_of_mem_descendants {source : String} {options : ParseOptions}
    (errorless : (parse source options).hasErrors = false) :
    ∀ node ∈ (parse source options).root.descendants,
      node.StandsIn (Lexing.ofSource source).lexemes := by
  rcases exists_clean_reads_of_strict (ParseResult.strict_eq_ok errorless) with
    ⟨final, reads, -, sound, clean⟩
  exact ParseResult.forall_mem_descendants (Node.standsIn_of_isExpression_eq_false rfl)
    ((reads.collects (Grammar.collects_places _) rfl).2 sound List.suffix_rfl clean)

/-- In the tree of a source without errors, the text of every expression is by itself the value of a
constant: the declaration `const int A = …;` of it is read without an error, as one declaration,
and the value of that has the snapshot of the expression, ranges apart. -/
theorem parse_constant_text {source : String} {options : ParseOptions}
    (errorless : (parse source options).hasErrors = false) {node : Node}
    (member : node ∈ (parse source options).root.descendants)
    (expression : node.kind.isExpression = true) :
    (parse ("const int A = " ++ node.text source ++ ";") options).hasErrors = false ∧
      ∃ declaration,
        (parse ("const int A = " ++ node.text source ++ ";") options).root.children =
            [declaration] ∧
          declaration.kind = .variableDeclaration ∧
          ∃ value, declaration.child? .value = some value ∧
            Snapshot.ofNode false value = Snapshot.ofNode false node := by
  rcases standsIn_of_mem_descendants errorless node member expression with ⟨value, rfl, stands⟩
  rcases stands.exists_own with ⟨own, ⟨before, after, within⟩, fills⟩
  have row := Lexing.inRow_lexemes source
  rw [← within, List.map_append, List.map_append] at row
  have stretched := Expression.stretch?_of_forall₂ stands.complete fills row.left.right
  have unreported := (no_error_of_strict (ParseResult.strict_eq_ok errorless)).2
  rcases Lexing.marks_enclosed within.symm stretched
    (fun diagnostic member => unreported diagnostic (List.mem_append_left _ member))
    isSpellable_of_mem_constantHeading mark_piece_of_mem_constantHeading with ⟨marks, lexical⟩
  rw [Slot.marks_of_forall₂ fills, ← Program.writing_constant, enclosed_constantHeading] at marks
  rw [enclosed_constantHeading] at lexical
  exact ⟨hasErrors_eq_false_of_writing stands.complete stands.grouped marks options lexical,
    exists_value_of_writing stands.complete stands.grouped marks options⟩

/-- The left operand of a product that is subtracted, with a comment in an argument. -/
theorem parse_constant_text_signed :
    ∃ node ∈ (parse "const int B = 1 - -a.b(2 /* two */ + 3)[c] * (d == 4);").root.descendants,
      node.kind.isExpression = true ∧
        (parse ("const int A = " ++
          node.text "const int B = 1 - -a.b(2 /* two */ + 3)[c] * (d == 4);" ++ ";")).hasErrors =
            false ∧
        ∃ declaration,
          (parse ("const int A = " ++
            node.text "const int B = 1 - -a.b(2 /* two */ + 3)[c] * (d == 4);" ++
              ";")).root.children = [declaration] ∧
            declaration.kind = .variableDeclaration ∧
            ∃ value, declaration.child? .value = some value ∧
              Snapshot.ofNode false value = Snapshot.ofNode false node := by
  have errorless : (parse "const int B = 1 - -a.b(2 /* two */ + 3)[c] * (d == 4);").hasErrors =
      false := by
    decide +kernel
  have signed :
      (parse "const int B = 1 - -a.b(2 /* two */ + 3)[c] * (d == 4);").root.descendants.any
        (fun node => node.kind = .unaryExpression) = true := by
    decide +kernel
  rcases List.any_eq_true.mp signed with ⟨node, member, kind⟩
  have expression : node.kind.isExpression = true := by
    rw [of_decide_eq_true kind]
    rfl
  exact ⟨node, member, expression, parse_constant_text errorless member expression⟩

end ScriptTree
