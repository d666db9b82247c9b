import Mathlib.Logic.Function.Basic
import ScriptTree.Proofs.Grammar.Gathering
import ScriptTree.Proofs.Lexeme.Lines
import ScriptTree.Proofs.Lexeme.Printing
import ScriptTree.Proofs.Lexeme.Respelling

/-!
# What a caption tells

The kind of a node and its caption say what the node is, with one proviso: the
name of a class and the name of a builtin type are captions of the same kind.
No class of a source is named like a builtin type, since such a name is a
keyword, and no class is without a name.

A caption has no line breaks, since what it is made of stands on one line of the
source.
-/

namespace ScriptTree

/-! ## Labels and spellings -/

/-- A kind is known by its label. -/
theorem NodeKind.ofLabel?_label (kind : NodeKind) : ofLabel? kind.label = some kind := by
  cases kind <;> decide

/-- Kinds have different labels. -/
theorem NodeKind.label_injective : Function.Injective label := fun first second same =>
  Option.some.inj (by rw [← ofLabel?_label first, same, ofLabel?_label])

theorem Field.ofLabel?_label (field : Field) : ofLabel? field.label = some field := by
  cases field <;> decide

theorem Field.label_injective : Function.Injective label := fun first second same =>
  Option.some.inj (by rw [← ofLabel?_label first, same, ofLabel?_label])

/-- A fixed text belongs to one token, the one that it is cut as. -/
theorem Token.eq_of_spelling_eq {first second : Token} (fixed : first.isFixed = true)
    (alsoFixed : second.isFixed = true)
    (same : first.spelling?.getD "" = second.spelling?.getD "") : first = second := by
  have here := Mark.isSpellable_of_isFixed fixed
  have there := Mark.isSpellable_of_isFixed alsoFixed
  simp only [Mark.isSpellable, Bool.and_eq_true, decide_eq_true_eq] at here there
  have chars : (Mark.mk first none).chars = (Mark.mk second none).chars :=
    congrArg String.toList same
  have pieces := here.1.1.1
  rw [chars, there.1.1.1] at pieces
  exact congrArg Piece.token (List.cons.inj pieces).1.symm

/-- Operators that are known by their tokens are known by their spellings. -/
theorem injective_spelling {Operator : Type} {token : Operator → Token}
    {recognize : Token → Option Operator}
    (recognizes : ∀ {found : Token} {operator : Operator},
      recognize found = some operator ↔ token operator = found)
    (fixed : ∀ operator, (token operator).isFixed = true) :
    Function.Injective fun operator => (token operator).spelling?.getD "" := by
  intro first second same
  have tokens := Token.eq_of_spelling_eq (fixed first) (fixed second) same
  exact Option.some.inj ((recognizes.mpr rfl).symm.trans (recognizes.mpr tokens.symm))

/-- Binary operators are spelled differently. -/
theorem BinaryOperator.spelling_injective : Function.Injective spelling :=
  injective_spelling ofToken?_eq_some_iff fun operator => by cases operator <;> rfl

theorem UnaryOperator.spelling_injective : Function.Injective spelling :=
  injective_spelling ofToken?_eq_some_iff fun operator => by cases operator <;> rfl

theorem AssignmentOperator.spelling_injective : Function.Injective spelling :=
  injective_spelling ofToken?_eq_some_iff fun operator => by cases operator <;> rfl

theorem VariableKind.spelling_injective : Function.Injective spelling :=
  injective_spelling ofToken?_eq_some_iff fun kind => by cases kind <;> rfl

/-- A qualifier that may be absent is told by its spelling, since none is spelled by nothing. -/
theorem VariableKind.eq_of_optional_spelling_eq {first second : Option VariableKind}
    (same : (first.map spelling).getD "" = (second.map spelling).getD "") : first = second := by
  have written : ∀ kind : VariableKind, kind.spelling ≠ "" := by
    intro kind
    cases kind <;> decide
  cases first with
  | none =>
    cases second with
    | none => rfl
    | some kind => exact absurd same.symm (written kind)
  | some kind =>
    cases second with
    | none => exact absurd same (written kind)
    | some other => exact congrArg some (spelling_injective same)

/-! ## Types -/

namespace TypeName

/-- The types that no class is. -/
def plain : List TypeName :=
  [.void, .int, .float, .string, .missing]

/-- The texts that name no class. -/
def reserved : List String :=
  plain.map text

/-- The name of a class is the text of no other type. -/
def IsProper (type : TypeName) : Prop :=
  ∀ name, type = .named name → name ∉ reserved

/-- A type is one of the built-in ones or a name. -/
theorem mem_plain_or_named (type : TypeName) : type ∈ plain ∨ ∃ name, type = .named name := by
  cases type with
  | named name => exact .inr ⟨name, rfl⟩
  | _ => exact .inl (by decide)

/-- Types are told apart by their texts, as no name is that of a built-in type. -/
theorem eq_of_text_eq {first second : TypeName} (proper : first.IsProper)
    (alsoProper : second.IsProper) (same : first.text = second.text) : first = second := by
  have apart : ∀ first ∈ plain, ∀ second ∈ plain, first.text = second.text → first = second := by
    decide
  have kept : ∀ type ∈ plain, type.text ∈ reserved := fun _ => List.mem_map_of_mem
  rcases first.mem_plain_or_named with known | ⟨name, rfl⟩
  · rcases second.mem_plain_or_named with alsoKnown | ⟨name, rfl⟩
    · exact apart first known second alsoKnown same
    · have taken := kept first known
      rw [same] at taken
      exact absurd taken (alsoProper name rfl)
  · rcases second.mem_plain_or_named with known | ⟨other, rfl⟩
    · have taken := kept second known
      rw [← same] at taken
      exact absurd taken (proper name rfl)
    · exact congrArg named same

end TypeName

/-! ## Contents -/

/-- The type that a node names, if it is a node of that kind, is told by its caption. -/
def Content.IsProper (content : Content) : Prop :=
  ∀ type, content = .type type → type.IsProper

/-- Contents of one kind are told apart by their captions. -/
theorem Content.eq_of_caption_eq {first second : Content} (proper : first.IsProper)
    (alsoProper : second.IsProper) (kinds : first.kind = second.kind)
    (captions : first.caption = second.caption) : first = second := by
  -- Of the contents of one kind only those with data of their own are left.
  cases first <;> cases second <;> cases kinds <;> try rfl
  case parameter.parameter =>
    exact congrArg parameter (VariableKind.eq_of_optional_spelling_eq captions)
  case variableDeclaration.variableDeclaration =>
    exact congrArg variableDeclaration (VariableKind.spelling_injective captions)
  case assignmentStatement.assignmentStatement =>
    exact congrArg assignmentStatement (AssignmentOperator.spelling_injective captions)
  case binaryExpression.binaryExpression =>
    exact congrArg binaryExpression (BinaryOperator.spelling_injective captions)
  case unaryExpression.unaryExpression =>
    exact congrArg unaryExpression (UnaryOperator.spelling_injective captions)
  case identifier.identifier => exact congrArg identifier captions
  case type.type =>
    exact congrArg type (TypeName.eq_of_text_eq (proper _ rfl) (alsoProper _ rfl) captions)
  case number.number => exact congrArg number captions
  case string.string => exact congrArg string captions
  case boolean.boolean one other =>
    have apart : ∀ one other : Bool,
        (boolean one).caption = (boolean other).caption → one = other := by
      decide
    exact congrArg boolean (apart one other captions)

/-! ## The names of classes -/

namespace Piece

/-- A name is a word that is no keyword. -/
theorem classify_of_identifier {first : Char} {rest : List Char}
    (found : (cut first rest).1.token = .identifier) :
    Keyword.classify (cut first rest).1.text = .identifier := by
  rw [← token_cut_of_isWordStart (isWordStart_of_isWord (.inr found)), found]

end Piece

/-- A name in a source is the text of no type but the class that it names. -/
theorem Lexing.not_mem_reserved {source : String} {lexeme : Lexeme}
    (member : lexeme ∈ (ofSource source).lexemes) (found : lexeme.token = .identifier) :
    lexeme.text ∉ TypeName.reserved := by
  have keywords : ∀ text ∈ TypeName.reserved, text.isEmpty = true ∨
      ∃ entry ∈ Keyword.table, entry.1 ≠ .identifier ∧ entry.2 = text := by
    decide
  intro reserved
  rcases keywords _ reserved with empty | ⟨entry, tabled, keyword, spelled⟩
  · exact absurd (text_nonempty member) (by simp [empty])
  · rcases Lexeme.exists_cut_of_mem_tokenize (List.mem_of_mem_filter member) with
      ⟨-, first, rest, -, -, token, text⟩
    have name := Piece.classify_of_identifier (token.symm.trans found)
    have classified := (Keyword.table_spelling entry tabled _ List.mem_cons_self).1
    rw [spelled, text, name] at classified
    exact keyword classified.symm

/-- The parse makes proper contents, where no identifier is the name of a built-in type. -/
theorem marksLeaves_isProper :
    Grammar.MarksLeaves
      (fun state => ∀ lexeme ∈ state.rest, lexeme.token = .identifier →
        lexeme.text ∉ TypeName.reserved)
      fun node => node.content.IsProper where
  kept := fun moves names lexeme member => names lexeme (moves.rest_suffix.subset member)
  plain := by
    rintro ⟨content, _, _, _⟩ parts type rfl
    cases parts
  name := by
    rintro state next lexeme _ _ type ⟨⟩
  nameMissing := by
    rintro state _ type ⟨⟩
  type := by
    intro state next value reads names
    cases reads with
    | @typeTaken _ lexeme _ taken =>
      rintro _ ⟨⟩ name named
      rcases Grammar.recognizeType_eq_some_iff.mp taken.recognized with keyword | found
      · cases token : lexeme.token <;> rw [token] at keyword named <;> cases keyword <;>
          cases named
      · rw [found] at named
        cases named
        exact names lexeme taken.mem_rest found
    | typeMissing =>
      rintro _ ⟨⟩ name ⟨⟩
  literal := by
    intro state next literal lexeme _ _
    cases literal <;> rintro type ⟨⟩

/-- Every node of a parsed tree has a proper content. -/
theorem isProper_of_mem_descendants (source : String) (options : ParseOptions) {node : Node}
    (member : node ∈ (parse source options).root.descendants) : node.content.IsProper :=
  forall_mem_descendants_root marksLeaves_isProper.spreads options
    (fun _ => Lexing.not_mem_reserved) node member

/-! ## Captions on one line -/

section

open Piece (OnOneLine onOneLine_nil)

/-- Nodes that are no leaves have captions on one line. -/
theorem Content.onOneLine_caption {content : Content} (plain : content.kind.isLeaf = false) :
    OnOneLine content.caption.toList := by
  cases content with
  | binaryExpression operator => cases operator <;> decide
  | unaryExpression operator => cases operator <;> decide
  | assignmentStatement operator => cases operator <;> decide
  | variableDeclaration kind => cases kind <;> decide
  | parameter qualifier => rcases qualifier with _ | _ | _ <;> decide
  | identifier | type | number | string | boolean => cases plain
  | _ => exact onOneLine_nil

/-- The built-in types have texts on one line. -/
theorem TypeName.onOneLine_text {type : TypeName} (builtin : type.isBuiltin = true) :
    OnOneLine type.text.toList := by
  cases type with
  | named | missing => cases builtin
  | _ => decide

/-- The leaves of a parse have captions on one line, where the lexemes ahead stand on one. -/
theorem marksLeaves_onOneLine :
    Grammar.MarksLeaves (fun state => ∀ lexeme ∈ state.rest, OnOneLine lexeme.text.toList)
      fun node => OnOneLine node.content.caption.toList where
  kept := fun moves lines lexeme member => lines lexeme (moves.rest_suffix.subset member)
  plain := fun _ => Content.onOneLine_caption
  name := fun taken lines => lines _ taken.mem_rest
  nameMissing := fun _ _ => onOneLine_nil
  type := by
    intro state next value reads lines
    cases reads with
    | @typeTaken _ lexeme _ taken =>
      cases builtin : TypeName.builtin? lexeme.token with
      | none => exact lines _ taken.mem_rest
      | some name => exact TypeName.onOneLine_text (TypeName.isBuiltin_of_builtin? builtin)
    | typeMissing => exact onOneLine_nil
  literal := by
    intro state next literal lexeme taken lines
    cases literal with
    | identifier | number | string => exact lines _ taken.mem_rest
    | boolean value =>
      have either : ∀ value, OnOneLine (Content.boolean value).caption.toList := by decide
      exact either value
    | error => exact onOneLine_nil

/-- What labels a node in the tree of a source has no line breaks. -/
theorem onOneLine_caption_parse (source : String) (options : ParseOptions) {node : Node}
    (member : node ∈ (parse source options).root.descendants) :
    OnOneLine node.content.caption.toList :=
  forall_mem_descendants_root marksLeaves_onOneLine.spreads options
    (fun _ => Lexing.onOneLine) node member

end

end ScriptTree
