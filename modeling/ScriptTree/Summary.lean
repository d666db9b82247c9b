import ScriptTree.Node.Assembly

/-!
# Summaries of declarations

A flat listing of the top-level declarations of a program, for outlines and
quick indexes.  Error nodes declare nothing and are left out.
-/

namespace ScriptTree

/-- What a declaration declares.  Constants are told apart from variables. -/
inductive DeclarationKind where
  | instanceKind
  | prototypeKind
  | functionKind
  | variableKind
  | constantKind
  | classKind
deriving DecidableEq

/-- What is declared, in a word. -/
def DeclarationKind.name : DeclarationKind → String
  | .instanceKind => "instance"
  | .prototypeKind => "prototype"
  | .functionKind => "function"
  | .variableKind => "variable"
  | .constantKind => "constant"
  | .classKind => "class"

/-- A declaration in a few words, for an outline of its source. -/
structure DeclarationSummary where
  kind : DeclarationKind
  name : String
  /-- The parent of an instance or a prototype. -/
  parent : Option String := none
  /-- The result of a function, and the type of a variable. -/
  typeName : Option String := none
  range : Range
deriving DecidableEq

namespace DeclarationSummary

/-- A summary on one line. -/
def display (summary : DeclarationSummary) : String :=
  s!"{summary.kind.name} {summary.name}" ++
    ((summary.parent.map fun parent => s!"({parent})").getD "" ++
      (summary.typeName.map fun typeName => s!": {typeName}").getD "")

end DeclarationSummary

/-- What a keyword declares. -/
def VariableKind.declarationKind : VariableKind → DeclarationKind
  | .const => .constantKind
  | .var => .variableKind

/-- The summary of a declaration.  An error node has none. -/
def Declaration.summary? (declaration : Declaration) : Option DeclarationSummary :=
  let range := declaration.range
  match declaration with
  | .instanceDeclaration declaration =>
    some
      { kind := .instanceKind
        name := declaration.name.name
        parent := declaration.parent.map fun parent => parent.name.name
        range }
  | .prototypeDeclaration declaration =>
    some
      { kind := .prototypeKind
        name := declaration.name.name
        parent := some declaration.parent.name
        range }
  | .functionDeclaration declaration =>
    some
      { kind := .functionKind
        name := declaration.name.name
        typeName := some declaration.returnType.type.text
        range }
  | .variableDeclaration declaration =>
    some
      { kind := declaration.kind.declarationKind
        name := declaration.name.name
        typeName := some declaration.type.type.text
        range }
  | .classDeclaration declaration =>
    some { kind := .classKind, name := declaration.name.name, range }
  | .error _ => none

/-- The summaries of the top-level declarations, in source order. -/
def Program.summaries (program : Program) : List DeclarationSummary :=
  program.declarations.filterMap Declaration.summary?

end ScriptTree
