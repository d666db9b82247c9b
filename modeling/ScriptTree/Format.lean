import ScriptTree.Format.SExpression
import ScriptTree.Format.TreeDrawing
import ScriptTree.Snapshot.Json
import ScriptTree.Snapshot.Yaml

/-!
# Output formats

A format turns a whole program into text.  Formats are kept under their names,
so that one can be chosen by a word, from a command line or from the settings of
an editor.
-/

namespace ScriptTree

/-- Why a tree was not rendered. -/
inductive FormatError where
  | unknown (name : String)
  | failed (reason : String)
deriving DecidableEq

/-- What a failure to render says to its reader. -/
def FormatError.message : FormatError → String
  | .unknown name => s!"unknown format `{name}`"
  | .failed reason => s!"cannot serialize the tree: {reason}"

/-- A way to write a tree down, with the name it is asked for by. -/
structure Format where
  name : String
  /-- One line for listings. -/
  description : String := ""
  render : Program → Except FormatError String

namespace Format

/-- The tree as a nested expression. -/
def sexp : Format where
  name := "sexp"
  description := "Tree-sitter style S-expression with field names"
  render program := .ok program.toNode.sexp

/-- The tree drawn line by line. -/
def drawing : Format where
  name := "treeviz"
  description := "Visual tree representation with indentation and Unicode icons"
  render program := .ok (program.toNode.drawing false)

/-- A snapshot of the tree in JSON. -/
def json : Format where
  name := "json"
  description := "Tree snapshot as pretty-printed JSON"
  render program := .ok (Snapshot.ofProgram program).jsonText

/-- A snapshot of the tree in YAML. -/
def yaml : Format where
  name := "yaml"
  description := "Tree snapshot as YAML"
  render program := .ok (Snapshot.ofProgram program).yamlText

/-- A format in one line of a listing. -/
def describe (format : Format) : String :=
  s!"{format.name}: {format.description}"

end Format

/-- Formats by name, in the order of their names. -/
abbrev FormatRegistry := NameMap Format

namespace FormatRegistry

/-- Add a format; one of the same name gives way. -/
def register (registry : FormatRegistry) (format : Format) : FormatRegistry :=
  registry.insert format.name format

/-- The formats that are always there. -/
def standard : FormatRegistry :=
  [Format.sexp, .drawing, .json, .yaml].foldl register NameMap.empty

/-- Renders a program in the format of a name, or says that there is none. -/
def render (registry : FormatRegistry) (program : Program) (name : String) :
    Except FormatError String :=
  match registry.find? name with
  | some format => format.render program
  | none => .error (.unknown name)

/-- The name and the description of every format. -/
def describe (registry : FormatRegistry) : List String :=
  registry.entries.map fun entry => entry.2.describe

end FormatRegistry

end ScriptTree
