import ScriptTree.Json.Library
import ScriptTree.Number.Integer
import ScriptTree.Parse
import ScriptTree.Text.Members
import ScriptTree.Yaml.Library

/-!
# Options in files

Options are read from JSON and YAML.  Every option may be left out, and no other
name is accepted.  In JSON the options may also stand in an array, in the order
of their declaration.
-/

namespace ScriptTree

/-- In which language the options of a parse were not understood. -/
inductive OptionsError where
  | json
  | yaml
deriving DecidableEq

/-- What a failure to read options says to its reader. -/
def OptionsError.message : OptionsError → String
  | .json => "Invalid JSON options"
  | .yaml => "Invalid YAML options"

namespace ParseOptions

/-- The names of the options, in the order in which an array lists their values. -/
def names : List String :=
  ["collect_trivia", "max_diagnostics"]

/-- Options from named values, with a decoder for each option. -/
def ofMembers {m : Type → Type} [Monad m] [MonadLiftT Option m] {α : Type}
    (switch : α → m Bool) (limit : α → m (Option Nat)) (members : List (String × α)) :
    m ParseOptions := do
  if members.all fun member => member.1 ∈ names then
    let collectTrivia ← decodeOr true switch (← memberOf? "collect_trivia" members)
    let maxDiagnostics ← decodeOr none limit (← memberOf? "max_diagnostics" members)
    return { collectTrivia, maxDiagnostics }
  else
    liftM (none : Option ParseOptions)

/-- A truth value. -/
def jsonSwitch? : Json → Option Bool
  | .bool value => some value
  | _ => none

/-- A limit, where null stands for none. -/
def jsonLimit? : Json → Option (Option Nat)
  | .null => some none
  | .number literal => ((Number.natural? literal.toList).filter (· < Nat.pow 2 64)).map some
  | _ => none

/-- Options are an object with names, or an array without. -/
def ofJson? : Json → Option ParseOptions
  | .object members => ofMembers jsonSwitch? jsonLimit? members
  | .array values =>
    if values.length ≤ names.length then
      ofMembers jsonSwitch? jsonLimit? (names.zip values)
    else
      none
  | _ => none

/-- A truth value, in one of its spellings and not in quotes. -/
def decodeYamlSwitch (anchors : List (Nat × Yaml)) (node : Yaml) : Yaml.Decoding Bool := do
  let text ← Yaml.typedText? "bool" (← Yaml.resolve anchors node)
  Yaml.bool? text

/-- A limit, where nothing and null stand for none. -/
def decodeYamlLimit (anchors : List (Nat × Yaml)) : Yaml → Yaml.Decoding (Option Nat) :=
  Yaml.decodeOption anchors fun node =>
    (Yaml.typedText? "int" node).bind (Yaml.unsigned? (Nat.pow 2 64))

/-- Options are a mapping.  There may also be nothing at all. -/
def decodeYaml (anchors : List (Nat × Yaml)) (node : Yaml) : Yaml.Decoding ParseOptions := do
  match ← Yaml.resolve anchors node with
  | .mapping entries =>
    ofMembers (decodeYamlSwitch anchors) (decodeYamlLimit anchors)
      (← Yaml.decodeMembers anchors entries)
  | node => if node.isAbsent then return {} else failure

/-- Read options from JSON. -/
def readJson (text : String) (library : Json.Library := .standard) :
    Except OptionsError ParseOptions :=
  match (library.read? text).bind ofJson? with
  | some options => .ok options
  | none => .error .json

/-- Read options from YAML. -/
def readYaml (text : String) (library : Yaml.Library := .standard) :
    Except OptionsError ParseOptions :=
  match library.decode? decodeYaml text with
  | some options => .ok options
  | none => .error .yaml

end ParseOptions

end ScriptTree
