import ScriptTree.Snapshot.Json
import ScriptTree.Yaml.Library

/-!
# Snapshots as YAML

A snapshot has the same entries in YAML as it has members in JSON, and those that
are empty are left out as well.  The reader takes the entries in any order and
ignores others.  An entry that is there twice is an error, a name that is there
twice among the attributes is none.

The text itself is written and read by a library.  The decoder counts the
collections that it enters, and gives up where the library does.
-/

namespace ScriptTree.Snapshot

/-- The text of a snapshot in YAML. -/
def yamlText (snapshot : Snapshot) (library : Yaml.Library := .standard) : String :=
  library.write snapshot.toJson

/-- The attributes of a snapshot, in a mapping that has room for `room` levels. -/
def decodeYamlAttributes (anchors : List (Nat × Yaml)) (room : Nat) (node : Yaml) :
    Yaml.Decoding Attributes := do
  match ← Yaml.resolve anchors node with
  | .mapping entries =>
    if room = 0 then
      failure
    else
      let members ← Yaml.decodeMembers anchors entries
      let texts ← members.mapM fun entry =>
        return (entry.1, ← Yaml.decodeText anchors entry.2)
      return NameMap.ofList texts
  | node => if node.isAbsent then return NameMap.empty else failure

/-- The text of a field, or nothing. -/
def decodeYamlField (anchors : List (Nat × Yaml)) : Yaml → Yaml.Decoding (Option String) :=
  Yaml.decodeOption anchors fun node =>
    match node with
    | .scalar _ _ text => some text
    | _ => none

/-- Decode the children of a snapshot, in a sequence that has room for `room` levels. -/
def decodeYamlChildren (room : Nat) (decode : Yaml → Yaml.Decoding Snapshot) :
    Yaml → Yaml.Decoding (List Snapshot)
  | .sequence items => if room = 0 then failure else items.mapM decode
  | node => if node.isAbsent then return [] else failure

/-- Decode the entries of a snapshot that have room for `room` levels, its children by `decode`. -/
def decodeYamlMembers (anchors : List (Nat × Yaml)) (room : Nat)
    (decode : Yaml → Yaml.Decoding Snapshot) (members : List (String × Yaml)) :
    Yaml.Decoding Snapshot := do
  let nodeType ← decodeRequired (Yaml.decodeText anchors) (← memberOf? "node_type" members)
  let label ← decodeRequired (Yaml.decodeText anchors) (← memberOf? "label" members)
  let field ← decodeOr none (decodeYamlField anchors) (← memberOf? "field" members)
  let attributes ←
    decodeOr NameMap.empty (decodeYamlAttributes anchors room) (← memberOf? "attributes" members)
  let children ← decodeOr .absent (Yaml.resolve anchors) (← memberOf? "children" members)
  return .mk nodeType label field attributes (← decodeYamlChildren room decode children)

/-- Decode a snapshot whose entries have room for `room` levels of sequences and mappings. -/
def decodeYamlNode (anchors : List (Nat × Yaml)) (room : Nat)
    (decode : Yaml → Yaml.Decoding Snapshot) (node : Yaml) : Yaml.Decoding Snapshot := do
  match ← Yaml.resolve anchors node with
  | .mapping entries =>
    decodeYamlMembers anchors room decode (← Yaml.decodeMembers anchors entries)
  | _ => failure

/-- Decode a snapshot that has room for `room` levels: one for its entries, and one more for its
children. -/
def decodeYaml (anchors : List (Nat × Yaml)) : (room : Nat) → Yaml → Yaml.Decoding Snapshot
  | 0, _ => failure
  | 1, node => decodeYamlNode anchors 0 (fun _ => failure) node
  | room + 2, node => decodeYamlNode anchors (room + 1) (decodeYaml anchors room) node

/-- Read a snapshot from YAML. -/
def ofYamlText? (text : String) (library : Yaml.Library := .standard) : Option Snapshot :=
  library.decode? (decodeYaml · library.nestingLimit) text

end ScriptTree.Snapshot
