import ScriptTree.Text.Members
import ScriptTree.Yaml.Document
import ScriptTree.Yaml.Plain
import ScriptTree.Yaml.Tokens

/-!
# Reading YAML

A text is one document.  A value is decoded from its root node.  A reference is
followed where a value is decoded from it, so the same node can be decoded many
times; how often references are followed in all is limited by the size of the
document.
-/

namespace ScriptTree.Yaml

/-- The root node of a text. -/
def read? (text : String) : Option Yaml :=
  (tokens? text).bind document?

mutual

/-- The nodes with numbers in a node, in the order of the text. -/
def anchors : Yaml → List (Nat × Yaml)
  | .scalar _ _ _ => []
  | .sequence items => listAnchors items
  | .mapping entries => entryAnchors entries
  | .anchored number node => (number, node) :: node.anchors
  | .reference _ => []

/-- The anchors in the items of a sequence. -/
def listAnchors : List Yaml → List (Nat × Yaml)
  | [] => []
  | item :: rest => item.anchors ++ listAnchors rest

/-- The anchors in the entries of a mapping. -/
def entryAnchors : List (Yaml × Yaml) → List (Nat × Yaml)
  | [] => []
  | (name, value) :: rest => name.anchors ++ (value.anchors ++ entryAnchors rest)

end

mutual

/-- The size of a node, where the start and the end of a collection count. -/
def size : Yaml → Nat
  | .scalar _ _ _ => 1
  | .sequence items => listSize items + 2
  | .mapping entries => entrySize entries + 2
  | .anchored _ node => node.size
  | .reference _ => 1

/-- How many nodes there are in the items of a sequence. -/
def listSize : List Yaml → Nat
  | [] => 0
  | item :: rest => item.size + listSize rest

/-- How many nodes there are in the entries of a mapping. -/
def entrySize : List (Yaml × Yaml) → Nat
  | [] => 0
  | (name, value) :: rest => name.size + value.size + entrySize rest

end

/-- Decoding a value, with the number of references that may still be followed. -/
abbrev Decoding := StateT Nat Option

/-- The node that a node stands for. -/
def resolve (anchors : List (Nat × Yaml)) : Yaml → Decoding Yaml
  | .reference number => fun left =>
    match left with
    | 0 => none
    | left + 1 => (anchors.lookup number).map (·, left)
  | .anchored _ node => pure node
  | node => pure node

/-- Where a text is wanted, a scalar is its text, whatever it looks like. -/
def decodeText (anchors : List (Nat × Yaml)) (node : Yaml) : Decoding String := do
  match ← resolve anchors node with
  | .scalar _ _ text => return text
  | _ => failure

/-- The entries of a mapping of which every name is a text. -/
def decodeMembers (anchors : List (Nat × Yaml)) (entries : List (Yaml × Yaml)) :
    Decoding (List (String × Yaml)) :=
  entries.mapM fun entry => return (← decodeText anchors entry.1, entry.2)

/-- A tag of the standard types. -/
def standardTag (name : String) : String :=
  "tag:yaml.org,2002:" ++ name

/-- Whether a node stands for nothing.  A plain scalar does if it is empty or null; under a tag it
does if it is null and the tag says so, and it is an error if the tag is wrong. -/
def standsForNothing : Yaml → Option Bool
  | .scalar .plain none text => some (text.isEmpty || isNull text.toList)
  | .scalar .plain (some tag) text =>
    if tag = standardTag "null" then (if isNull text.toList then some true else none)
    else some false
  | _ => some false

/-- Decode a value that may be nothing. -/
def decodeOption {α : Type} (anchors : List (Nat × Yaml)) (decode : Yaml → Option α) (node : Yaml) :
    Decoding (Option α) := do
  let node ← resolve anchors node
  if ← standsForNothing node then return none
  else return some (← decode node)

/-- The text of a scalar that can stand for a value of a standard type: one without quotes, or a
literal one with the tag of the type. -/
def typedText? (type : String) : Yaml → Option (List Char)
  | .scalar .plain _ text => some text.toList
  | .scalar .literal tag text => if tag = some (standardTag type) then some text.toList else none
  | _ => none

end ScriptTree.Yaml
