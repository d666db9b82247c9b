/-!
# YAML values

A scalar keeps its text, its style and its tag; what it stands for is decided by
whoever asks.  A node can be anchored under a number, and a reference stands for
the node that is anchored under its number.
-/

namespace ScriptTree

namespace Yaml

/-- The way a scalar is written. -/
inductive Style where
  | plain
  | singleQuoted
  | doubleQuoted
  | literal
  | folded
deriving DecidableEq

end Yaml

/-- A YAML node.  Anchors are numbered, and a reference has the number of its anchor. -/
inductive Yaml where
  | scalar (style : Yaml.Style) (tag : Option String) (text : String)
  | sequence (items : List Yaml)
  | mapping (entries : List (Yaml × Yaml))
  | anchored (number : Nat) (node : Yaml)
  | reference (number : Nat)

namespace Yaml

/-- What stands where nothing is written. -/
def absent : Yaml :=
  .scalar .plain none ""

/-- Whether nothing is written here; a tag does not count. -/
def isAbsent : Yaml → Bool
  | .scalar .plain _ text => text.isEmpty
  | _ => false

/-!
## Tokens

The start and the end of a collection in block form are tokens of their own,
although only the columns of its parts tell where they are.  In the same way a
token stands in front of every name of an entry, whether it is marked in the text
or not.
-/

/-- The tokens of a document, once its layout is understood. -/
inductive Token where
  /-- The version that a document is written for. -/
  | version (major minor : Nat)
  /-- What a handle stands for in front of the tags of a document. -/
  | handle (name replacement : List Char)
  | documentStart
  | documentEnd
  | sequenceStart
  | mappingStart
  | blockEnd
  | openBracket
  | closeBracket
  | openBrace
  | closeBrace
  | dash
  | comma
  | key
  | value
  | anchor (number : Nat)
  | reference (number : Nat)
  | tag (handle suffix : List Char)
  | scalar (style : Style) (text : String)
deriving DecidableEq

/-- The text of a handle or a suffix, which an escaped zero ends. -/
def upToZero (text : List Char) : List Char :=
  text.takeWhile (· ≠ '\x00')

end Yaml

end ScriptTree
