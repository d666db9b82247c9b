import ScriptTree.Lexeme
import ScriptTree.Number.Binary64

/-!
# Terminal nodes

The nodes that stand for one token, and the error nodes.  A part that the
grammar requires and the source lacks is still there, as an empty node right
after the token before it: an identifier without a name, a type without a name,
or an error node without skipped tokens.
-/

namespace ScriptTree

/-- A name with its place. -/
structure Identifier where
  name : String
  range : Range
deriving DecidableEq

namespace Identifier

/-- The stand-in for a name that the source lacks. -/
def missing (anchor : Range) : Identifier :=
  ⟨"", anchor⟩

/-- Whether a name is missing.  No name in a source is empty. -/
def isMissing (identifier : Identifier) : Bool :=
  identifier.name.isEmpty

end Identifier

/-- What a type reference names: a builtin type, a class, or nothing. -/
inductive TypeName where
  | void | int | float | string
  | named (name : String)
  | missing
deriving DecidableEq

namespace TypeName

/-- The builtin type that a keyword names. -/
def builtin? : Token → Option TypeName
  | .kwVoid => some .void
  | .kwInt => some .int
  | .kwFloat => some .float
  | .kwString => some .string
  | _ => none

/-- Builtin types are named in lowercase, whatever their spelling in the source. -/
def text : TypeName → String
  | .void => "void"
  | .int => "int"
  | .float => "float"
  | .string => "string"
  | .named name => name
  | .missing => ""

/-- Whether a type is built in. -/
def isBuiltin : TypeName → Bool
  | .named _ | .missing => false
  | _ => true

/-- What a keyword names is built in. -/
theorem isBuiltin_of_builtin? {token : Token} {type : TypeName}
    (found : builtin? token = some type) :
    type.isBuiltin = true := by
  cases token <;> cases found <;> rfl

end TypeName

/-- The type of a variable, a parameter, or a function's result. -/
structure TypeReference where
  type : TypeName
  range : Range
deriving DecidableEq

/-- The stand-in for a type that the source lacks. -/
def TypeReference.missing (anchor : Range) : TypeReference :=
  ⟨.missing, anchor⟩

/-- A number as it is written, with its place. -/
structure NumberLiteral where
  text : String
  range : Range
deriving DecidableEq

namespace NumberLiteral

/-- Whether a number has a fraction. -/
def isFloat (literal : NumberLiteral) : Bool :=
  literal.text.toList.contains '.'

/-- The value of a literal without a point, if 64 bits hold it. -/
def integer? (literal : NumberLiteral) : Option Int :=
  if literal.isFloat then none else Number.signed64? literal.text.toList

/-- The value of a number, as near as it can be represented. -/
def float? (literal : NumberLiteral) : Option Binary64 :=
  Binary64.read? literal.text.toList

end NumberLiteral

/-- A string literal, quotes included. -/
structure StringNode where
  raw : String
  range : Range
deriving DecidableEq

namespace StringNode

/-- The text that a string stands for. -/
def value (literal : StringNode) : String :=
  String.ofList (StringLiteral.decode literal.raw.toList)

end StringNode

/-- A truth value with its place. -/
structure BooleanLiteral where
  value : Bool
  range : Range
deriving DecidableEq

/-- Tokens skipped by recovery, or the empty stand-in for a part that is absent. -/
structure ErrorNode where
  skipped : List PlacedToken
  range : Range
deriving DecidableEq

namespace ErrorNode

/-- The error node for something that the source lacks. -/
def missing (anchor : Range) : ErrorNode :=
  ⟨[], anchor⟩

/-- Whether an error node stands for something that the source lacks. -/
def isMissing (node : ErrorNode) : Bool :=
  node.skipped.isEmpty

/-- One error node for a run of tokens, from the first to the last; none for an empty run. -/
def ofTokens? : List PlacedToken → Option ErrorNode
  | [] => none
  | first :: rest =>
    let last := (rest.getLast?).getD first
    some ⟨first :: rest, first.range.through last.range⟩

end ErrorNode

end ScriptTree
