/-!
# JSON values

Members of an object keep their order and their duplicates, and a number keeps
the text it is written in.  A string or a member name with an unpaired surrogate
is well-formed JSON but denotes no text; a value that has one is `unreadable`.
-/

namespace ScriptTree

/-- A JSON value.  The members of an object keep their order. -/
inductive Json where
  | null
  | bool (value : Bool)
  | number (literal : String)
  | string (text : String)
  | array (items : List Json)
  | object (members : List (String × Json))
  | unreadable

namespace Json

/-- A count as a number. -/
def ofNat (value : Nat) : Json :=
  .number (toString value)

/-- What may be absent is `null` then. -/
def ofOption {α : Type} (encode : α → Json) : Option α → Json
  | none => .null
  | some value => encode value

/-- A text, or `null`. -/
def ofStringOption : Option String → Json :=
  ofOption .string

/-- Encodes a list item by item. -/
def ofList {α : Type} (encode : α → Json) (items : List α) : Json :=
  .array (items.map encode)

end Json

end ScriptTree
