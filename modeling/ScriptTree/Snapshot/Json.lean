import ScriptTree.Snapshot
import ScriptTree.Json.Library
import ScriptTree.Text.Members

/-!
# Snapshots as JSON

A snapshot is an object with the members `node_type`, `label`, `field`,
`attributes` and `children`; the last three are left out where they are empty.
The reader takes the members in any order and ignores others, and it takes an
array of the values in this order as well.  A member that is there twice is an
error, a name that is there twice among the attributes is none.

The text itself is written and read by a library.  The decoder counts the arrays
and objects that it enters, and gives up where the library does.
-/

namespace ScriptTree.Snapshot

/-- Attributes as an object, ordered by name. -/
def attributesJson (attributes : Attributes) : Json :=
  .object (attributes.entries.map fun (name, value) => (name, .string value))

mutual

/-- A snapshot as an object.  What is empty is left out. -/
def toJson : Snapshot → Json
  | .mk nodeType label field attributes children =>
    .object
      ([("node_type", .string nodeType), ("label", .string label)] ++
        (field.map fun field => ("field", Json.string field)).toList ++
        (if attributes.isEmpty then [] else [("attributes", attributesJson attributes)]) ++
        (match children with
        | [] => []
        | child :: rest => [("children", .array (child.toJson :: listJson rest))]))

/-- The snapshots of children as the items of an array. -/
def listJson : List Snapshot → List Json
  | [] => []
  | child :: rest => child.toJson :: listJson rest

end

/-- The text of a snapshot in indented JSON. -/
def jsonText (snapshot : Snapshot) (library : Json.Library := .standard) : String :=
  library.write snapshot.toJson

/-- The text of a JSON string. -/
def jsonTextOf? : Json → Option String
  | .string text => some text
  | _ => none

/-- The field of a snapshot, where null stands for none. -/
def jsonFieldOf? : Json → Option (Option String)
  | .null => some none
  | value => (jsonTextOf? value).map some

/-- The attributes of a snapshot, where `room` more arrays and objects may be entered. -/
def jsonAttributesOf? (room : Nat) : Json → Option Attributes
  | .object members =>
    if 0 < room then
      (members.mapM fun (entry : String × Json) =>
        (jsonTextOf? entry.2).map (entry.1, ·)).map NameMap.ofList
    else
      none
  | _ => none

mutual

/-- Decode a value, where `room` more arrays and objects inside of each other may be entered. -/
def decodeJson (room : Nat) : Json → Option Snapshot
  | .object members =>
    if 0 < room then do
      let nodeType ← (← memberOf? "node_type" members).bind jsonTextOf?
      let label ← (← memberOf? "label" members).bind jsonTextOf?
      let field ← decodeOr none jsonFieldOf? (← memberOf? "field" members)
      let attributes ← decodeOr NameMap.empty (jsonAttributesOf? (room - 1))
        (← memberOf? "attributes" members)
      let _ ← memberOf? "children" members
      let children ← decodeJsonChildrenMember (room - 1) members
      return .mk nodeType label field attributes children
    else
      none
  | .array items => if 0 < room then decodeJsonItems (room - 1) items else none
  | _ => none

/-- Decode the children of the member that holds them, none where there is no such member. -/
def decodeJsonChildrenMember (room : Nat) : List (String × Json) → Option (List Snapshot)
  | [] => some []
  | (name, value) :: rest =>
    if name = "children" then decodeJsonChildren room value else decodeJsonChildrenMember room rest

/-- Decode the array of the children. -/
def decodeJsonChildren (room : Nat) : Json → Option (List Snapshot)
  | .array items => if 0 < room then decodeJsonList (room - 1) items else none
  | _ => none

/-- Decode the children one after another. -/
def decodeJsonList (room : Nat) : List Json → Option (List Snapshot)
  | [] => some []
  | item :: rest => do
    let child ← decodeJson room item
    let children ← decodeJsonList room rest
    return child :: children

/-- Decode the values of a snapshot in the order of its members. -/
def decodeJsonItems (room : Nat) : List Json → Option Snapshot
  | nodeType :: label :: rest => do
    let nodeType ← jsonTextOf? nodeType
    let label ← jsonTextOf? label
    let field ← decodeOr none jsonFieldOf? rest.head?
    let attributes ← decodeOr NameMap.empty (jsonAttributesOf? room) rest.tail.head?
    match rest with
    | [] | [_] | [_, _] => return .mk nodeType label field attributes []
    | [_, _, children] =>
      return .mk nodeType label field attributes (← decodeJsonChildren room children)
    | _ => none
  | _ => none

end

/-- Read a snapshot from JSON. -/
def ofJsonText? (text : String) (library : Json.Library := .standard) : Option Snapshot :=
  (library.read? text).bind (decodeJson library.nestingLimit)

end ScriptTree.Snapshot
