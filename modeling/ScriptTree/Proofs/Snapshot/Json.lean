import ScriptTree.Proofs.Json.Reading
import ScriptTree.Proofs.Snapshot.Levels
import ScriptTree.Snapshot.Json
import ScriptTree.Parse

/-!
# Snapshots read back from JSON

The text of a snapshot is read as the value it is made of, whatever the names and texts in it are.
The decoder takes that value back apart: every member that was left out has a default that stands
for what was left out.  What can be lost is depth alone, because the reader follows arrays and
objects only so far.  A node of a program has an object for itself and its attributes, or an array
for its children, inside of that object, so every level of the tree takes two levels of nesting.
-/

namespace ScriptTree

namespace Snapshot

/-- Entries written as strings are read back as the same entries. -/
theorem mapM_jsonTextOf? (entries : List (String × String)) :
    (entries.map fun (name, value) => (name, Json.string value)).mapM
      (fun (entry : String × Json) => (jsonTextOf? entry.2).map (entry.1, ·)) = some entries := by
  induction entries with
  | nil => rfl
  | cons entry rest ih => rw [List.map_cons, List.mapM_cons, ih]; rfl

/-- Attributes written as an object are read back, where the nesting leaves room for that object. -/
theorem jsonAttributesOf?_attributesJson (room : Nat) (attributes : Attributes) :
    jsonAttributesOf? room (attributesJson attributes) =
      if 0 < room then some attributes else none := by
  rw [attributesJson, jsonAttributesOf?, mapM_jsonTextOf?, Option.map_some, NameMap.ofList_entries]

mutual

/-- A snapshot is decoded where its arrays and objects may be entered. -/
theorem decodeJson_toJson (snapshot : Snapshot) (room : Nat) :
    decodeJson room snapshot.toJson = if snapshot.nesting ≤ room then some snapshot else none := by
  match snapshot with
  | .mk nodeType label field attributes children =>
    have attributesRead := jsonAttributesOf?_attributesJson (room - 1) attributes
    have bare (empty : attributes.isEmpty = true) : NameMap.empty = attributes :=
      (NameMap.eq_empty_of_isEmpty empty).symm
    have childrenRead := decodeJsonList_listJson children (room - 2)
    cases children with
    | nil =>
      cases field <;> cases empty : attributes.isEmpty <;>
        simp [toJson, decodeJson, memberOf?, empty, decodeJsonChildrenMember, jsonTextOf?, decodeOr,
          nesting, jsonFieldOf?, attributesRead, bare] <;>
        split <;> split <;> simp <;> omega
    | cons child rest =>
      rw [listJson] at childrenRead
      by_cases within : 2 ≤ room
      · have inside : 0 < room ∧ 0 < room - 1 := by omega
        cases field <;> cases empty : attributes.isEmpty <;>
          simp [toJson, decodeJson, memberOf?, empty, decodeJsonChildrenMember, jsonTextOf?,
            decodeOr, nesting, jsonFieldOf?, attributesRead, bare, decodeJsonChildren,
            Nat.sub_sub, childrenRead, inside] <;>
          split <;> split <;> first | rfl | omega
      · have outside : ¬0 < room - 1 := by omega
        cases field <;> cases empty : attributes.isEmpty <;>
          simp [toJson, decodeJson, memberOf?, empty, decodeJsonChildrenMember, jsonTextOf?,
            decodeOr, nesting, jsonFieldOf?, bare, decodeJsonChildren, outside] <;>
          omega

/-- Children written as an array are read back exactly when the room covers what they nest. -/
theorem decodeJsonList_listJson (children : List Snapshot) (room : Nat) :
    decodeJsonList room (listJson children) =
      if listNesting children ≤ room then some children else none := by
  match children with
  | [] => rfl
  | child :: rest =>
    rw [listJson, decodeJsonList, decodeJson_toJson child, decodeJsonList_listJson rest,
      listNesting]
    simp only [Nat.max_le]
    by_cases first : child.nesting ≤ room
    · by_cases second : listNesting rest ≤ room <;> simp [first, second]
    · simp [first]

end

/-- An object of attributes is made of objects, arrays and strings only. -/
theorem isTextual_attributesJson (attributes : Attributes) :
    (attributesJson attributes).isTextual = true := by
  rw [attributesJson, Json.isTextual]
  induction attributes.entries with
  | nil => rfl
  | cons entry rest ih => rw [List.map_cons, Json.haveTextualValues, ih]; rfl

mutual

/-- A snapshot is written with objects, arrays and strings only: no number, boolean or null. -/
theorem isTextual_toJson (snapshot : Snapshot) : snapshot.toJson.isTextual = true := by
  match snapshot with
  | .mk nodeType label field attributes [] =>
    cases field <;> cases empty : attributes.isEmpty <;>
      simp [toJson, empty, Json.isTextual, Json.haveTextualValues, isTextual_attributesJson]
  | .mk nodeType label field attributes (child :: rest) =>
    have first := isTextual_toJson child
    have others := areTextual_listJson rest
    cases field <;> cases empty : attributes.isEmpty <;>
      simp [toJson, empty, Json.isTextual, Json.haveTextualValues, Json.areTextual,
        isTextual_attributesJson, first, others]

/-- Every child of a snapshot is written with objects, arrays and strings only. -/
theorem areTextual_listJson (children : List Snapshot) :
    Json.areTextual (listJson children) = true := by
  match children with
  | [] => rfl
  | child :: rest =>
    rw [listJson, Json.areTextual, isTextual_toJson child, areTextual_listJson rest]
    rfl

end

section

variable {library : Json.Library}

/-- A snapshot is read back from its text if the library follows its arrays and objects. -/
theorem ofJsonText?_jsonText (standard : library.IsStandard) (snapshot : Snapshot) :
    ofJsonText? (snapshot.jsonText library) library =
      if snapshot.nesting ≤ library.nestingLimit then some snapshot else none := by
  have spells := standard.writes _ (isTextual_toJson snapshot)
  rw [ofJsonText?, jsonText, standard.reads _ _ spells, Option.bind_some, decodeJson_toJson]

/-- With every library that keeps to the standard, every snapshot is read back from its indented
JSON, unless its arrays and objects are nested deeper than the library follows them.  The snapshot
of a program is read back from it exactly if the tree of the program has at most half as many
levels. -/
theorem ofJsonText?_jsonText_parse (standard : library.IsStandard) (snapshot : Snapshot)
    (source : String) (options : ParseOptions) :
    (ofJsonText? (snapshot.jsonText library) library =
      if snapshot.nesting ≤ library.nestingLimit then some snapshot else none) ∧
    ofJsonText? ((ofProgram (parse source options).program).jsonText library) library =
      if 2 * (ofProgram (parse source options).program).levels ≤ library.nestingLimit then
        some (ofProgram (parse source options).program)
      else none := by
  refine ⟨ofJsonText?_jsonText standard snapshot, ?_⟩
  rw [ofJsonText?_jsonText standard, nesting_ofProgram]

end

/-- The label of a string comes back with its quotes, its tab and its backslash. -/
theorem ofJsonText?_jsonText_string :
    Json.Library.standard.IsStandard ∧
      ofJsonText? (ofProgram (parse "const string A = \"\t\\n\";").program).jsonText =
        some (ofProgram (parse "const string A = \"\t\\n\";").program) := by
  have shallow : (ofProgram (parse "const string A = \"\t\\n\";").program).levels ≤ 63 := by
    decide +kernel
  have limit : Json.Library.standard.nestingLimit = 127 := rfl
  refine ⟨Json.isStandard_standard, ?_⟩
  rw [(ofJsonText?_jsonText_parse Json.isStandard_standard (ofProgram (parse "").program) _ {}).2,
    if_pos (by omega)]

/-- A number in sixty-one pairs of parentheses is not read back. -/
theorem ofJsonText?_jsonText_nested :
    ofJsonText? (ofProgram (parse (String.ofList ("const int A = ".toList ++
      List.replicate 61 '(' ++ '1' :: List.replicate 61 ')' ++ [';']))).program).jsonText =
        none := by
  have deep : 64 ≤ (ofProgram (parse (String.ofList ("const int A = ".toList ++
      List.replicate 61 '(' ++ '1' :: List.replicate 61 ')' ++ [';']))).program).levels := by
    decide +kernel
  have limit : Json.Library.standard.nestingLimit = 127 := rfl
  rw [ofJsonText?_jsonText Json.isStandard_standard, nesting_ofProgram, if_neg (by omega)]

end Snapshot

end ScriptTree
