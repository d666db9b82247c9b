import ScriptTree.Proofs.Node.Captions
import ScriptTree.Proofs.Snapshot.Levels
import ScriptTree.Proofs.Yaml.Block
import ScriptTree.Snapshot.Yaml

/-!
# Snapshots read back from YAML

A text that is wanted is taken from a scalar of any style; where nothing may stand as well, a text
that looks like nothing is in quotes.  So a snapshot is decoded from every node that stands for its
value, and what it can lose is depth alone, because the library follows collections only so far.

The snapshot of a program is a record.  Its texts are fixed names, numbers, and what labels a node,
which stands on one line of the source.
-/

namespace ScriptTree

namespace Snapshot

open Yaml (Represents RepresentItems RepresentMembers)

/-! ## Decoding -/

section

variable {anchors : List (Nat × Yaml)} {node : Yaml}

/-- A node that stands for a string is decoded as that string. -/
theorem decodeText_of_represents {text : String} (represents : Represents node (.string text)) :
    Yaml.decodeText anchors node = pure text := by
  cases represents
  rfl

/-- A text is never taken for nothing. -/
theorem decodeYamlField_of_represents {field : String}
    (represents : Represents node (.string field)) :
    decodeYamlField anchors node = pure (some field) := by
  cases represents with
  | @text style _ clear =>
    have something : Yaml.standsForNothing (.scalar style none field) = some false := by
      cases style with
      | plain =>
        have clear := clear rfl
        simp only [Yaml.isAmbiguous, Bool.or_eq_false_iff] at clear
        have filled : field.isEmpty = false := by
          rw [← Bool.not_eq_true, String.isEmpty_iff]
          rintro rfl
          cases clear.1.1.1.1.1
        rw [Yaml.standsForNothing, filled, clear.1.1.1.1.2]
        rfl
      | singleQuoted | doubleQuoted | literal | folded => rfl
    rw [decodeYamlField, Yaml.decodeOption]
    change (do
      if ← (liftM (Yaml.standsForNothing (.scalar style none field)) : Yaml.Decoding Bool) then
        return none
      else return some (← (some field : Option String))) = pure (some field)
    rw [something]
    rfl

/-- Named nodes that stand for named values, one by one. -/
abbrev Agree (named : List (String × Yaml)) (members : List (String × Json)) : Prop :=
  List.Forall₂ (fun member value => member.1 = value.1 ∧ Represents member.2 value.2) named members

/-- The entries of a mapping are decoded to nodes with the names of the members. -/
theorem exists_decodeMembers_eq (anchors : List (Nat × Yaml)) {entries : List (Yaml × Yaml)}
    {members : List (String × Json)}
    (represent : RepresentMembers entries members) :
    ∃ named, Yaml.decodeMembers anchors entries = pure named ∧ Agree named members := by
  induction members generalizing entries with
  | nil =>
    cases represent
    exact ⟨[], rfl, .nil⟩
  | cons member members ih =>
    cases represent with
    | @cons name node entries _ _ here later =>
      rcases ih later with ⟨named, decoded, agree⟩
      rw [Yaml.decodeMembers] at decoded
      refine ⟨(name, node) :: named, ?_, .cons ⟨rfl, here⟩ agree⟩
      rw [Yaml.decodeMembers, List.mapM_cons, decoded]
      rfl

section

variable {named : List (String × Yaml)} {members : List (String × Json)}

/-- What agrees entry by entry still agrees when only the entries of one name are kept. -/
theorem Agree.filter (agree : Agree named members) (name : String) :
    Agree (named.filter (·.1 = name)) (members.filter (·.1 = name)) := by
  induction agree with
  | nil => exact .nil
  | @cons member value named members same _ ih =>
    by_cases here : value.1 = name
    · simpa [same.1, here] using And.intro same ih
    · simpa [same.1, here] using ih

/-- A node is found under a name where a value is found that it stands for. -/
theorem Agree.exists_memberOf?_eq (agree : Agree named members) {name : String}
    {found : Option Json} (value : memberOf? name members = some found) :
    ∃ node, memberOf? name named = some node ∧ Option.Rel Represents node found := by
  have same := agree.filter name
  unfold memberOf? at value ⊢
  generalize named.filter (·.1 = name) = nodes at same ⊢
  generalize members.filter (·.1 = name) = values at same value
  cases same with
  | nil =>
    cases value
    exact ⟨none, rfl, .none⟩
  | cons here later =>
    cases later with
    | nil =>
      cases value
      exact ⟨_, rfl, .some here.2⟩
    | cons => cases value

/-- Entries that agree with written strings are decoded as those strings. -/
theorem Agree.mapM_decodeText {entries : List (String × String)}
    (agree : Agree named (entries.map fun (name, value) => (name, .string value))) :
    (named.mapM fun entry => return (entry.1, ← Yaml.decodeText anchors entry.2) :
      Yaml.Decoding _) = pure entries := by
  induction entries generalizing named with
  | nil =>
    cases agree
    rfl
  | cons entry entries ih =>
    cases agree with
    | cons here later =>
      rw [List.mapM_cons, ih later, decodeText_of_represents here.2, here.1]
      rfl

end

/-- A node that stands for the attributes is decoded as them, unless no room is left for it. -/
theorem decodeYamlAttributes_of_represents {attributes : Attributes}
    (represents : Represents node (attributesJson attributes)) (room : Nat) :
    decodeYamlAttributes anchors room node = if room = 0 then failure else pure attributes := by
  rw [attributesJson] at represents
  cases represents with
  | @mapping entries _ represent =>
    rcases exists_decodeMembers_eq anchors represent with ⟨named, decoded, agree⟩
    have resolved : Yaml.resolve anchors (.mapping entries) = pure (.mapping entries) := rfl
    rw [decodeYamlAttributes, resolved, pure_bind]
    dsimp only
    rw [decoded, pure_bind, agree.mapM_decodeText, pure_bind, NameMap.ofList_entries]

/-- The members of a snapshot, those that are left out included. -/
theorem memberOf?_toJson {nodeType label : String} {field : Option String}
    {attributes : Attributes} {children : List Snapshot} {members : List (String × Json)}
    (same : (mk nodeType label field attributes children).toJson = .object members) :
    memberOf? "node_type" members = some (some (.string nodeType)) ∧
      memberOf? "label" members = some (some (.string label)) ∧
      memberOf? "field" members = some (field.map .string) ∧
      memberOf? "attributes" members =
        some (if attributes.isEmpty then none else some (attributesJson attributes)) ∧
      memberOf? "children" members =
        some (if children.isEmpty then none else some (.array (listJson children))) := by
  cases children <;> cases field <;> cases empty : attributes.isEmpty <;>
    (rw [toJson] at same; cases same; simp [memberOf?, listJson, empty])

/-- A snapshot is always written as an object. -/
theorem exists_toJson_eq_object (snapshot : Snapshot) :
    ∃ members, snapshot.toJson = .object members := by
  rcases snapshot with ⟨_, _, _, _, _ | _⟩ <;> exact ⟨_, rfl⟩

section

variable {found : Option Yaml}

/-- The field is decoded where it stands, and is absent where the member is. -/
theorem decodeOr_decodeYamlField {field : Option String}
    (stands : Option.Rel Represents found (field.map .string)) :
    decodeOr none (decodeYamlField anchors) found = pure field := by
  cases field with
  | none => cases stands; rfl
  | some field =>
    cases stands with
    | some represents => exact decodeYamlField_of_represents represents

/-- The attributes are decoded where they stand, and are empty where the member is missing. -/
theorem decodeOr_decodeYamlAttributes {attributes : Attributes}
    (stands : Option.Rel Represents found
      (if attributes.isEmpty then none else some (attributesJson attributes))) (room : Nat) :
    decodeOr NameMap.empty (decodeYamlAttributes anchors room) found =
      if room = 0 && !attributes.isEmpty then failure else pure attributes := by
  cases empty : attributes.isEmpty with
  | true =>
    rw [empty] at stands
    cases stands
    rw [NameMap.eq_empty_of_isEmpty empty]
    simp [decodeOr]
  | false =>
    rw [empty] at stands
    cases stands with
    | some represents =>
      rw [decodeOr, decodeYamlAttributes_of_represents represents]
      simp

/-- The children are decoded one by one, where there is room for them. -/
theorem exists_decodeYamlChildren_eq (anchors : List (Nat × Yaml)) {children : List Snapshot}
    (stands : Option.Rel Represents found
      (if children.isEmpty then none else some (.array (listJson children)))) :
    ∃ nodes, RepresentItems nodes (listJson children) ∧
      ∀ (room : Nat) (decode : Yaml → Yaml.Decoding Snapshot),
        (decodeOr .absent (Yaml.resolve anchors) found >>= decodeYamlChildren room decode) =
          if room = 0 && !children.isEmpty then failure else nodes.mapM decode := by
  cases children with
  | nil =>
    cases stands
    exact ⟨[], .nil, fun room decode => by simp; rfl⟩
  | cons child others =>
    cases stands with
    | some represents =>
      cases represents with
      | @sequence nodes _ represent =>
        refine ⟨nodes, represent, fun room decode => ?_⟩
        have resolved : Yaml.resolve anchors (.sequence nodes) = pure (.sequence nodes) := rfl
        rw [decodeOr, resolved, pure_bind, decodeYamlChildren]
        simp

end

/-- What a node for a snapshot is decoded to, by whatever decodes its children. -/
theorem exists_decodeYamlNode_eq (anchors : List (Nat × Yaml)) {nodeType label : String}
    {field : Option String} {attributes : Attributes} {children : List Snapshot}
    (represents : Represents node (mk nodeType label field attributes children).toJson) :
    ∃ nodes, RepresentItems nodes (listJson children) ∧
      ∀ (room : Nat) (decode : Yaml → Yaml.Decoding Snapshot),
        decodeYamlNode anchors room decode node =
          if room = 0 && !(attributes.isEmpty && children.isEmpty) then failure
          else mk nodeType label field attributes <$> nodes.mapM decode := by
  rcases exists_toJson_eq_object (mk nodeType label field attributes children) with
    ⟨members, object⟩
  rcases memberOf?_toJson object with ⟨type, caption, under, extra, listed⟩
  rw [object] at represents
  cases represents with
  | @mapping entries _ represent =>
    rcases exists_decodeMembers_eq anchors represent with ⟨named, decoded, agree⟩
    rcases agree.exists_memberOf?_eq type with ⟨_, typeFound, ⟨typeStands⟩⟩
    rcases agree.exists_memberOf?_eq caption with ⟨_, labelFound, ⟨labelStands⟩⟩
    rcases agree.exists_memberOf?_eq under with ⟨_, fieldFound, fieldStands⟩
    rcases agree.exists_memberOf?_eq extra with ⟨_, attributesFound, attributesStand⟩
    rcases agree.exists_memberOf?_eq listed with ⟨childrenNode, childrenFound, childrenStand⟩
    rcases exists_decodeYamlChildren_eq anchors childrenStand with
      ⟨nodes, representNodes, childrenRead⟩
    refine ⟨nodes, representNodes, fun room decode => ?_⟩
    have resolved : Yaml.resolve anchors (.mapping entries) = pure (.mapping entries) := rfl
    have lifted {α : Type} (value : α) : (liftM (some value) : Yaml.Decoding α) = pure value := rfl
    have below (attributes : Attributes) :
        (do
          let found ← decodeOr .absent (Yaml.resolve anchors) childrenNode
          return mk nodeType label field attributes (← decodeYamlChildren room decode found)) =
          mk nodeType label field attributes <$>
            (if room = 0 && !children.isEmpty then failure else nodes.mapM decode) := by
      rw [← childrenRead, map_eq_pure_bind, bind_assoc]
    rw [decodeYamlNode, resolved, pure_bind]
    dsimp only
    rw [decoded, pure_bind, decodeYamlMembers, typeFound, labelFound, fieldFound, attributesFound,
      childrenFound]
    simp only [lifted, pure_bind, decodeRequired, decodeText_of_represents typeStands,
      decodeText_of_represents labelStands, decodeOr_decodeYamlField fieldStands,
      decodeOr_decodeYamlAttributes attributesStand]
    simp only [below, Bool.not_and]
    cases attributes.isEmpty <;> cases children.isEmpty <;> by_cases full : room = 0 <;>
      simp [full]

mutual

/-- A snapshot is decoded from a node for it if there is room for the collections in it. -/
theorem decodeYaml_of_represents {snapshot : Snapshot} {node : Yaml}
    (represents : Represents node snapshot.toJson) (anchors : List (Nat × Yaml)) (room : Nat) :
    decodeYaml anchors room node = if snapshot.nesting ≤ room then pure snapshot else failure := by
  match snapshot with
  | .mk nodeType label field attributes children =>
    rcases exists_decodeYamlNode_eq anchors represents with ⟨nodes, represent, decoded⟩
    have single : (if attributes.isEmpty then 0 else 1) ≤ 1 := by split <;> decide
    match room with
    | 0 =>
      rw [decodeYaml, nesting, if_neg (by omega)]
    | 1 =>
      rw [decodeYaml, decoded, nesting]
      cases children with
      | nil =>
        cases represent
        cases attributes.isEmpty <;> simp
      | cons child rest =>
        rw [List.isEmpty_cons, Bool.and_false, if_neg Bool.false_ne_true]
        exact (if_neg (by omega)).symm
    | room + 2 =>
      have below := mapM_decodeYaml_of_represent represent anchors room
      have same : (mk nodeType label field attributes children).nesting ≤ room + 2 ↔
          listNesting children ≤ room := by
        cases children with
        | nil =>
          simp only [nesting, listNesting, List.isEmpty_nil, if_pos]
          omega
        | cons child rest =>
          simp only [nesting, List.isEmpty_cons, Bool.false_eq_true, if_false]
          omega
      rw [decodeYaml, decoded, if_neg (by simp), below, if_congr same rfl rfl]
      split <;> simp

/-- Nodes that stand for the children are decoded as them exactly when the room covers them. -/
theorem mapM_decodeYaml_of_represent {children : List Snapshot} {nodes : List Yaml}
    (represent : RepresentItems nodes (listJson children)) (anchors : List (Nat × Yaml))
    (room : Nat) :
    nodes.mapM (decodeYaml anchors room) =
      if listNesting children ≤ room then pure children else failure := by
  match children with
  | [] =>
    cases represent
    rfl
  | child :: rest =>
    rw [listJson] at represent
    cases represent with
    | cons here later =>
      rw [List.mapM_cons, decodeYaml_of_represents here, mapM_decodeYaml_of_represent later,
        listNesting]
      by_cases first : child.nesting ≤ room
      · by_cases second : listNesting rest ≤ room <;> simp [first, second]
      · simp [first]

end

end

/-! ## Snapshots of programs -/

section

open Piece (OnOneLine onOneLine_append onOneLine_cons onOneLine_nil)

/-- A string on one line can stand as the value of a member. -/
theorem isField_of_onOneLine {text : String} (line : OnOneLine text.toList) :
    Yaml.isField (.string text) = true := by
  rw [Yaml.isField, List.all_eq_true]
  rintro character member
  refine decide_eq_true ?_
  rintro rfl
  exact line.not_mem member

/-- The digits of a number stand on one line. -/
theorem onOneLine_toDigits (number : Nat) : OnOneLine (Nat.toDigits 10 number) :=
  fun _ member => Piece.isLineBreak_of_accepts (by decide) (by decide)
    (Nat.isDigit_of_mem_toDigits (by decide) (by decide) member)

/-- A range is displayed on one line. -/
theorem onOneLine_display (range : Range) : OnOneLine range.display.toList := by
  have position (position : Position) : OnOneLine position.display.toList := by
    have written : position.display.toList =
        Nat.toDigits 10 position.line ++ ':' :: Nat.toDigits 10 position.column := by
      simp [Position.display, Nat.toString_eq_repr, Nat.repr_eq_ofList_toDigits]
      rfl
    rw [written, onOneLine_append, onOneLine_cons]
    exact ⟨onOneLine_toDigits _, rfl, onOneLine_toDigits _⟩
  have written : range.display.toList =
      range.start.display.toList ++ '.' :: '.' :: range.stop.display.toList := by
    simp [Range.display]
    rfl
  rw [written, onOneLine_append, onOneLine_cons, onOneLine_cons]
  exact ⟨position _, rfl, rfl, position _⟩

/-- The attributes of a node are named by words, and their values are numbers and ranges. -/
theorem isField_attributesOf (withRanges : Bool) (node : Node) :
    ∀ entry ∈ (attributesOf withRanges node).entries,
      Yaml.isWord entry.1 = true ∧ Yaml.isField (.string entry.2) = true := by
  intro entry member
  have known : entry = ("missing", "true") ∨ entry = ("skipped", toString node.tokens.length) ∨
      entry = ("range", node.range.display) := by
    have among := NameMap.mem_of_mem_ofList member
    simp only [List.mem_append] at among
    rcases among with (among | among) | among <;> split at among <;> simp_all
  rcases known with rfl | rfl | rfl
  · decide
  · have word : Yaml.isWord "skipped" = true := by decide
    refine ⟨word, isField_of_onOneLine ?_⟩
    rw [Nat.toString_eq_repr, Nat.repr_eq_ofList_toDigits, String.toList_ofList]
    exact onOneLine_toDigits _
  · have word : Yaml.isWord "range" = true := by decide
    exact ⟨word, isField_of_onOneLine (onOneLine_display _)⟩

/-- Attributes whose names are words and whose values are fields can stand as a member's value. -/
theorem isField_attributesJson {attributes : Attributes} (filled : attributes.isEmpty = false)
    (fields : ∀ entry ∈ attributes.entries,
      Yaml.isWord entry.1 = true ∧ Yaml.isField (.string entry.2) = true) :
    Yaml.isField (attributesJson attributes) = true := by
  have all : ∀ entries : List (String × String),
      (∀ entry ∈ entries, Yaml.isWord entry.1 = true ∧ Yaml.isField (.string entry.2) = true) →
      Yaml.areFields (entries.map fun (name, value) => (name, .string value)) = true := by
    intro entries fields
    induction entries with
    | nil => rfl
    | cons entry entries ih =>
      rw [List.forall_mem_cons] at fields
      rw [List.map_cons, Yaml.areFields, fields.1.1, fields.1.2, ih fields.2]
      rfl
  have some : attributes.entries.isEmpty = false := filled
  rw [attributesJson, Yaml.isField, List.isEmpty_map, some, all _ fields]
  rfl

/-- A snapshot is a record if its texts are without line breaks and those below it are records. -/
theorem isRecord_toJson {nodeType label : String} {field : Option String} {attributes : Attributes}
    {children : List Snapshot}
    (texts : ∀ text ∈ nodeType :: label :: field.toList, OnOneLine text.toList)
    (fields : ∀ entry ∈ attributes.entries,
      Yaml.isWord entry.1 = true ∧ Yaml.isField (.string entry.2) = true)
    (below : Yaml.areRecords (listJson children) = true) :
    Yaml.isRecord (mk nodeType label field attributes children).toJson = true := by
  have type := isField_of_onOneLine (texts nodeType List.mem_cons_self)
  have caption := isField_of_onOneLine (texts label (by simp))
  have under (name : String) (same : field = some name) :=
    isField_of_onOneLine (texts name (by simp [same]))
  have extra (filled : attributes.isEmpty = false) := isField_attributesJson filled fields
  have words : Yaml.isWord "node_type" = true ∧ Yaml.isWord "label" = true ∧
      Yaml.isWord "field" = true ∧ Yaml.isWord "attributes" = true ∧
      Yaml.isWord "children" = true := by
    decide
  have listed (child : Snapshot) (rest : List Snapshot) (same : children = child :: rest) :
      Yaml.isField (.array (listJson children)) = true := by
    rw [Yaml.isField, below, same]
    rfl
  cases children <;> cases field <;> cases empty : attributes.isEmpty <;>
    simp_all [toJson, Yaml.isRecord, Yaml.areFields, listJson]

mutual

/-- The snapshot of a node is a record if what labels the nodes stands on one line each. -/
theorem isRecord_ofNodeUnder (withRanges : Bool) (field : Option Field) (node : Node)
    (lines : Node.Every (fun node => OnOneLine node.content.caption.toList) [node]) :
    Yaml.isRecord (ofNodeUnder withRanges field node).toJson = true := by
  match node with
  | .mk content range tokens children =>
    rw [Node.every_singleton] at lines
    have kinds : ∀ kind : NodeKind, OnOneLine kind.label.toList := by
      intro kind
      cases kind <;> decide
    have fields : ∀ field : Field, OnOneLine field.label.toList := by
      intro field
      cases field <;> decide
    refine isRecord_toJson ?_ (isField_attributesOf withRanges _)
      (areRecords_listJson_ofForest withRanges children lines.2)
    intro text member
    simp only [List.mem_cons, Option.mem_toList, Option.map_eq_some_iff] at member
    rcases member with rfl | rfl | ⟨field, -, rfl⟩
    · exact kinds _
    · exact lines.1
    · exact fields field

/-- The children of a snapshot are records of the block form, if their captions stand on one
line. -/
theorem areRecords_listJson_ofForest (withRanges : Bool) (children : List (Field × Node))
    (lines : Node.Every (fun node => OnOneLine node.content.caption.toList)
      (children.map (·.2))) :
    Yaml.areRecords (listJson (ofForest withRanges children)) = true := by
  match children with
  | [] => rfl
  | (field, child) :: rest =>
    rw [List.map_cons, Node.every_cons] at lines
    rw [ofForest, listJson, Yaml.areRecords, isRecord_ofNodeUnder withRanges _ child lines.1,
      areRecords_listJson_ofForest withRanges rest lines.2]
    rfl

end

/-- The texts of the snapshot of a whole program itself are fixed. -/
theorem isUnbroken_of_mem_ofProgram {program : Program} {members : List (String × Json)}
    (same : (ofProgram program).toJson = .object members) :
    ∀ member ∈ members, Yaml.isUnbroken member.2 = true := by
  have shape : ofProgram program = mk "program" "" none (attributesOf true program.toNode)
      (ofForest true program.toNode.fields) := rfl
  have texts :
      Yaml.isUnbroken (.string "program") = true ∧ Yaml.isUnbroken (.string "") = true := by
    decide
  have objects (members : List (String × Json)) : Yaml.isUnbroken (.object members) = true := rfl
  have arrays (items : List Json) : Yaml.isUnbroken (.array items) = true := rfl
  rw [shape] at same
  cases children : ofForest true program.toNode.fields <;>
    cases empty : (attributesOf true program.toNode).isEmpty <;>
    (rw [children, toJson] at same; cases same
     simp [empty, attributesJson, texts, objects, arrays])

/-- The snapshot of the program of every source is a record. -/
theorem isRecord_parse (source : String) (options : ParseOptions) :
    Yaml.isRecord (ofProgram (parse source options).program).toJson = true := by
  refine isRecord_ofNodeUnder true none (parse source options).root fun node member => ?_
  rw [List.flatMap_singleton] at member
  exact onOneLine_caption_parse source options member

end

section

variable {library : Yaml.Library}

/-- A snapshot that is a record is read back from its text if the library follows its
collections. -/
theorem ofYamlText?_yamlText (standard : library.IsStandard) {snapshot : Snapshot}
    (record : Yaml.isRecord snapshot.toJson = true)
    (unbroken : ∀ members, snapshot.toJson = .object members →
      ∀ member ∈ members, Yaml.isUnbroken member.2 = true) :
    ofYamlText? (snapshot.yamlText library) library =
      if snapshot.nesting ≤ library.nestingLimit then some snapshot else none := by
  rcases exists_toJson_eq_object snapshot with ⟨members, object⟩
  have written := unbroken members object
  rw [object] at record
  rcases standard.writes members record written with ⟨entries, represent, spells⟩
  have represents : Represents (.mapping entries) snapshot.toJson := object ▸ .mapping represent
  rw [ofYamlText?, Yaml.Library.decode?, yamlText, object, standard.reads entries _ spells,
    Option.bind_some, decodeYaml_of_represents represents]
  split <;> rfl

/-- With every library that keeps to the block form, the snapshot of the program of every source is
read back from its YAML, unless the tree has more levels than the library follows: a level takes two
collections. -/
theorem ofYamlText?_yamlText_parse (standard : library.IsStandard) (source : String)
    (options : ParseOptions) :
    ofYamlText? ((ofProgram (parse source options).program).yamlText library) library =
      if 2 * (ofProgram (parse source options).program).levels ≤ library.nestingLimit then
        some (ofProgram (parse source options).program)
      else none := by
  rw [ofYamlText?_yamlText standard (isRecord_parse source options)
    fun _ => isUnbroken_of_mem_ofProgram, nesting_ofProgram]

end

/-- Names that look like nothing, and a string with quotes, are read back. -/
theorem ofYamlText?_yamlText_names :
    Yaml.Library.standard.IsStandard ∧
      ofYamlText? (ofProgram (parse "const string null = \"'~'\";").program).yamlText =
        some (ofProgram (parse "const string null = \"'~'\";").program) := by
  have shallow :
      (ofProgram (parse "const string null = \"'~'\";").program).levels ≤ 64 := by
    decide +kernel
  have limit : Yaml.Library.standard.nestingLimit = 128 := rfl
  refine ⟨Yaml.isStandard_standard, ?_⟩
  rw [ofYamlText?_yamlText_parse Yaml.isStandard_standard, if_pos (by omega)]

/-- A number in sixty-two pairs of parentheses is not read back. -/
theorem ofYamlText?_yamlText_nested :
    ofYamlText? (ofProgram (parse (String.ofList ("const int A = ".toList ++
      List.replicate 62 '(' ++ '1' :: List.replicate 62 ')' ++ [';']))).program).yamlText =
        none := by
  have deep : 65 ≤ (ofProgram (parse (String.ofList ("const int A = ".toList ++
      List.replicate 62 '(' ++ '1' :: List.replicate 62 ')' ++ [';']))).program).levels := by
    decide +kernel
  have limit : Yaml.Library.standard.nestingLimit = 128 := rfl
  rw [ofYamlText?_yamlText Yaml.isStandard_standard (isRecord_parse _ _)
    fun _ => isUnbroken_of_mem_ofProgram, nesting_ofProgram, if_neg (by omega)]

end Snapshot

end ScriptTree
