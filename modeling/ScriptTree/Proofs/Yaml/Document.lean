import ScriptTree.Proofs.Text.Read
import ScriptTree.Yaml.Document

/-!
# Nodes, token by token

The tokens of a text in block form are read in a few steps: a scalar, a mapping with scalars for its
names, and a compact sequence.  Each of these needs only what was read of its parts.
-/

namespace ScriptTree.Yaml

variable {handles : Handles} {setting : Setting} {input rest : List Token}

/-- Without tag, anchor and reference, reading a node is reading its content. -/
theorem outcome?_readNode_bare (bare : Properties.read? handles input = some (⟨none, none⟩, input))
    (noReference : ∀ number rest, input ≠ .reference number :: rest)
    (admits : setting.admits input = true) :
    Read.outcome? (readNode handles setting input) =
      Read.outcome? (readContent handles none input) := by
  rw [readNode.eq_2 _ _ _ noReference]
  split
  · rename_i none
    rw [bare] at none
    cases none
  · rename_i found
    rw [bare] at found
    cases found
    dsimp only
    rw [if_pos admits]
    cases readContent handles none input <;> rfl

/-- A scalar is read as itself in every setting. -/
theorem outcome?_readNode_scalar (style : Style) (text : String) :
    Read.outcome? (readNode handles setting (.scalar style text :: rest)) =
      some (.scalar style none text, rest) := by
  rw [outcome?_readNode_bare rfl (by rintro _ _ ⟨⟩) rfl, readContent]
  rfl

/-- Outside of flow collections the start of a mapping is read with its entries. -/
theorem outcome?_readNode_mappingStart (block : setting ≠ .flow) :
    Read.outcome? (readNode handles setting (.mappingStart :: rest)) =
      (Read.outcome? (readEntries handles rest)).map fun (entries, left) =>
        (.mapping entries, left) := by
  rw [outcome?_readNode_bare rfl (by rintro _ _ ⟨⟩) (by simpa [Setting.admits] using block),
    readContent]
  cases readEntries handles rest <;> rfl

/-- A dash in the value of an entry is read with the items that follow. -/
theorem outcome?_readNode_dash :
    Read.outcome? (readNode handles .named (.dash :: rest)) =
      (Scan.outcome? (readCompactItems handles rest)).map fun (items, left) =>
        (.sequence items, left) := by
  rw [outcome?_readNode_bare rfl (by rintro _ _ ⟨⟩) rfl, readContent]
  cases readCompactItems handles rest <;> rfl

/-- A part that does not end at once is read as a node. -/
theorem outcome?_readPart (handles : Handles) (setting : Setting) {ends : Token → Bool}
    (further : input.head?.any ends = false) :
    Scan.outcome? (readPart handles setting ends input) =
      Read.outcome? (readNode handles setting input) := by
  rw [readPart, further]
  cases readNode handles setting input <;> rfl

/-- The end of a block ends its entries. -/
theorem outcome?_readEntries_blockEnd :
    Read.outcome? (readEntries handles (.blockEnd :: rest)) = some ([], rest) := by
  rw [readEntries]
  rfl

/-- An entry whose name is a scalar. -/
theorem outcome?_readEntries_key (style : Style) (name : String) {value : Yaml} {after : List Token}
    (further : input.head?.any endsPart = false)
    (read : Read.outcome? (readNode handles .named input) = some (value, after)) :
    Read.outcome? (readEntries handles (.key :: .scalar style name :: .value :: input)) =
      (Read.outcome? (readEntries handles after)).map fun (entries, left) =>
        ((.scalar style none name, value) :: entries, left) := by
  have start : (Token.scalar style name :: .value :: input).head?.any endsPart = false := rfl
  have nameRead := outcome?_readPart handles .named start
  rw [outcome?_readNode_scalar] at nameRead
  have valueRead := outcome?_readPart handles .named further
  rw [read] at valueRead
  rcases Scan.outcome?_eq_some_iff.mp nameRead with ⟨nameBound, nameFound⟩
  rcases Scan.outcome?_eq_some_iff.mp valueRead with ⟨valueBound, valueFound⟩
  rw [readEntries, nameFound]
  dsimp only
  rw [readValue, valueFound]
  dsimp only [Option.map_some]
  cases readEntries handles after <;> rfl

section

variable {item : Yaml} {after : List Token}

/-- Behind an item the next dash leads to further items. -/
theorem outcome?_readCompactItems_dash (further : input.head?.any endsCompactItem = false)
    (read : Read.outcome? (readNode handles .block input) = some (item, .dash :: after)) :
    Scan.outcome? (readCompactItems handles input) =
      (Scan.outcome? (readCompactItems handles after)).map fun (items, left) =>
        (item :: items, left) := by
  have itemRead := outcome?_readPart handles .block further
  rw [read] at itemRead
  rcases Scan.outcome?_eq_some_iff.mp itemRead with ⟨bound, found⟩
  rw [readCompactItems, found]
  dsimp only
  cases readCompactItems handles after <;> rfl

/-- An item without a dash behind it is the last one. -/
theorem outcome?_readCompactItems_last (further : input.head?.any endsCompactItem = false)
    (read : Read.outcome? (readNode handles .block input) = some (item, after))
    (last : after.head? ≠ some .dash) :
    Scan.outcome? (readCompactItems handles input) = some ([item], after) := by
  have itemRead := outcome?_readPart handles .block further
  rw [read] at itemRead
  rcases Scan.outcome?_eq_some_iff.mp itemRead with ⟨bound, found⟩
  rw [readCompactItems, found]
  dsimp only
  split
  · exact absurd rfl last
  · rfl

end

end ScriptTree.Yaml
