import ScriptTree.Proofs.Yaml.Document
import ScriptTree.Proofs.Yaml.Lines

/-!
# Block form is written and read

The lines of a mapping are scanned as one collection in the column that they are indented to.  A
mapping under a name stands further to the right.  A sequence needs no column of its own: its dashes
stand in the column of the mapping above it, and what is behind a dash begins two columns further.
A collection ends where a line begins to the left of it.

The tokens of a node are read as that node, so the reader reads whatever is spelled in block form.
The printer writes records in this form.
-/

namespace ScriptTree.Yaml

/-! ## Tokens of nodes -/

mutual

/-- The tokens of a node in block form. -/
def blockTokens : Yaml → List Token
  | .scalar style _ text => [.scalar style text]
  | .sequence items => itemTokens items
  | .mapping entries => .mappingStart :: (entryTokens entries ++ [.blockEnd])
  | .anchored _ _ | .reference _ => []

/-- The tokens of the items of a sequence, each after its dash. -/
def itemTokens : List Yaml → List Token
  | [] => []
  | item :: rest => .dash :: (blockTokens item ++ itemTokens rest)

/-- The tokens of the entries of a mapping. -/
def entryTokens : List (Yaml × Yaml) → List Token
  | [] => []
  | (name, value) :: rest =>
    .key :: (blockTokens name ++ .value :: (blockTokens value ++ entryTokens rest))

end

/-! ## Lines -/

section

variable {indent column : Nat} {columns : List Nat} {tokens : List Token} {node : Yaml}
  {nodes : List Yaml} {entries : List (Yaml × Yaml)} {name text rest : List Char}

/-- Entries start with a solid character, since a name does. -/
theorem SpellsEntries.exists_eq_cons (spells : SpellsEntries indent entries text) :
    ∃ first more, text = first :: more ∧ isSolid first = true := by
  cases spells with
  | last word | next word =>
    rcases exists_eq_cons_of_isName word with ⟨first, more, written, solid⟩
    rw [written]
    exact ⟨first, _, rfl, solid⟩

/-- What stands to the left of a column ends where further entries begin. -/
theorem SpellsEntries.endsBefore (spells : SpellsEntries indent entries text)
    (left : indent < column) (rest : List Char) :
    EndsBefore column (Json.blanks indent ++ (text ++ rest)) := by
  rcases spells.exists_eq_cons with ⟨first, more, rfl, solid⟩
  exact .token (more ++ rest) left solid

/-- Items end what is to the right of them, as their dashes stand at the indentation. -/
theorem SpellsItems.endsBefore (spells : SpellsItems indent nodes text) (left : indent < column)
    (rest : List Char) : EndsBefore column (text ++ rest) := by
  cases spells with
  | last | next =>
    rw [List.append_assoc]
    exact .token _ left rfl

/-- The entries of a mapping to the right of what is open, up to the end of the mapping. -/
theorem leads_mapping
    (leads : Front.Leads ⟨columns, tokens, indent, text⟩
      ⟨columnsFrom indent columns, (entryTokens entries).reverse ++
        ((if columns.head? = some indent then [] else [.mappingStart]) ++ tokens), 0, rest⟩)
    (opened : ∀ other ∈ columns.head?, other < indent) (ends : EndsBefore indent rest) :
    Front.Leads ⟨columns, tokens, indent, text⟩
      ⟨columns, (blockTokens (.mapping entries)).reverse ++ tokens, 0, rest⟩ := by
  have new : columns.head? ≠ some indent := fun same => Nat.lt_irrefl _ (opened indent same)
  rw [columnsFrom, if_neg new, if_neg new] at leads
  simpa [blockTokens] using leads.trans (leads_blockEnd ends)

mutual

/-- A value behind its name is scanned as its tokens. -/
theorem SpellsValue.leads {indent : Nat} {node : Yaml} {text : List Char}
    (spells : SpellsValue indent node text) {columns : List Nat} (tokens : List Token)
    {name rest : List Char} (word : isName name = true)
    (opened : ∀ other ∈ columns.head?, other ≤ indent) (ends : EndsBefore (indent + 1) rest) :
    Front.Leads ⟨columns, tokens, indent, name ++ ':' :: (text ++ rest)⟩
      ⟨columnsFrom indent columns, (blockTokens node).reverse ++ tokensAfterName indent columns
        (.scalar .plain (String.ofList name)) tokens, 0, rest⟩ := by
  have named (rest : List Char) := leads_heading columns tokens rest word opened
  rcases exists_columnsFrom_eq_cons indent columns with ⟨others, innermost⟩
  rw [innermost] at named ⊢
  match spells with
  | .scalar here =>
    have leads := leads_entry columns tokens word opened here ends
    rw [innermost] at leads
    simpa [blockTokens] using leads
  | @SpellsValue.sequence _ nodes text inner =>
    exact (named (text ++ rest)).trans (inner.leads _ ends)
  | @SpellsValue.mapping _ entries text inner =>
    have below : ∀ other ∈ (indent :: others).head?, other < indent + 2 := by
      rintro _ ⟨rfl⟩
      exact Nat.lt_add_of_pos_right Nat.two_pos
    have further := inner.leads (tokensAfterName indent columns
      (.scalar .plain (String.ofList name)) tokens)
      (fun other member => Nat.le_of_lt (below other member))
      (ends.mono (Nat.le_add_right _ 2))
    have whole := ((named (Json.blanks (indent + 2) ++ (text ++ rest))).trans
      (leads_blanks _ _ _ _)).trans (leads_mapping further below (ends.mono (Nat.le_succ _)))
    simpa using whole

/-- Entries are scanned as their tokens, and a mapping starts with them if none is open there. -/
theorem SpellsEntries.leads {indent : Nat} {entries : List (Yaml × Yaml)} {text : List Char}
    (spells : SpellsEntries indent entries text) {columns : List Nat} (tokens : List Token)
    {rest : List Char} (opened : ∀ other ∈ columns.head?, other ≤ indent)
    (ends : EndsBefore (indent + 1) rest) :
    Front.Leads ⟨columns, tokens, indent, text ++ rest⟩
      ⟨columnsFrom indent columns, (entryTokens entries).reverse ++
        ((if columns.head? = some indent then [] else [.mappingStart]) ++ tokens), 0, rest⟩ := by
  match spells with
  | .last word here =>
    have leads := here.leads tokens word opened ends
    simpa [entryTokens, blockTokens, tokensAfterName] using leads
  | @SpellsEntries.next _ name node entries text more word here later =>
    have first := here.leads tokens word opened (later.endsBefore (Nat.lt_succ_self _) rest)
    rcases exists_columnsFrom_eq_cons indent columns with ⟨others, innermost⟩
    rw [innermost] at first ⊢
    have inside : ∀ other ∈ (indent :: others).head?, other ≤ indent := by
      rintro _ ⟨rfl⟩
      exact Nat.le_refl _
    have whole := (first.trans (leads_blanks _ _ _ _)).trans (later.leads _ inside ends)
    simpa [entryTokens, blockTokens, tokensAfterName, columnsFrom] using whole

/-- Items are scanned as their tokens in the column of an open mapping. -/
theorem SpellsItems.leads {indent : Nat} {nodes : List Yaml} {text : List Char}
    (spells : SpellsItems indent nodes text) {columns : List Nat} (tokens : List Token)
    {rest : List Char} (ends : EndsBefore (indent + 1) rest) :
    Front.Leads ⟨indent :: columns, tokens, 0, text ++ rest⟩
      ⟨indent :: columns, (itemTokens nodes).reverse ++ tokens, 0, rest⟩ := by
  have below : ∀ other ∈ (indent :: columns).head?, other < indent + 2 := by
    rintro _ ⟨rfl⟩
    exact Nat.lt_add_of_pos_right Nat.two_pos
  have dashed (text : List Char) : Front.Leads
      ⟨indent :: columns, tokens, 0, Json.blanks indent ++ '-' :: ' ' :: text⟩
      ⟨indent :: columns, .dash :: tokens, indent + 2, text⟩ :=
    (leads_blanks _ _ _ _).trans leads_dash
  match spells with
  | @SpellsItems.last _ entries text here =>
    have leads := here.leads (.dash :: tokens)
      (fun other member => Nat.le_of_lt (below other member))
      (ends.mono (Nat.le_add_right _ 2))
    have whole := (dashed (text ++ rest)).trans
      (leads_mapping leads below (ends.mono (Nat.le_succ _)))
    simpa [itemTokens] using whole
  | @SpellsItems.next _ entries nodes text more here later =>
    have ended (column : Nat) (left : indent < column) : EndsBefore column (more ++ rest) :=
      later.endsBefore left rest
    have leads := here.leads (.dash :: tokens)
      (fun other member => Nat.le_of_lt (below other member))
      (ended _ (Nat.lt_add_of_pos_right (Nat.succ_pos 2)))
    have first := leads_mapping leads below (ended _ (Nat.lt_add_of_pos_right Nat.two_pos))
    have whole := ((dashed (text ++ (more ++ rest))).trans first).trans (later.leads _ ends)
    simpa [itemTokens] using whole

end

end

/-! ## Characters -/

mutual

/-- Entries are spelled with written characters only. -/
theorem SpellsEntries.all_isWritten {indent : Nat} {entries : List (Yaml × Yaml)}
    {text : List Char} (spells : SpellsEntries indent entries text) :
    text.all isWritten = true := by
  match spells with
  | .last word here =>
    rw [List.all_append, all_isWritten_name word, List.all_cons, here.all_isWritten]
    rfl
  | .next word here later =>
    rw [List.all_append, all_isWritten_name word, List.all_cons, List.all_append,
      here.all_isWritten, List.all_append, all_isWritten_blanks, later.all_isWritten]
    rfl

/-- The value of an entry is spelled with written characters only. -/
theorem SpellsValue.all_isWritten {indent : Nat} {node : Yaml} {text : List Char}
    (spells : SpellsValue indent node text) : text.all isWritten = true := by
  match spells with
  | .scalar here =>
    rw [List.all_cons, List.all_append, SpellsScalar.all_isWritten here]
    rfl
  | .sequence inner =>
    rw [List.all_cons, inner.all_isWritten]
    rfl
  | .mapping inner =>
    rw [List.all_cons, List.all_append, all_isWritten_blanks, inner.all_isWritten]
    rfl

/-- Items are spelled with written characters only. -/
theorem SpellsItems.all_isWritten {indent : Nat} {nodes : List Yaml} {text : List Char}
    (spells : SpellsItems indent nodes text) : text.all isWritten = true := by
  match spells with
  | .last here =>
    rw [List.all_append, all_isWritten_blanks, List.all_cons, List.all_cons, here.all_isWritten]
    rfl
  | .next here later =>
    rw [List.all_append, all_isWritten_blanks, List.all_cons, List.all_cons, List.all_append,
      here.all_isWritten, later.all_isWritten]
    rfl

end

/-- A mapping in block form is cut into its tokens. -/
theorem SpellsEntries.tokens?_eq {entries : List (Yaml × Yaml)} {text : String}
    (spells : SpellsEntries 0 entries text.toList) :
    tokens? text = some (blockTokens (.mapping entries)) := by
  have written := spells.all_isWritten
  have opened : ∀ column ∈ ([] : List Nat).head?, column < 0 := by rintro _ ⟨⟩
  have leads := leads_mapping
    (spells.leads [] (fun column member => Nat.le_of_lt (opened column member)) .nil) opened .nil
  rcases leads ⟨0, 0⟩ 0 rfl with ⟨place, offset, -, scanned⟩
  rw [List.append_nil, List.append_nil] at scanned
  rw [tokens?, if_pos (all_isReadable written), unifyBreaks_of_isWritten written]
  refine scanned.trans ?_
  rw [tokensFrom_of_end rfl]
  exact congrArg some (List.reverse_reverse (blockTokens (.mapping entries)))

/-! ## Nodes -/

/-- The tokens of a value do not start with one that ends a part. -/
theorem head?_blockTokens_of_spellsValue {indent : Nat} {node : Yaml} {text : List Char}
    (spells : SpellsValue indent node text) (rest : List Token) :
    (blockTokens node ++ rest).head?.any endsPart = false := by
  cases spells with
  | scalar => rfl
  | sequence inner => cases inner <;> rfl
  | mapping => rfl

mutual

/-- Entries are read from their tokens, up to the end of the mapping. -/
theorem SpellsEntries.outcome?_readEntries {indent : Nat} {entries : List (Yaml × Yaml)}
    {text : List Char} (spells : SpellsEntries indent entries text) (handles : Handles)
    (rest : List Token) :
    Read.outcome? (readEntries handles (entryTokens entries ++ .blockEnd :: rest)) =
      some (entries, rest) := by
  match spells with
  | @SpellsEntries.last _ name node _ _ here =>
    have read := here.outcome?_readNode handles (.blockEnd :: rest) (by rintro ⟨⟩)
    have entry := outcome?_readEntries_key .plain name
      (head?_blockTokens_of_spellsValue here _) read
    have tokens : entryTokens [(.scalar .plain none name, node)] ++ .blockEnd :: rest =
        .key :: .scalar .plain name :: .value :: (blockTokens node ++ .blockEnd :: rest) := by
      simp [entryTokens, blockTokens]
    rw [tokens, entry, outcome?_readEntries_blockEnd]
    rfl
  | @SpellsEntries.next _ name node entries _ _ _ here later =>
    have read := here.outcome?_readNode handles (entryTokens entries ++ .blockEnd :: rest)
      (by cases later <;> rintro ⟨⟩)
    have entry := outcome?_readEntries_key .plain name
      (head?_blockTokens_of_spellsValue here _) read
    have tokens : entryTokens ((.scalar .plain none name, node) :: entries) ++ .blockEnd :: rest =
        .key :: .scalar .plain name :: .value ::
          (blockTokens node ++ (entryTokens entries ++ .blockEnd :: rest)) := by
      simp [entryTokens, blockTokens]
    rw [tokens, entry, later.outcome?_readEntries]
    rfl

/-- A value is read from its tokens, unless a dash follows. -/
theorem SpellsValue.outcome?_readNode {indent : Nat} {node : Yaml} {text : List Char}
    (spells : SpellsValue indent node text) (handles : Handles) (rest : List Token)
    (last : rest.head? ≠ some .dash) :
    Read.outcome? (readNode handles .named (blockTokens node ++ rest)) = some (node, rest) := by
  match spells with
  | .scalar _ => exact outcome?_readNode_scalar ..
  | .sequence inner =>
    rcases inner.exists_readCompactItems handles last with ⟨after, tokens, read⟩
    rw [blockTokens, tokens, outcome?_readNode_dash, read]
    rfl
  | .mapping inner =>
    have read := inner.outcome?_readEntries handles rest
    rw [blockTokens, List.cons_append, List.append_assoc, List.singleton_append,
      outcome?_readNode_mappingStart (by decide), read]
    rfl

/-- Items are read from their tokens, unless a further dash follows. -/
theorem SpellsItems.exists_readCompactItems {indent : Nat} {nodes : List Yaml} {text : List Char}
    (spells : SpellsItems indent nodes text) (handles : Handles) {rest : List Token}
    (last : rest.head? ≠ some .dash) :
    ∃ after, itemTokens nodes ++ rest = .dash :: after ∧
      Scan.outcome? (readCompactItems handles after) = some (nodes, rest) := by
  have mapped {entries : List (Yaml × Yaml)} {rest : List Token}
      (read : Read.outcome? (readEntries handles (entryTokens entries ++ .blockEnd :: rest)) =
        some (entries, rest)) :
      Read.outcome? (readNode handles .block (blockTokens (.mapping entries) ++ rest)) =
        some (.mapping entries, rest) := by
    rw [blockTokens, List.cons_append, List.append_assoc, List.singleton_append,
      outcome?_readNode_mappingStart (by decide), read]
    rfl
  match spells with
  | @SpellsItems.last _ entries _ here =>
    have read := mapped (here.outcome?_readEntries handles rest)
    refine ⟨blockTokens (.mapping entries) ++ rest, ?_, ?_⟩
    · rw [itemTokens, itemTokens, List.append_nil]
      rfl
    · exact outcome?_readCompactItems_last rfl read last
  | @SpellsItems.next _ entries nodes _ _ here later =>
    rcases later.exists_readCompactItems handles last with ⟨after, tokens, more⟩
    have read := mapped (here.outcome?_readEntries handles (.dash :: after))
    refine ⟨blockTokens (.mapping entries) ++ .dash :: after, ?_, ?_⟩
    · rw [itemTokens, List.cons_append, List.append_assoc, tokens]
    · rw [outcome?_readCompactItems_dash rfl read, more]
      rfl

end

/-- The reader reads a mapping in block form. -/
theorem SpellsEntries.read?_eq {entries : List (Yaml × Yaml)} {text : String}
    (spells : SpellsEntries 0 entries text.toList) : read? text = some (.mapping entries) := by
  have entriesRead := spells.outcome?_readEntries standardHandles []
  have read : Read.outcome? (readNode standardHandles .block (blockTokens (.mapping entries))) =
      some (.mapping entries, []) := by
    rw [blockTokens, outcome?_readNode_mappingStart (by decide), entriesRead]
    rfl
  rcases Read.outcome?_eq_some_iff.mp read with ⟨shorter, found⟩
  have start : (blockTokens (.mapping entries)).isEmpty = false ∧
      (blockTokens (.mapping entries)).head?.any opensDocument = false := ⟨rfl, rfl⟩
  rw [read?, spells.tokens?_eq, Option.bind_some, document?, start.1, start.2, found]
  rfl

/-! ## What is printed is spelled -/

/-- A word is spelled as itself, and can be a name. -/
theorem scalarText_of_isWord {name : String} (word : isWord name = true) (indent : Nat) :
    isName name.toList = true ∧ scalarText indent name.toList = name.toList := by
  simp only [isWord, Bool.and_eq_true] at word
  rcases word with ⟨⟨⟨isName, fits⟩, clear⟩, -⟩
  exact ⟨isName, by rw [scalarText, fits, clear]; rfl⟩

/-- Every text is spelled in one of the styles, and the scalar of that style represents it. -/
theorem exists_spellsScalar_scalarText {indent : Nat} {text : String}
    (deep : 0 < indent ∨ isUnbroken (.string text) = true) :
    ∃ style, Represents (.scalar style none text) (.string text) ∧
      SpellsScalar indent text.toList style (scalarText indent text.toList) := by
  rw [scalarText]
  split
  · rename_i plain
    rw [Bool.and_eq_true, Bool.not_eq_true'] at plain
    exact ⟨.plain, .text fun _ => plain.2, .plain plain.1⟩
  · split
    · rename_i fits
      refine ⟨.singleQuoted, .text (by rintro ⟨⟩), .singleQuoted fits ?_⟩
      exact deep.imp_right fun unbroken character member => by
        simpa using List.all_eq_true.mp unbroken character member
    · exact ⟨.doubleQuoted, .text (by rintro ⟨⟩), .doubleQuoted⟩

mutual

/-- The printer writes a field in block form. -/
theorem exists_spellsValue_valueLines {value : Json} (field : isField value = true) {indent : Nat}
    (deep : 0 < indent ∨ isUnbroken value = true) :
    ∃ node, Represents node value ∧ SpellsValue indent node (valueLines indent value) := by
  match value with
  | .string text =>
    rcases exists_spellsScalar_scalarText deep with ⟨style, represents, spells⟩
    exact ⟨_, represents, .scalar spells⟩
  | .array (item :: items) =>
    rw [isField, areRecords] at field
    simp only [List.isEmpty_cons, Bool.not_false, Bool.true_and, Bool.and_eq_true] at field
    have first := exists_spellsEntries_lines field.1 (Or.inl (Nat.succ_pos (indent + 1)))
    rcases exists_spellsItems_itemLines first field.2 with ⟨nodes, represent, spells⟩
    exact ⟨_, .sequence represent, .sequence spells⟩
  | .object ((name, value) :: members) =>
    rw [isField, areFields] at field
    simp only [List.isEmpty_cons, Bool.not_false, Bool.true_and, Bool.and_eq_true] at field
    have first := exists_spellsValue_valueLines field.1.2 (Or.inl (Nat.succ_pos (indent + 1)))
    rcases exists_spellsEntries_memberLines field.1.1 first field.2
      (Or.inl (Nat.succ_pos (indent + 1))) with ⟨entries, represent, spells⟩
    exact ⟨_, .mapping represent, .mapping spells⟩

/-- The printer writes a record in block form. -/
theorem exists_spellsEntries_lines {value : Json} (record : isRecord value = true) {indent : Nat}
    (deep : 0 < indent ∨ ∀ members, value = .object members →
      ∀ member ∈ members, isUnbroken member.2 = true) :
    ∃ entries, Represents (.mapping entries) value ∧
      SpellsEntries indent entries (lines indent value) := by
  match value with
  | .object ((name, value) :: members) =>
    rw [isRecord, areFields] at record
    simp only [List.isEmpty_cons, Bool.not_false, Bool.true_and, Bool.and_eq_true] at record
    have first := exists_spellsValue_valueLines record.1.2
      (deep.imp_right fun unbroken => unbroken _ rfl _ List.mem_cons_self)
    rcases exists_spellsEntries_memberLines record.1.1 first record.2
      (deep.imp_right fun unbroken member among =>
        unbroken _ rfl _ (List.mem_cons_of_mem _ among)) with ⟨entries, represent, spells⟩
    exact ⟨_, .mapping represent, spells⟩

/-- A member is spelled as an entry, if its value is and the further members are fields. -/
theorem exists_spellsEntries_memberLines {indent : Nat} {name : String} {value : Json}
    {members : List (String × Json)} (word : isWord name = true)
    (here : ∃ node, Represents node value ∧ SpellsValue indent node (valueLines indent value))
    (fields : areFields members = true)
    (deep : 0 < indent ∨ ∀ member ∈ members, isUnbroken member.2 = true) :
    ∃ entries, RepresentMembers entries ((name, value) :: members) ∧
      SpellsEntries indent entries (scalarText indent name.toList ++
        ':' :: (valueLines indent value ++ memberLines indent members)) := by
  rcases scalarText_of_isWord word indent with ⟨isName, plain⟩
  rcases here with ⟨node, represents, spells⟩
  rw [plain]
  match members with
  | [] =>
    rw [memberLines, List.append_nil]
    exact ⟨_, .cons represents .nil, .last isName spells⟩
  | (next, value) :: members =>
    rw [areFields, Bool.and_eq_true, Bool.and_eq_true] at fields
    have second := exists_spellsValue_valueLines fields.1.2
      (deep.imp_right fun unbroken => unbroken _ List.mem_cons_self)
    rcases exists_spellsEntries_memberLines fields.1.1 second fields.2
      (deep.imp_right fun unbroken member among =>
        unbroken member (List.mem_cons_of_mem _ among)) with ⟨entries, represent, later⟩
    exact ⟨_, .cons represents represent, .next isName spells later⟩

/-- A record is spelled as an item, if its entries are and the further items are records. -/
theorem exists_spellsItems_itemLines {indent : Nat} {item : Json} {items : List Json}
    (here : ∃ entries, Represents (.mapping entries) item ∧
      SpellsEntries (indent + 2) entries (lines (indent + 2) item))
    (records : areRecords items = true) :
    ∃ nodes, RepresentItems nodes (item :: items) ∧
      SpellsItems indent nodes (Json.blanks indent ++ '-' :: ' ' ::
        (lines (indent + 2) item ++ itemLines indent items)) := by
  rcases here with ⟨entries, represents, spells⟩
  match items with
  | [] =>
    rw [itemLines, List.append_nil]
    exact ⟨_, .cons represents .nil, .last spells⟩
  | next :: items =>
    rw [areRecords, Bool.and_eq_true] at records
    have second := exists_spellsEntries_lines records.1 (Or.inl (Nat.succ_pos (indent + 1)))
    rcases exists_spellsItems_itemLines second records.2 with ⟨nodes, represent, later⟩
    exact ⟨_, .cons represents represent, .next spells later⟩

end

/-- The printer and the reader keep to the block form. -/
theorem isStandard_standard : Library.standard.IsStandard where
  writes := by
    intro members record unbroken
    rcases exists_spellsEntries_lines record
      (Or.inr (by rintro _ ⟨rfl⟩; exact unbroken)) with ⟨entries, represents, spells⟩
    cases represents with
    | mapping represent =>
      refine ⟨entries, represent, ?_⟩
      change SpellsEntries 0 entries (String.ofList (lines 0 (.object members))).toList
      rwa [String.toList_ofList]
  reads := fun _ _ spells => spells.read?_eq

end ScriptTree.Yaml
