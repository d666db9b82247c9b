import ScriptTree.Json.Library
import ScriptTree.Proofs.Text.Read

/-!
# Standard JSON is written and read

The reader reads whatever the grammar of standard JSON spells.  Each character of a string is read
from its own spelling, and a value ends where its last character does, so what follows it makes no
difference.  The printer writes values of strings, arrays and objects as the grammar spells them.
-/

namespace ScriptTree

namespace Json

/-! ## Strings -/

/-- A character is read from each of its spellings. -/
theorem SpellsCharacter.stringParts {character : Char} {spelled : List Char}
    (spells : SpellsCharacter character spelled) (rest : List Char) :
    Json.stringParts (spelled ++ rest) =
      (Json.stringParts rest).map fun (more, after) => (.character character :: more, after) := by
  cases spells with
  | itself noQuote noBackslash visible =>
    rw [List.singleton_append, stringParts.eq_5 _ _ noQuote
      (fun _ _ _ _ _ same => absurd same noBackslash)
      (fun _ _ same => absurd same noBackslash) (fun same => absurd same noBackslash),
      if_neg visible]
    cases Json.stringParts rest <;> rfl
  | @letter letter stands =>
    have plain : letter ≠ 'u' := by
      rintro rfl
      cases stands
    rw [List.cons_append, List.singleton_append,
      stringParts.eq_3 _ _ fun _ _ _ _ _ same => absurd same plain, stands]
    cases Json.stringParts rest <;> rfl
  | digits value =>
    have whole : isLeadingSurrogate character.toNat = false ∧
        isTrailingSurrogate character.toNat = false := by
      have valid := character.valid
      simp only [isLeadingSurrogate, isTrailingSurrogate, Bool.and_eq_false_iff,
        decide_eq_false_iff_not, Char.toNat, UInt32.isValidChar, Nat.isValidChar] at valid ⊢
      omega
    simp only [List.cons_append, List.nil_append]
    rw [stringParts.eq_2, value]
    cases Json.stringParts rest <;> simp [whole]

/-- A text is read from each of its spellings, up to its closing quote. -/
theorem SpellsText.stringParts {text spelled : List Char} (spells : SpellsText text spelled)
    (rest : List Char) :
    Json.stringParts (spelled ++ rest) = some (text.map StringPart.character, rest) := by
  induction spells with
  | closing => rfl
  | character here _ ih =>
    rw [List.append_assoc, here.stringParts, ih]
    rfl

/-- Characters that are no escapes are joined to their text. -/
theorem joinParts_map_character (text : List Char) :
    joinParts (text.map StringPart.character) = some text := by
  induction text with
  | nil => rfl
  | cons character more ih => rw [List.map_cons, joinParts, ih, Option.map_some]

/-- A spelled text is read back, up to its closing quote. -/
theorem SpellsText.outcome?_readString {text : String} {spelled : List Char}
    (spells : SpellsText text.toList spelled) (rest : List Char) :
    Read.outcome? (readString (spelled ++ rest)) = some (some text, rest) := by
  have parts := spells.stringParts rest
  unfold readString
  split
  · rename_i none
    rw [parts] at none
    cases none
  · rename_i found
    rw [parts] at found
    cases found
    simp [Read.outcome?, joinParts_map_character]

/-! ## Values -/

theorem skipBlanks_of_not_blank {character : Char} {rest : List Char}
    (other : isBlank character = false) : skipBlanks (character :: rest) = character :: rest := by
  simp [skipBlanks, other]

/-- A gap is passed over. -/
theorem IsGap.skipBlanks_append {gap : List Char} (blank : IsGap gap) (rest : List Char) :
    skipBlanks (gap ++ rest) = skipBlanks rest :=
  List.dropWhile_append_of_pos blank

section

variable {input rest : List Char}

/-- A value that begins with a quote is a string. -/
theorem outcome?_readValue_of_quote (front : skipBlanks input = '"' :: rest) :
    Read.outcome? (readValue input) = (Read.outcome? (readString rest)).map fun (text, after) =>
      ((text.map Json.string).getD .unreadable, after) := by
  rw [readValue]
  split
  case h_4 equation =>
    rw [front] at equation
    cases equation
    dsimp only
    cases readString rest <;> rfl
  case h_7 _ _ _ other _ _ => exact (other _ front).elim
  all_goals
    rename_i equation
    rw [front] at equation
    cases equation

/-- A value that begins with a bracket is an array. -/
theorem outcome?_readValue_of_bracket (front : skipBlanks input = '[' :: rest) :
    Read.outcome? (readValue input) =
      match skipBlanks rest with
      | ']' :: after => some (.array [], after)
      | _ => (Read.outcome? (readItems rest)).map fun (items, after) => (.array items, after) := by
  rw [readValue]
  split
  case h_5 equation =>
    rw [front] at equation
    cases equation
    dsimp only
    split
    · rename_i closes
      simp [Read.outcome?, closes]
    · rename_i filled
      split <;> rename_i found
      all_goals
        split
        · rename_i closes
          exact (filled _ closes).elim
        · rw [found]
          rfl
  case h_7 _ _ _ _ other _ => exact (other _ front).elim
  all_goals
    rename_i equation
    rw [front] at equation
    cases equation

/-- A value that begins with a brace is an object. -/
theorem outcome?_readValue_of_brace (front : skipBlanks input = '\x7b' :: rest) :
    Read.outcome? (readValue input) =
      match skipBlanks rest with
      | '\x7d' :: after => some (.object [], after)
      | _ => (Read.outcome? (readMembers rest)).map fun (members, after) =>
        (objectOf members, after) := by
  rw [readValue]
  split
  case h_6 equation =>
    rw [front] at equation
    cases equation
    dsimp only
    split
    · rename_i closes
      simp [Read.outcome?, closes]
    · rename_i filled
      split <;> rename_i found
      all_goals
        split
        · rename_i closes
          exact (filled _ closes).elim
        · rw [found]
          rfl
  case h_7 _ _ _ _ _ other => exact (other _ front).elim
  all_goals
    rename_i equation
    rw [front] at equation
    cases equation

/-- The items of an array go on after a comma and end at a bracket. -/
theorem outcome?_readItems_of_readValue {item : Json} {afterItem : List Char}
    (read : Read.outcome? (readValue input) = some (item, afterItem)) :
    Read.outcome? (readItems input) =
      match skipBlanks afterItem with
      | ']' :: rest => some ([item], rest)
      | ',' :: rest =>
        (Read.outcome? (readItems rest)).map fun (more, after) => (item :: more, after)
      | _ => none := by
  rcases Read.outcome?_eq_some_iff.mp read with ⟨shorter, found⟩
  rw [readItems, found]
  dsimp only
  split
  · rename_i closes
    simp [Read.outcome?, closes]
  · rename_i comma
    split <;> rename_i more <;> simp [Read.outcome?, comma, more]
  · rename_i noClosing noComma
    split
    · rename_i closes
      exact (noClosing _ closes).elim
    · rename_i comma
      exact (noComma _ comma).elim
    · rfl

/-- The members of an object go on after a comma and end at a brace. -/
theorem outcome?_readMembers_of_readValue {name : Option String} {value : Json}
    {afterQuote afterName afterColon afterValue : List Char}
    (opens : skipBlanks input = '"' :: afterQuote)
    (readName : Read.outcome? (readString afterQuote) = some (name, afterName))
    (colon : skipBlanks afterName = ':' :: afterColon)
    (read : Read.outcome? (readValue afterColon) = some (value, afterValue)) :
    Read.outcome? (readMembers input) =
      match skipBlanks afterValue with
      | '\x7d' :: rest => some ([(name, value)], rest)
      | ',' :: rest =>
        (Read.outcome? (readMembers rest)).map fun (more, after) =>
          ((name, value) :: more, after)
      | _ => none := by
  rcases Read.outcome?_eq_some_iff.mp readName with ⟨shorterName, foundName⟩
  rcases Read.outcome?_eq_some_iff.mp read with ⟨shorter, found⟩
  rw [readMembers]
  split
  case h_2 other => exact (other _ opens).elim
  rename_i equation
  rw [opens] at equation
  cases equation
  dsimp only
  rw [foundName]
  dsimp only
  split
  case h_2 other => exact (other _ colon).elim
  rename_i equation
  rw [colon] at equation
  cases equation
  rw [found]
  dsimp only
  split
  · rename_i closes
    simp [Read.outcome?, closes]
  · rename_i comma
    split <;> rename_i more <;> simp [Read.outcome?, comma, more]
  · rename_i noClosing noComma
    split
    · rename_i closes
      exact (noClosing _ closes).elim
    · rename_i comma
      exact (noComma _ comma).elim
    · rfl

end

/-! ## What is spelled is read -/

theorem mapM_map_some (members : List (String × Json)) :
    (members.map fun (name, value) => (some name, value)).mapM
      (fun (name, value) => Option.map (·, value) name) = some members := by
  induction members with
  | nil => rfl
  | cons member rest ih => rw [List.map_cons, List.mapM_cons, ih]; rfl

/-- Members whose names were all understood make an object. -/
theorem objectOf_map_some (members : List (String × Json)) :
    objectOf (members.map fun (name, value) => (some name, value)) = .object members := by
  rw [objectOf]
  simp only [mapM_map_some]

/-- A value begins with a quote, a bracket or a brace. -/
theorem Spells.exists_eq_cons {value : Json} {text : List Char} (spells : Spells value text) :
    ∃ first rest, text = first :: rest ∧ isBlank first = false ∧ first ≠ ']' := by
  cases spells <;> exact ⟨_, _, rfl, rfl, by decide⟩

/-- Neither a gap nor a value begins with a closing bracket. -/
theorem SpellsItems.exists_skipBlanks_eq_cons {items : List Json} {text : List Char}
    (spells : SpellsItems items text) (rest : List Char) :
    ∃ first more, skipBlanks (text ++ rest) = first :: more ∧ first ≠ ']' := by
  have padded {item : Json} {spelled : List Char} (here : SpellsPadded item spelled)
      (rest : List Char) :
      ∃ first more, skipBlanks (spelled ++ rest) = first :: more ∧ first ≠ ']' := by
    cases here with
    | padded front value =>
      rcases value.exists_eq_cons with ⟨first, more, rfl, other, open'⟩
      rw [List.append_assoc, front.skipBlanks_append]
      exact ⟨first, _, skipBlanks_of_not_blank other, open'⟩
  cases spells with
  | last here => simpa using padded here (']' :: rest)
  | next here later => simpa using padded here (',' :: _)

/-- A name begins with its quote, and ends with blanks. -/
theorem SpellsName.exists_skipBlanks_eq {name : String} {text : List Char}
    (spells : SpellsName name text) (rest : List Char) :
    ∃ spelled after, skipBlanks (text ++ rest) = '"' :: (spelled ++ (after ++ rest)) ∧
      SpellsText name.toList spelled ∧ IsGap after := by
  cases spells with
  | @name before spelled after front inner back =>
    refine ⟨spelled, after, ?_, inner, back⟩
    rw [List.append_assoc, front.skipBlanks_append, List.cons_append, List.append_assoc]
    exact skipBlanks_of_not_blank (by decide)

/-- The members of an object begin with the quote of a name. -/
theorem SpellsMembers.exists_skipBlanks_eq_cons {members : List (String × Json)} {text : List Char}
    (spells : SpellsMembers members text) (rest : List Char) :
    ∃ more, skipBlanks (text ++ rest) = '"' :: more := by
  cases spells with
  | last named =>
    rcases named.exists_skipBlanks_eq (':' :: _ ++ rest) with ⟨spelled, after, begins, -⟩
    rw [List.append_assoc]
    exact ⟨_, begins⟩
  | next named =>
    rcases named.exists_skipBlanks_eq (':' :: _ ++ rest) with ⟨spelled, after, begins, -⟩
    rw [List.append_assoc]
    exact ⟨_, begins⟩

mutual

/-- A value is read from each of its spellings, whatever follows that. -/
theorem Spells.outcome?_readValue {value : Json} {text : List Char} (spells : Spells value text)
    {input rest : List Char} (front : skipBlanks input = text ++ rest) :
    Read.outcome? (readValue input) = some (value, rest) := by
  match spells with
  | .string inner =>
    rw [List.cons_append] at front
    rw [outcome?_readValue_of_quote front, inner.outcome?_readString]
    rfl
  | .emptyArray blank =>
    rw [List.cons_append] at front
    rw [outcome?_readValue_of_bracket front, List.append_assoc, blank.skipBlanks_append]
    rfl
  | .array inner =>
    rw [List.cons_append] at front
    rw [outcome?_readValue_of_bracket front, inner.outcome?_readItems]
    rcases inner.exists_skipBlanks_eq_cons rest with ⟨first, more, begins, other⟩
    rw [begins]
    split
    · rename_i same
      exact absurd (List.cons.inj same).1 other
    · rfl
  | .emptyObject blank =>
    rw [List.cons_append] at front
    rw [outcome?_readValue_of_brace front, List.append_assoc, blank.skipBlanks_append]
    rfl
  | .object inner =>
    rw [List.cons_append] at front
    rw [outcome?_readValue_of_brace front, inner.outcome?_readMembers]
    rcases inner.exists_skipBlanks_eq_cons rest with ⟨more, begins⟩
    rw [begins]
    dsimp only [Option.map_some]
    rw [objectOf_map_some]
    rfl

/-- Blanks in front of a value are passed over, and those behind it are left. -/
theorem SpellsPadded.exists_readValue {value : Json} {text : List Char}
    (spells : SpellsPadded value text) (rest : List Char) :
    ∃ after, Read.outcome? (readValue (text ++ rest)) = some (value, after) ∧
      skipBlanks after = skipBlanks rest := by
  match spells with
  | @SpellsPadded.padded _ _ _ after front here back =>
    refine ⟨after ++ rest, here.outcome?_readValue ?_, back.skipBlanks_append rest⟩
    rcases here.exists_eq_cons with ⟨first, more, begins, other, -⟩
    rw [List.append_assoc, front.skipBlanks_append, List.append_assoc, begins]
    exact skipBlanks_of_not_blank other

/-- Items are read up to their closing bracket. -/
theorem SpellsItems.outcome?_readItems {items : List Json} {text : List Char}
    (spells : SpellsItems items text) (rest : List Char) :
    Read.outcome? (readItems (text ++ rest)) = some (items, rest) := by
  match spells with
  | .last here =>
    rw [List.append_assoc]
    rcases here.exists_readValue ([']'] ++ rest) with ⟨after, read, same⟩
    rw [outcome?_readItems_of_readValue read, same]
    rfl
  | @SpellsItems.next _ items _ more here later =>
    rw [List.append_assoc]
    rcases here.exists_readValue (',' :: more ++ rest) with ⟨after, read, same⟩
    rw [outcome?_readItems_of_readValue read, same]
    change (Read.outcome? (readItems (more ++ rest))).map _ = _
    rw [later.outcome?_readItems]
    rfl

/-- Members are read up to their closing brace. -/
theorem SpellsMembers.outcome?_readMembers {members : List (String × Json)} {text : List Char}
    (spells : SpellsMembers members text) (rest : List Char) :
    Read.outcome? (readMembers (text ++ rest)) =
      some (members.map fun (name, value) => (some name, value), rest) := by
  match spells with
  | @SpellsMembers.last _ _ _ text named here =>
    rw [List.append_assoc, List.cons_append, List.append_assoc]
    rcases here.exists_readValue (['\x7d'] ++ rest) with ⟨left, read, same⟩
    rcases named.exists_skipBlanks_eq (':' :: (text ++ (['\x7d'] ++ rest))) with
      ⟨spelled, after, opens, inner, back⟩
    have colon : skipBlanks (after ++ ':' :: (text ++ (['\x7d'] ++ rest))) =
        ':' :: (text ++ (['\x7d'] ++ rest)) :=
      (back.skipBlanks_append _).trans (skipBlanks_of_not_blank (by decide))
    rw [outcome?_readMembers_of_readValue opens (inner.outcome?_readString _) colon read, same]
    rfl
  | @SpellsMembers.next _ _ _ _ text more named here later =>
    rw [List.append_assoc, List.cons_append, List.append_assoc]
    rcases here.exists_readValue (',' :: more ++ rest) with ⟨left, read, same⟩
    rcases named.exists_skipBlanks_eq (':' :: (text ++ (',' :: more ++ rest))) with
      ⟨spelled, after, opens, inner, back⟩
    have colon : skipBlanks (after ++ ':' :: (text ++ (',' :: more ++ rest))) =
        ':' :: (text ++ (',' :: more ++ rest)) :=
      (back.skipBlanks_append _).trans (skipBlanks_of_not_blank (by decide))
    rw [outcome?_readMembers_of_readValue opens (inner.outcome?_readString _) colon read, same]
    change (Read.outcome? (readMembers (more ++ rest))).map _ = _
    rw [later.outcome?_readMembers]
    rfl

end

/-- The reader reads standard JSON. -/
theorem SpellsPadded.read?_eq {value : Json} {text : String}
    (spells : SpellsPadded value text.toList) : read? text = some value := by
  rcases spells.exists_readValue [] with ⟨after, read, same⟩
  rw [List.append_nil] at read
  rcases Read.outcome?_eq_some_iff.mp read with ⟨shorter, found⟩
  have ends : skipBlanks after = [] := same
  rw [read?, found]
  simp [ends]

/-! ## What is printed is spelled -/

/-- The four digits of a control are read back as its number. -/
theorem unit?_hexDigits : ∀ value < 0x20,
    hexDigits value = ['0', '0', Nat.digitChar (value / 16), Nat.digitChar (value % 16)] ∧
      unit? '0' '0' (Nat.digitChar (value / 16)) (Nat.digitChar (value % 16)) = some value := by
  decide

/-- A character is spelled by its escape. -/
theorem spellsCharacter_escape (character : Char) :
    SpellsCharacter character (escape character) := by
  unfold escape
  split
  · exact .letter rfl
  · exact .letter rfl
  · exact .letter rfl
  · exact .letter rfl
  · exact .letter rfl
  · exact .letter rfl
  · exact .letter rfl
  · rename_i noQuote noBackslash _ _ _ _ _
    split
    · rename_i control
      rcases unit?_hexDigits character.toNat control with ⟨digits, unit⟩
      rw [digits]
      exact .digits unit
    · rename_i visible
      exact .itself noQuote noBackslash visible

/-- A text is spelled by the escapes of its characters. -/
theorem spellsText_flatMap_escape (text : List Char) :
    SpellsText text (text.flatMap escape ++ ['"']) := by
  induction text with
  | nil => exact .closing
  | cons character more ih =>
    rw [List.flatMap_cons, List.append_assoc]
    exact .character (spellsCharacter_escape character) ih

theorem isGap_nil : IsGap [] :=
  nofun

theorem isGap_blank : IsGap [' '] := by
  rintro _ (_ | ⟨_, ⟨⟩⟩)
  rfl

/-- The start of a line is a gap. -/
theorem isGap_newline (count : Nat) : IsGap ('\n' :: blanks count) := by
  intro character member
  rcases List.mem_cons.mp member with rfl | blank
  · rfl
  · rw [List.eq_of_mem_replicate blank]
    rfl

/-- The name of a member on a line of its own. -/
theorem spellsName_newline (count : Nat) (name : String) :
    SpellsName name ('\n' :: (blanks count ++ quote name)) := by
  have spells := SpellsName.name (isGap_newline count) (spellsText_flatMap_escape name.toList)
    isGap_nil
  simpa [quote] using spells

mutual

/-- The printer writes textual values as standard JSON. -/
theorem spells_indented {value : Json} (textual : value.isTextual = true) (indent : Nat) :
    Spells value (indented indent value) := by
  match value with
  | .string text => exact .string (spellsText_flatMap_escape text.toList)
  | .array [] => exact .emptyArray isGap_nil
  | .array (item :: items) =>
    rw [isTextual, areTextual, Bool.and_eq_true] at textual
    have first := spells_indented textual.1 (indent + 2)
    have inner := spellsItems_indented first textual.2 indent
    rw [indented]
    simpa using Spells.array inner
  | .object [] => exact .emptyObject isGap_nil
  | .object ((name, value) :: members) =>
    rw [isTextual, haveTextualValues, Bool.and_eq_true] at textual
    have first := spells_indented textual.1 (indent + 2)
    have inner := spellsMembers_indented name first textual.2 indent
    rw [indented]
    simpa using Spells.object inner

/-- The items of an array are spelled by their lines. -/
theorem spellsItems_indented {indent : Nat} {item : Json} {items : List Json}
    (here : Spells item (indented indent item)) (textual : areTextual items = true) (outer : Nat) :
    SpellsItems (item :: items) ('\n' :: (blanks indent ++ (indented indent item ++
      (indentedItems indent items ++ '\n' :: (blanks outer ++ [']']))))) := by
  match items with
  | [] =>
    have padded := SpellsPadded.padded (isGap_newline indent) here (isGap_newline outer)
    simpa [indentedItems] using SpellsItems.last padded
  | next :: items =>
    rw [areTextual, Bool.and_eq_true] at textual
    have padded := SpellsPadded.padded (isGap_newline indent) here isGap_nil
    have later := spellsItems_indented (spells_indented textual.1 indent) textual.2 outer
    simpa [indentedItems] using SpellsItems.next padded later

/-- The members of an object are spelled by their lines. -/
theorem spellsMembers_indented {indent : Nat} (name : String) {value : Json}
    {members : List (String × Json)} (here : Spells value (indented indent value))
    (textual : haveTextualValues members = true) (outer : Nat) :
    SpellsMembers ((name, value) :: members) ('\n' :: (blanks indent ++ (quote name ++
      ':' :: ' ' :: (indented indent value ++ (indentedMembers indent members ++
        '\n' :: (blanks outer ++ ['\x7d'])))))) := by
  have named := spellsName_newline indent name
  match members with
  | [] =>
    have padded := SpellsPadded.padded isGap_blank here (isGap_newline outer)
    simpa [indentedMembers] using SpellsMembers.last named padded
  | (nextName, next) :: members =>
    rw [haveTextualValues, Bool.and_eq_true] at textual
    have padded := SpellsPadded.padded isGap_blank here isGap_nil
    have later := spellsMembers_indented nextName (spells_indented textual.1 indent) textual.2 outer
    simpa [indentedMembers] using SpellsMembers.next named padded later

end

/-- The printer and the reader keep to the standard. -/
theorem isStandard_standard : Library.standard.IsStandard where
  writes := by
    intro value textual
    have padded := SpellsPadded.padded isGap_nil (spells_indented textual 0) isGap_nil
    simpa [Library.standard, pretty] using padded
  reads := fun _ _ spells => spells.read?_eq

end Json

end ScriptTree
