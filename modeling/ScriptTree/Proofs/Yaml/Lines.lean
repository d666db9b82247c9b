import ScriptTree.Proofs.Yaml.Scanning

/-!
# Scanning, line by line

What a line adds to the tokens depends on the columns of the open collections and on the column
that the line starts in, not on the number of the line or on the tokens before it.  So the scanner
is followed from one front to the next.
-/

namespace ScriptTree.Yaml

variable {columns : List Nat} {tokens : List Token}

/-- A configuration of the scanner at the start of a token or in front of the blanks of a line. -/
structure Front where
  columns : List Nat
  tokens : List Token
  column : Nat
  text : List Char

namespace Front

/-- Whatever is scanned from one front is scanned from the other one. -/
def Leads (first second : Front) : Prop :=
  ∀ (place : Position) (offset : Nat), place.column = first.column →
    ∃ place' offset', place'.column = second.column ∧
      tokensFrom (.between first.columns first.tokens) (layOut place offset first.text) =
        tokensFrom (.between second.columns second.tokens) (layOut place' offset' second.text)

/-- Every front leads to itself. -/
theorem Leads.refl (front : Front) : front.Leads front :=
  fun place offset column => ⟨place, offset, column, rfl⟩

/-- A front leads on through another one. -/
theorem Leads.trans {first second third : Front} (one : first.Leads second)
    (two : second.Leads third) : first.Leads third := by
  intro place offset column
  rcases one place offset column with ⟨place', offset', column', same⟩
  rcases two place' offset' column' with ⟨place'', offset'', column'', same'⟩
  exact ⟨place'', offset'', column'', same.trans same'⟩

end Front

section

variable {column : Nat} {name text rest : List Char}

/-- Blanks lead along the line. -/
theorem leads_blanks (columns : List Nat) (tokens : List Token) (count : Nat) (rest : List Char) :
    Front.Leads ⟨columns, tokens, 0, Json.blanks count ++ rest⟩ ⟨columns, tokens, count, rest⟩ := by
  intro place offset first
  refine ⟨_, _, ?_, tokensFrom_blanks ..⟩
  rw [placeAfter_blanks, first, Nat.zero_add]

/-- What ends before a column closes the collection that is open there. -/
theorem leads_blockEnd (ends : EndsBefore column rest) :
    Front.Leads ⟨column :: columns, tokens, 0, rest⟩ ⟨columns, .blockEnd :: tokens, 0, rest⟩ :=
  fun place offset first => ⟨place, offset, first, tokensFrom_blockEnd ends first⟩

/-- A name that heads a value on further lines leads to the line below. -/
theorem leads_heading (columns : List Nat) (tokens : List Token) (rest : List Char)
    (isName : isName name = true)
    (opened : ∀ other ∈ columns.head?, other ≤ column) :
    Front.Leads ⟨columns, tokens, column, name ++ ':' :: '\n' :: rest⟩
      ⟨columnsFrom column columns, tokensAfterName column columns
        (.scalar .plain (String.ofList name)) tokens, 0, rest⟩ := by
  rintro place offset rfl
  rcases tokensFrom_name isName '\n' rest rfl opened with ⟨place', offset', -, named⟩
  exact ⟨_, _, rfl, named.trans (tokensFrom_newline false place' offset' rest)⟩

/-- An entry with its scalar on the line leads to the line below. -/
theorem leads_entry (columns : List Nat) (tokens : List Token) {indent : Nat} {style : Style}
    {spelled : List Char} (isName : isName name = true)
    (opened : ∀ other ∈ columns.head?, other ≤ column)
    (spells : SpellsScalar indent text style spelled) (ends : EndsBefore (column + 1) rest) :
    Front.Leads
      ⟨columns, tokens, column, name ++ ':' :: ' ' :: (spelled ++ '\n' :: rest)⟩
      ⟨columnsFrom column columns,
        .scalar style (String.ofList text) :: tokensAfterName column columns
          (.scalar .plain (String.ofList name)) tokens,
        0, rest⟩ := by
  rintro place offset rfl
  rcases tokensFrom_name isName ' ' (spelled ++ '\n' :: rest) rfl opened with
    ⟨place', offset', further, named⟩
  rcases exists_columnsFrom_eq_cons place.column columns with ⟨others, innermost⟩
  rw [innermost] at named ⊢
  have blank := tokensFrom_blanks ((Outline.between (place.column :: others)
    (tokensAfterName place.column columns (.scalar .plain (String.ofList name)) tokens)).admitting
      false) place' offset' 1 (spelled ++ '\n' :: rest)
  rw [placeAfter_blanks] at blank
  have right : 0 < (⟨place'.line, place'.column + 1⟩ : Position).column := Nat.succ_pos _
  have inside : ∀ other ∈ (place.column :: others).head?, other < place'.column + 1 := by
    rintro _ ⟨rfl⟩
    exact Nat.lt_succ_of_lt further
  rcases spells.exists_tokensFrom_eq right inside ends with ⟨place'', offset'', column, read⟩
  exact ⟨place'', offset'', column, named.trans (blank.trans read)⟩

/-- A dash in the column of an open collection is the one of an item under a name. -/
theorem leads_dash :
    Front.Leads ⟨column :: columns, tokens, column, '-' :: ' ' :: rest⟩
      ⟨column :: columns, .dash :: tokens, column + 2, rest⟩ := by
  rintro place offset rfl
  have dashed : (Outline.between (place.column :: columns) tokens).dash ⟨place, offset, '-'⟩ =
      some (Outline.between (place.column :: columns) (.dash :: tokens)) := by
    have stays : (Outline.between (place.column :: columns) tokens).startsAt place.column = false :=
      (startsAt_of_head rfl (by rintro _ ⟨rfl⟩; exact Nat.le_refl _)).trans
        (by simp [Outline.between])
    rw [Outline.dash, Outline.start, stays]
    rfl
  have opened : ∀ other ∈ (place.column :: columns).head?, other ≤ place.column := by
    rintro _ ⟨rfl⟩
    exact Nat.le_refl _
  have inside : isDocumentMarker (layOut place offset ('-' :: ' ' :: rest)) = false := by
    cases rest <;> simp [layOut, isDocumentMarker, isMarker]
  have read := outcome?_readToken_dash (Outline.between (place.column :: columns) tokens) rfl rfl
    inside
  rw [dashed] at read
  have blank := tokensFrom_blanks (Outline.between (place.column :: columns) (.dash :: tokens))
    (nextPlace place '-') (offset + '-'.utf8Size) 1 rest
  exact ⟨_, _, rfl,
    ((tokensFrom_between rfl opened _).trans (congrArg (Option.bind · _) read)).trans blank⟩

end

/-! ## Characters -/

/-- The characters that texts are written with. -/
def isWritten (character : Char) : Bool :=
  isPrintable character || character = '\n'

/-- Written characters are readable. -/
theorem all_isReadable {text : List Char} (written : text.all isWritten = true) :
    text.all isReadable = true := by
  rw [List.all_eq_true] at written ⊢
  intro character member
  have := written character member
  rw [isWritten, Bool.or_eq_true, decide_eq_true_eq] at this
  rcases this with printable | rfl
  · simp [isReadable, printable]
  · decide

/-- No break has to be replaced. -/
theorem unifyBreaks_of_isWritten {text : List Char} (written : text.all isWritten = true) :
    unifyBreaks text = text := by
  fun_induction unifyBreaks text with
  | case1 => rfl
  | case2 => cases written
  | case3 character rest noPair ih =>
    rw [List.all_cons, Bool.and_eq_true] at written
    have apart : ∀ other, isWritten other = false → character ≠ other := by
      rintro other control rfl
      rw [control] at written
      cases written.1
    simp [ih written.2, apart '\r' rfl, apart '\u0085' rfl]

/-- Printable characters are written ones. -/
theorem all_isWritten_of_isPrintable {text : List Char} (printable : text.all isPrintable = true) :
    text.all isWritten = true := by
  rw [List.all_eq_true] at printable ⊢
  intro character member
  rw [isWritten, printable character member]
  rfl

/-- Blanks are written characters. -/
theorem all_isWritten_blanks (count : Nat) : (Json.blanks count).all isWritten = true := by
  rw [List.all_eq_true]
  intro character member
  rw [List.eq_of_mem_replicate member]
  rfl

/-- A name consists of written characters. -/
theorem all_isWritten_name {name : List Char} (isName : isName name = true) :
    name.all isWritten = true := by
  simp only [Yaml.isName, Bool.and_eq_true] at isName
  refine all_isWritten_of_isPrintable (List.all_eq_true.mpr fun character member => ?_)
  have word := List.all_eq_true.mp isName.1.2 character member
  simp only [isWordCharacter, Bool.and_eq_true] at word
  exact word.1.1.1.1

/-- Printable texts stay printable in single quotes. -/
theorem all_isPrintable_singleQuotedFrom {indent : Nat} {afterBreak : Bool} {text : List Char}
    (printable : text.all isPrintable = true) :
    (singleQuotedFrom indent afterBreak text).all isPrintable = true := by
  have blanks (afterBreak : Bool) :
      (if afterBreak then Json.blanks indent else []).all isPrintable = true := by
    split
    · exact List.all_eq_true.mpr fun character member => by
        rw [List.eq_of_mem_replicate member]
        rfl
    · rfl
  induction text generalizing afterBreak with
  | nil => rw [singleQuotedFrom, List.all_append, blanks]; rfl
  | cons character more ih =>
    rw [List.all_cons, Bool.and_eq_true] at printable
    rw [singleQuotedFrom]
    split
    · rw [List.all_cons, printable.1, ih printable.2]
      rfl
    · rw [List.all_append, List.all_append, blanks, ih printable.2]
      split
      · rfl
      · simp [printable.1]

/-- A scalar is spelled with written characters only. -/
theorem SpellsScalar.all_isWritten {indent : Nat} {text spelled : List Char} {style : Style}
    (spells : SpellsScalar indent text style spelled) : spelled.all isWritten = true := by
  cases spells with
  | plain fits =>
    rw [fitsPlain, Bool.and_eq_true] at fits
    exact all_isWritten_of_isPrintable (List.all_eq_true.mpr fun character member =>
      (of_continuesPlain fits.2 character member).1)
  | singleQuoted fits =>
    rw [fitsSingleQuotes, Bool.and_eq_true] at fits
    exact all_isWritten_of_isPrintable (all_isPrintable_singleQuotedFrom fits.1)
  | doubleQuoted =>
    refine all_isWritten_of_isPrintable (List.all_eq_true.mpr fun character member => ?_)
    simp only [Yaml.doubleQuoted, List.mem_cons, List.mem_append, List.mem_flatMap,
      List.not_mem_nil,
      or_false] at member
    rcases member with rfl | ⟨_, _, member⟩ | rfl
    · rfl
    · exact (of_mem_escape member).1
    · rfl

end ScriptTree.Yaml
