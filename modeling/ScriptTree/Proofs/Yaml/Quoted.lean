import ScriptTree.Proofs.Yaml.Layout
import ScriptTree.Yaml.ScalarReader
import Mathlib.Data.List.Basic

/-!
# Reading back quoted scalars

Between double quotes every character is read from its own escape.  Between single quotes only the
quote itself is doubled; there a break is a new line of the text, and the blanks that this line is
indented by are folded away.  Since it is indented, no line of a scalar is taken for the start or
the end of a document.
-/

namespace ScriptTree.Yaml

variable {place : Position} {offset : Nat} {character : Char}

/-! ## Double quotes -/

/-- What has an escape letter is written with one that is read back as the same character. -/
theorem of_escapeLetter?_eq_some {letter : Char} (escaped : escapeLetter? character = some letter) :
    isBreak letter = false ∧ digitCount? letter = none ∧ unescape? letter = some character ∧
      character ≠ ' ' ∧ isPrintable letter = true := by
  unfold escapeLetter? at escaped
  split at escaped <;> cases escaped <;> exact ⟨by decide, rfl, rfl, by decide, by decide⟩

/-- A character without an escape letter stands for itself. -/
theorem of_escapeLetter?_eq_none (plain : escapeLetter? character = none) :
    isBreak character = false ∧ character ≠ '\t' ∧ character ≠ '"' ∧ character ≠ '\\' := by
  have apart : ∀ other, (escapeLetter? other).isSome → character ≠ other := by
    rintro other escaped rfl
    rw [plain] at escaped
    cases escaped
  simp only [isBreak, Bool.or_eq_false_iff, decide_eq_false_iff_not]
  exact ⟨⟨⟨apart _ rfl, apart _ rfl⟩, apart _ rfl⟩, apart _ rfl, apart _ rfl, apart _ rfl⟩

/-- Beyond one byte only a byte order mark and two characters that are none do not print. -/
theorem toNat_of_isPrintable_eq_false (unprintable : isPrintable character = false)
    (wide : 0xff < character.toNat) :
    character.toNat = 0xfeff ∨ character.toNat = 0xfffe ∨ character.toNat = 0xffff := by
  have valid := character.valid
  simp only [isPrintable, Bool.or_eq_false_iff, Bool.and_eq_false_iff, decide_eq_false_iff_not,
    Char.le_def, UInt32.le_iff_toNat_le, ne_eq, Decidable.not_not] at unprintable
  simp only [UInt32.isValidChar, Nat.isValidChar] at valid
  rcases unprintable with ⟨⟨⟨_, latin⟩, privateUse⟩, astral⟩
  simp only [Char.toNat] at wide ⊢
  rw [show (Char.ofNat 0x10000).val.toNat = 0x10000 from rfl] at astral
  simp only [Char.reduceVal, UInt32.reduceToNat] at latin privateUse
  rcases privateUse with outside | rfl
  · omega
  · exact Or.inl rfl

/-- The digits of a character that does not print. -/
theorem of_upperHex_two : ∀ value < 0x100, (upperHex 2 value).length = 2 ∧
    (upperHex 2 value).all StringLiteral.isHexDigit = true ∧
    (upperHex 2 value).foldl (fun value digit => value * 16 + StringLiteral.hexDigit digit) 0 =
      value := by
  decide +kernel

/-- Hexadecimal digits of an escape are read as the character they number. -/
theorem doublePieces_digits {digits : List Char} {left value : Nat} (length : digits.length = left)
    (some : 0 < left) (hex : digits.all StringLiteral.isHexDigit = true)
    (result : digits.foldl (fun value digit => value * 16 + StringLiteral.hexDigit digit) value =
      character.toNat) (rest : List Char) :
    doublePieces (.digits left value) (layOut place offset (digits ++ rest)) =
      (doublePieces .none (layOut (placeAfter place digits) (offsetAfter offset digits) rest)).map
        (Piece.solid character).before := by
  induction digits generalizing left value place offset with
  | nil => subst length; cases some
  | cons digit more ih =>
    rw [List.all_cons, Bool.and_eq_true] at hex
    rw [List.cons_append, layOut, doublePieces, if_pos hex.1]
    cases more with
    | nil =>
      have last : left = 1 := by simpa using length.symm
      have whole : value * 16 + StringLiteral.hexDigit digit = character.toNat := result
      have valid : character.toNat.isValidChar := character.valid
      rw [if_neg (by omega), whole, if_pos valid, Char.ofNat_toNat]
      rfl
    | cons next more =>
      have further : 1 < left := by
        rw [List.length_cons, List.length_cons] at length
        omega
      simp only [if_pos further]
      refine ih ?_ ?_ hex.2 result
      · rw [← length]; rfl
      · omega

/-- A character is written with a letter, as itself, or with the digits of its number. -/
theorem escape_cases (character : Char) :
    (∃ letter, escapeLetter? character = some letter ∧ escape character = ['\\', letter]) ∨
    (escapeLetter? character = none ∧ isPrintable character = true ∧
      escape character = [character]) ∨
    (isPrintable character = false ∧ ∃ mark digits, (mark = 'x' ∨ mark = 'u') ∧
      digitCount? mark = some digits.length ∧ digits.all StringLiteral.isHexDigit = true ∧
      digits.foldl (fun value digit => value * 16 + StringLiteral.hexDigit digit) 0 =
        character.toNat ∧
      escape character = '\\' :: mark :: digits) := by
  cases escaped : escapeLetter? character with
  | some letter => exact Or.inl ⟨letter, rfl, by rw [escape, escaped]⟩
  | none =>
    refine Or.inr ?_
    cases printable : isPrintable character with
    | true => exact Or.inl ⟨rfl, rfl, by rw [escape, escaped]; exact if_pos printable⟩
    | false =>
      refine Or.inr ⟨rfl, ?_⟩
      by_cases narrow : character.toNat ≤ 0xff
      · rcases of_upperHex_two character.toNat (Nat.lt_succ_of_le narrow) with ⟨length, hex, result⟩
        refine ⟨'x', upperHex 2 character.toNat, Or.inl rfl, by rw [length]; rfl, hex, result, ?_⟩
        simp [escape, escaped, printable, narrow]
      · have ⟨length, hex, result⟩ : (upperHex 4 character.toNat).length = 4 ∧
            (upperHex 4 character.toNat).all StringLiteral.isHexDigit = true ∧
            (upperHex 4 character.toNat).foldl
              (fun value digit => value * 16 + StringLiteral.hexDigit digit) 0 =
                character.toNat := by
          rcases toNat_of_isPrintable_eq_false printable (Nat.lt_of_not_le narrow) with
            code | code | code <;> rw [code] <;> decide
        refine ⟨'u', upperHex 4 character.toNat, Or.inr rfl, by rw [length]; rfl, hex, result, ?_⟩
        simp [escape, escaped, printable, narrow]

/-- A hexadecimal digit is printable. -/
theorem isPrintable_of_isHexDigit (digit : StringLiteral.isHexDigit character = true) :
    isPrintable character = true ∧ isBreak character = false := by
  constructor
  · simp only [StringLiteral.isHexDigit, Char.isDigit, Bool.or_eq_true, Bool.and_eq_true,
      decide_eq_true_eq, ge_iff_le, Char.le_def, UInt32.le_iff_toNat_le] at digit
    simp only [isPrintable, Bool.or_eq_true, Bool.and_eq_true, decide_eq_true_eq, Char.le_def,
      UInt32.le_iff_toNat_le]
    simp only [Char.reduceVal, UInt32.reduceToNat] at digit ⊢
    omega
  · simp only [isBreak, Bool.or_eq_false_iff, decide_eq_false_iff_not]
    refine ⟨⟨?_, ?_⟩, ?_⟩ <;> (rintro rfl; cases digit)

/-- An escape stands on one line, and all of it prints. -/
theorem of_mem_escape {part : Char} (member : part ∈ escape character) :
    isPrintable part = true ∧ isBreak part = false := by
  rcases escape_cases character with ⟨letter, escaped, written⟩ | ⟨escaped, printable, written⟩ |
    ⟨-, mark, digits, marked, -, hex, -, written⟩ <;> rw [written] at member
  · have known := of_escapeLetter?_eq_some escaped
    rcases List.mem_pair.mp member with rfl | rfl
    · decide
    · exact ⟨known.2.2.2.2, known.1⟩
  · rw [List.mem_singleton.mp member]
    exact ⟨printable, (of_escapeLetter?_eq_none escaped).1⟩
  · rcases List.mem_cons.mp member with rfl | member
    · decide
    · rcases List.mem_cons.mp member with rfl | member
      · rcases marked with rfl | rfl <;> decide
      · exact isPrintable_of_isHexDigit (List.all_eq_true.mp hex part member)

/-- A character as a piece of a scalar on one line. -/
def Piece.onLine (character : Char) : Piece :=
  if character = ' ' then .blank ' ' else .solid character

/-- A character is read from its escape. -/
theorem doublePieces_escape (right : 0 < place.column) (character : Char) (rest : List Char) :
    doublePieces .none (layOut place offset (escape character ++ rest)) =
      (doublePieces .none (layOut (placeAfter place (escape character))
        (offsetAfter offset (escape character)) rest)).map (Piece.onLine character).before := by
  have backslash (more : List Char) :
      doublePieces .none (layOut place offset ('\\' :: more)) =
        doublePieces .opened (layOut (nextPlace place '\\') (offset + 1) more) := by
    rw [layOut, doublePieces, isDocumentMarker_of_column right]
    rfl
  rcases escape_cases character with ⟨letter, escaped, written⟩ | ⟨escaped, printable, written⟩ |
    ⟨unprintable, mark, digits, marked, count, hex, result, written⟩ <;> rw [written]
  · rcases of_escapeLetter?_eq_some escaped with ⟨noBreak, noDigits, meaning, notBlank, -⟩
    rw [List.cons_append, backslash, List.singleton_append, layOut, doublePieces,
      if_neg (by simp [noBreak]), noDigits, Piece.onLine, if_neg notBlank]
    simp only [meaning]
    rfl
  · rcases of_escapeLetter?_eq_none escaped with ⟨noBreak, noTab, noQuote, noBackslash⟩
    have piece : Piece.ofCharacter character = Piece.onLine character := by
      by_cases blank : character = ' '
      · rw [blank]
        rfl
      · simp [Piece.ofCharacter, Piece.onLine, noBreak, isBlank, noTab, blank]
    rw [List.singleton_append, layOut, doublePieces, isDocumentMarker_of_column right,
      if_neg Bool.false_ne_true, if_neg noQuote, if_neg noBackslash, piece]
    rfl
  · have notBlank : character ≠ ' ' := by
      rintro rfl
      cases unprintable
    have noBreak : isBreak mark = false := by rcases marked with rfl | rfl <;> rfl
    have some : 0 < digits.length := by
      rcases marked with rfl | rfl
      · exact Option.some.inj count ▸ Nat.two_pos
      · exact Option.some.inj count ▸ (by decide : 0 < 4)
    rw [Piece.onLine, if_neg notBlank, List.cons_append, backslash, List.cons_append, layOut,
      doublePieces, if_neg (by simp [noBreak])]
    simp only [count]
    exact doublePieces_digits rfl some hex result rest
/-- An escape stays on its line. -/
theorem placeAfter_escape (place : Position) (character : Char) :
    placeAfter place (escape character) =
      ⟨place.line, place.column + (escape character).length⟩ :=
  placeAfter_of_forall place fun _ member => (of_mem_escape member).2

/-- A text is read up to its closing double quote. -/
theorem doublePieces_flatMap_escape (place : Position) (offset : Nat) (right : 0 < place.column)
    (text rest : List Char) :
    doublePieces .none (layOut place offset (text.flatMap escape ++ '"' :: rest)) =
      some (text.map Piece.onLine,
        layOut (placeAfter place (text.flatMap escape ++ ['"']))
          (offsetAfter offset (text.flatMap escape ++ ['"'])) rest) := by
  induction text generalizing place offset with
  | nil =>
    rw [List.flatMap_nil, List.nil_append, layOut, doublePieces, isDocumentMarker_of_column right]
    rfl
  | cons character more ih =>
    have further : 0 < (placeAfter place (escape character)).column := by
      rw [placeAfter_escape]
      exact Nat.lt_of_lt_of_le right (Nat.le_add_right _ _)
    simp only [List.flatMap_cons, List.append_assoc, doublePieces_escape right, ih _ _ further,
      placeAfter_append, offsetAfter_append]
    rfl

/-- A text without breaks is folded to itself, with the gap before it. -/
theorem foldFrom_map_onLine (gap text : List Char) :
    foldFrom (.blanks gap) (text.map Piece.onLine) = gap ++ text := by
  induction text generalizing gap with
  | nil => simp [foldFrom, Gap.text]
  | cons character more ih =>
    by_cases blank : character = ' '
    · simp [Piece.onLine, foldFrom, Gap.addBlank, blank, ih]
    · simp [Piece.onLine, foldFrom, Gap.text, blank, ih]

/-! ## Single quotes -/

/-- Any character but a quote stands for itself in single quotes. -/
theorem singlePieces_of_ne {cell : Cell} {rest : List Cell}
    (inside : isDocumentMarker (cell :: rest) = false) (other : cell.character ≠ '\'') :
    singlePieces (cell :: rest) =
      (singlePieces rest).map (Piece.ofCharacter cell.character).before := by
  rw [singlePieces.eq_def]
  simp [inside, other]

/-- A doubled quote stands for one. -/
theorem singlePieces_doubled {cell next : Cell} {rest : List Cell} (quote : cell.character = '\'')
    (again : next.character = '\'') :
    singlePieces (cell :: next :: rest) = (singlePieces rest).map (Piece.solid '\'').before := by
  have inside : isDocumentMarker (cell :: next :: rest) = false :=
    isDocumentMarker_of_character (by simp [quote]) (by simp [quote])
  rw [singlePieces.eq_def]
  simp [inside, quote, again]

/-- A quote that no other one follows closes the scalar. -/
theorem singlePieces_closing {cell : Cell} {rest : List Cell} (quote : cell.character = '\'')
    (closed : ∀ next ∈ rest.head?, next.character ≠ '\'') :
    singlePieces (cell :: rest) = some ([], rest) := by
  have inside : isDocumentMarker (cell :: rest) = false :=
    isDocumentMarker_of_character (by simp [quote]) (by simp [quote])
  rw [singlePieces.eq_def]
  cases rest with
  | nil => simp [inside, quote]
  | cons next more =>
    have other : next.character ≠ '\'' := closed next rfl
    simp [inside, quote, other]

theorem singlePieces_blanks (count : Nat) (rest : List Char) :
    singlePieces (layOut place offset (Json.blanks count ++ rest)) =
      (singlePieces (layOut (placeAfter place (Json.blanks count))
        (offsetAfter offset (Json.blanks count)) rest)).map fun (pieces, after) =>
          ((Json.blanks count).map Piece.ofCharacter ++ pieces, after) := by
  induction count generalizing place offset with
  | zero => simp [Json.blanks, placeAfter, offsetAfter]
  | succ count ih =>
    have more : Json.blanks (count + 1) = ' ' :: Json.blanks count := List.replicate_succ
    rw [more, List.cons_append, layOut,
      singlePieces_of_ne (isDocumentMarker_of_character (by simp) (by simp)) (by simp), ih,
      Option.map_map]
    rfl

/-- A character is read from what stands for it. -/
theorem singlePieces_character (right : 0 < place.column) {character : Char}
    (noBreak : isBreak character = false) (rest : List Char) :
    ∃ place' offset', 0 < place'.column ∧
      singlePieces (layOut place offset
        ((if character = '\'' then ['\'', '\''] else [character]) ++ rest)) =
      (singlePieces (layOut place' offset' rest)).map (Piece.ofCharacter character).before := by
  split
  · rename_i quote
    subst quote
    refine ⟨nextPlace (nextPlace place '\'') '\'', offset + 1 + 1, Nat.succ_pos _, ?_⟩
    rw [List.cons_append, List.singleton_append, layOut, layOut, singlePieces_doubled rfl rfl]
    rfl
  · rename_i other
    refine ⟨nextPlace place character, offset + character.utf8Size, ?_, ?_⟩
    · rw [nextPlace, if_neg (by simp [noBreak])]
      exact Nat.succ_pos _
    · rw [List.singleton_append, layOut,
        singlePieces_of_ne (isDocumentMarker_of_column right) other]

theorem singlePieces_quote {rest : List Char} (closed : rest.head? ≠ some '\'') :
    singlePieces (layOut place offset ('\'' :: rest)) =
      some ([], layOut (nextPlace place '\'') (offset + 1) rest) := by
  refine singlePieces_closing rfl ?_
  cases rest with
  | nil => rintro next ⟨⟩
  | cons next more =>
    rintro _ ⟨rfl⟩ same
    exact closed (congrArg some same)

/-- The characters between single quotes: a text with its new lines indented. -/
def indentedFrom (indent : Nat) (afterBreak : Bool) : List Char → List Char
  | [] => if afterBreak then Json.blanks indent else []
  | character :: rest =>
    if isBreak character then character :: indentedFrom indent true rest
    else
      (if afterBreak then Json.blanks indent else []) ++ character :: indentedFrom indent false rest

/-- A text is read up to its closing single quote.  No line of it starts with a mark of the
document, because a new line is indented. -/
theorem exists_singlePieces_singleQuotedFrom {indent : Nat} {afterBreak : Bool}
    {text rest : List Char} (place : Position) (offset : Nat)
    (right : afterBreak = false → 0 < place.column)
    (deep : 0 < indent ∨ (afterBreak = false ∧ ∀ character ∈ text, isBreak character = false))
    (closed : rest.head? ≠ some '\'') :
    ∃ place' offset',
      singlePieces (layOut place offset (singleQuotedFrom indent afterBreak text ++ rest)) =
        some ((indentedFrom indent afterBreak text).map Piece.ofCharacter,
          layOut place' offset' rest) := by
  induction text generalizing place offset afterBreak with
  | nil =>
    cases afterBreak with
    | false => exact ⟨_, _, singlePieces_quote closed⟩
    | true =>
      rw [singleQuotedFrom, if_pos rfl, List.append_assoc, singlePieces_blanks,
        List.singleton_append, singlePieces_quote closed]
      exact ⟨nextPlace (placeAfter place (Json.blanks indent)) '\'',
        offsetAfter offset (Json.blanks indent) + 1, by simp [indentedFrom]⟩
  | cons character more ih =>
    rw [singleQuotedFrom, indentedFrom]
    split
    · rename_i breaks
      have deeper : 0 < indent := by
        rcases deep with deep | ⟨-, noBreak⟩
        · exact deep
        · rw [noBreak character List.mem_cons_self] at breaks
          cases breaks
      have apart : ∀ other, isBreak other = false → character ≠ other := by
        rintro other solid rfl
        rw [solid] at breaks
        cases breaks
      have free : true = false → 0 < (nextPlace place character).column := by rintro ⟨⟩
      rcases ih _ (offset + character.utf8Size) free (Or.inl deeper) with ⟨place', offset', read⟩
      refine ⟨place', offset', ?_⟩
      rw [List.cons_append, layOut, singlePieces_of_ne
        (isDocumentMarker_of_character (apart _ rfl) (apart _ rfl)) (apart _ rfl), read]
      rfl
    · rename_i solid
      rw [Bool.not_eq_true] at solid
      have deepMore :
          0 < indent ∨ (false = false ∧ ∀ character ∈ more, isBreak character = false) :=
        deep.imp_right fun noBreak =>
          ⟨rfl, fun other member => noBreak.2 other (List.mem_cons_of_mem _ member)⟩
      have readCharacter (place : Position) (offset : Nat) (right : 0 < place.column) :
          ∃ place' offset', singlePieces (layOut place offset
            ((if character = '\'' then ['\'', '\''] else [character]) ++
              (singleQuotedFrom indent false more ++ rest))) =
            some ((character :: indentedFrom indent false more).map Piece.ofCharacter,
              layOut place' offset' rest) := by
        rcases singlePieces_character right solid (singleQuotedFrom indent false more ++ rest) with
          ⟨place', offset', further, read⟩
        rcases ih place' offset' (fun _ => further) deepMore with ⟨place'', offset'', readMore⟩
        exact ⟨place'', offset'', by rw [read, readMore]; rfl⟩
      rw [List.append_assoc, List.append_assoc]
      cases afterBreak with
      | false => exact readCharacter place offset (right rfl)
      | true =>
        have indented : 0 < (placeAfter place (Json.blanks indent)).column := by
          rcases deep with deep | ⟨⟨⟩, -⟩
          rw [placeAfter_blanks]
          exact Nat.lt_of_lt_of_le deep (Nat.le_add_left _ _)
        rcases readCharacter _ (offsetAfter offset (Json.blanks indent)) indented with
          ⟨place', offset', read⟩
        refine ⟨place', offset', ?_⟩
        rw [if_pos rfl, singlePieces_blanks, read, List.map_append]
        rfl

/-- Whether a text may follow what was read since the last solid piece: after a blank it does not
start with a break, and after a break not with a blank. -/
def Gap.Meets (afterBreak : Bool) (text : List Char) : Gap → Prop
  | .blanks before =>
    afterBreak = false ∧ (before = [] ∨ ∀ first ∈ text.head?, isBreak first = false)
  | .broken first _ =>
    afterBreak = true ∧ (∃ character, character ≠ '\n' ∧ first = some character) ∧
      ∀ first ∈ text.head?, first ≠ ' '

namespace Gap

variable {afterBreak : Bool} {gap : Gap} {more : List Char}

theorem meets_blanks_nil {text : List Char} : (blanks []).Meets false text :=
  ⟨rfl, Or.inl rfl⟩

theorem Meets.addBreak (meets : gap.Meets afterBreak (character :: more))
    (breaks : isBreak character = true) (separator : character ≠ '\n')
    (noBlank : ∀ first ∈ more.head?, first ≠ ' ') :
    (gap.addBreak character).Meets true more ∧
      (gap.addBreak character).text = gap.text ++ [character] := by
  cases gap with
  | blanks before =>
    have nothing : before = [] := meets.2.resolve_right fun solid => by
      rw [solid character rfl] at breaks
      cases breaks
    subst nothing
    exact ⟨⟨rfl, ⟨character, separator, rfl⟩, noBlank⟩, by simp [Gap.addBreak, text, separator]⟩
  | broken first later =>
    rcases meets with ⟨-, ⟨other, notFeed, rfl⟩, -⟩
    exact ⟨⟨rfl, ⟨other, notFeed, rfl⟩, noBlank⟩, by simp [Gap.addBreak, text, notFeed]⟩

theorem Meets.addBlank (meets : gap.Meets afterBreak (' ' :: more))
    (noBreak : ∀ first ∈ more.head?, isBreak first = false) :
    (gap.addBlank ' ').Meets false more ∧ (gap.addBlank ' ').text = gap.text ++ [' '] := by
  cases gap with
  | blanks before => exact ⟨⟨rfl, Or.inr noBreak⟩, rfl⟩
  | broken first later => exact absurd rfl (meets.2.2 ' ' rfl)

/-- The blanks after a break leave no trace. -/
theorem Meets.foldFrom_indentation {text : List Char} (meets : gap.Meets afterBreak text)
    (indent : Nat) (pieces : List Piece) :
    foldFrom gap ((if afterBreak then Json.blanks indent else []).map Piece.ofCharacter ++ pieces) =
      foldFrom gap pieces := by
  cases gap with
  | blanks before => rw [meets.1]; rfl
  | broken first later =>
    rw [meets.1, if_pos rfl, Json.blanks]
    induction indent with
    | zero => rfl
    | succ indent ih => exact ih

end Gap

theorem of_hasBlankAtBreak {more : List Char}
    (apart : hasBlankAtBreak (character :: more) = false) :
    (isBreak character = true → ∀ first ∈ more.head?, first ≠ ' ') ∧
      (character = ' ' → ∀ first ∈ more.head?, isBreak first = false) ∧
      hasBlankAtBreak more = false := by
  cases more with
  | nil => exact ⟨by rintro _ _ ⟨⟩, by rintro _ _ ⟨⟩, rfl⟩
  | cons next more =>
    simp only [hasBlankAtBreak, Bool.or_eq_false_iff, Bool.and_eq_false_iff,
      decide_eq_false_iff_not] at apart
    rcases apart with ⟨⟨beforeBlank, afterBlank⟩, others⟩
    refine ⟨?_, ?_, others⟩
    · rintro breaks _ ⟨rfl⟩
      exact beforeBlank.resolve_left (by simp [breaks])
    · rintro blank _ ⟨rfl⟩
      exact afterBlank.resolve_left (by simp [blank])

/-- A text with its new lines indented is folded to itself. -/
theorem foldFrom_indentedFrom {indent : Nat} {afterBreak : Bool} {text : List Char} {gap : Gap}
    (meets : gap.Meets afterBreak text) (printable : text.all isPrintable = true)
    (apart : hasBlankAtBreak text = false) :
    foldFrom gap ((indentedFrom indent afterBreak text).map Piece.ofCharacter) =
      gap.text ++ text := by
  induction text generalizing afterBreak gap with
  | nil =>
    have folded := meets.foldFrom_indentation indent []
    rw [List.append_nil] at folded
    rw [indentedFrom, folded, List.append_nil]
    rfl
  | cons character more ih =>
    rw [List.all_cons, Bool.and_eq_true] at printable
    rcases of_hasBlankAtBreak apart with ⟨noBlank, noBreak, apartMore⟩
    have notControl : character ≠ '\n' ∧ character ≠ '\t' := by
      constructor <;> (rintro rfl; cases printable.1)
    rw [indentedFrom]
    split
    · rename_i breaks
      rcases meets.addBreak breaks notControl.1 (noBlank breaks) with ⟨meetsMore, text⟩
      rw [List.map_cons, Piece.ofCharacter, if_pos breaks, foldFrom,
        ih meetsMore printable.2 apartMore, text, List.append_assoc, List.singleton_append]
    · rename_i solid
      rw [List.map_append, meets.foldFrom_indentation, List.map_cons]
      by_cases blank : character = ' '
      · subst blank
        rcases meets.addBlank (noBreak rfl) with ⟨meetsMore, text⟩
        exact (ih meetsMore printable.2 apartMore).trans
          (by rw [text, List.append_assoc, List.singleton_append])
      · have piece : Piece.ofCharacter character = .solid character := by
          simp [Piece.ofCharacter, solid, isBlank, blank, notControl.2]
        rw [piece, foldFrom, ih Gap.meets_blanks_nil printable.2 apartMore]
        rfl

end ScriptTree.Yaml
