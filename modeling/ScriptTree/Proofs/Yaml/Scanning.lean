import ScriptTree.Proofs.Text.Read
import ScriptTree.Proofs.Yaml.Plain
import ScriptTree.Yaml.Library

/-!
# Scanning, token by token

A token is read where a gap ends, and only what follows the gap counts.  Between two lines of a
text in block form an outline holds no more than the columns of the open collections and the
tokens so far.  A name is first read as a plain scalar; the colon on the same line makes an entry
of it, which belongs to the mapping in its column or starts one.  The value of an entry is read as
the text that it was written for, in any of its styles.
-/

namespace ScriptTree.Yaml

/-! ## Tokens, one by one -/

section

variable {outline current next : Outline} {cells left rest : List Cell} {cell : Cell}
  {admits : Bool}

theorem tokensFrom_of_end
    (gap : skipGap outline.inFlow outline.admitsName false cells = (admits, [])) :
    tokensFrom outline cells = outline.finish := by
  rw [tokensFrom]
  split
  · rfl
  · rename_i other
    rw [gap] at other
    cases other

theorem tokensFrom_of_token
    (gap : skipGap outline.inFlow outline.admitsName false cells = (admits, cell :: rest)) :
    tokensFrom outline cells =
      ((outline.admitting admits).expire cell).bind fun current =>
        (Read.outcome? (readToken (current.close (cell.place.column < ·)) cell rest)).bind
          fun (next, left) => tokensFrom next left := by
  rw [tokensFrom]
  split
  · rename_i other
    rw [gap] at other
    cases other
  · rename_i other
    rw [gap] at other
    cases other
    cases (outline.admitting admits).expire cell with
    | none => rfl
    | some current =>
      simp only [Option.bind_some]
      cases readToken (current.close (cell.place.column < ·)) cell rest <;> rfl

theorem finish_admitting : (outline.admitting admits).finish = outline.finish := by
  have forget (closed : Outline) :
      ((closed.admitting admits).forget.map fun other => other.tokens.reverse) =
      closed.forget.map fun other => other.tokens.reverse := by
    simp only [Outline.forget, Outline.admitting, Option.map_map]
    rfl
  have close : (outline.admitting admits).close (fun _ => true) =
      (outline.close fun _ => true).admitting admits := by
    have flow : (outline.admitting admits).inFlow = outline.inFlow := rfl
    rw [Outline.close, Outline.close, flow]
    split <;> rfl
  rw [Outline.finish, close, forget]
  rfl

/-- Only what follows the gap counts. -/
theorem tokensFrom_skipGap (outline : Outline)
    (gap : skipGap outline.inFlow outline.admitsName false cells = (admits, left)) :
    tokensFrom outline cells = tokensFrom (outline.admitting admits) left := by
  have again := skipGap_skipGap outline.inFlow outline.admitsName false cells
  rw [gap] at again
  cases left with
  | nil =>
    rw [tokensFrom_of_end gap, tokensFrom_of_end again,
      finish_admitting]
  | cons cell rest =>
    rw [tokensFrom_of_token gap, tokensFrom_of_token again]
    rfl

end

/-- The outline between two tokens on different lines: the columns of the collections that are open,
the innermost first, and the tokens so far, the last one first. -/
def Outline.between (columns : List Nat) (tokens : List Token) : Outline :=
  { columns, tokens, count := tokens.length }

section

variable {columns : List Nat} {tokens : List Token} {place : Position} {offset : Nat}

theorem tokensFrom_blanks (outline : Outline) (place : Position) (offset count : Nat)
    (rest : List Char) :
    tokensFrom outline (layOut place offset (Json.blanks count ++ rest)) =
      tokensFrom outline (layOut (placeAfter place (Json.blanks count))
        (offsetAfter offset (Json.blanks count)) rest) := by
  rw [tokensFrom_skipGap _ rfl, skipGap_blanks, ← tokensFrom_skipGap _ rfl]

theorem tokensFrom_newline (admits : Bool) (place : Position) (offset : Nat) (rest : List Char) :
    tokensFrom ((Outline.between columns tokens).admitting admits)
      (layOut place offset ('\n' :: rest)) =
      tokensFrom (Outline.between columns tokens)
        (layOut ⟨place.line + 1, 0⟩ (offset + 1) rest) := by
  have gap := skipGap_newline admits place offset rest
  rw [tokensFrom_skipGap ((Outline.between columns tokens).admitting admits) gap,
    tokensFrom_skipGap (Outline.between columns tokens) rfl]
  rfl

theorem close_between (ends : Nat → Bool) :
    (Outline.between columns tokens).close ends =
      Outline.between (columns.dropWhile ends)
        (List.replicate (columns.takeWhile ends).length .blockEnd ++ tokens) := by
  have dropped : (columns.takeWhile ends ++ columns.dropWhile ends).drop
      (columns.takeWhile ends).length = columns.dropWhile ends := List.drop_left
  rw [List.takeWhile_append_dropWhile] at dropped
  simp [Outline.close, Outline.between, Outline.inFlow, dropped, Nat.add_comm]

theorem expire_between (admits : Bool) (cell : Cell) :
    ((Outline.between columns tokens).admitting admits).expire cell =
      some ((Outline.between columns tokens).admitting admits) :=
  rfl

/-- A collection ends in front of a token to the left of it. -/
theorem tokensFrom_blockEnd {column : Nat} {rest : List Char} (ends : EndsBefore column rest)
    (first : place.column = 0) :
    tokensFrom (Outline.between (column :: columns) tokens) (layOut place offset rest) =
      tokensFrom (Outline.between columns (.blockEnd :: tokens)) (layOut place offset rest) := by
  have close (ends : Nat → Bool) (left : ends column = true) :
      (Outline.between (column :: columns) tokens).close ends =
        (Outline.between columns (.blockEnd :: tokens)).close ends := by
    rw [close_between, close_between, List.takeWhile_cons_of_pos left,
      List.dropWhile_cons_of_pos left, List.length_cons, List.replicate_succ', List.append_assoc,
      List.singleton_append]
  cases ends with
  | nil =>
    rw [tokensFrom_of_end rfl, tokensFrom_of_end rfl, Outline.finish, close _ rfl]
    rfl
  | @token count character more left solid =>
    rw [tokensFrom_blanks, tokensFrom_blanks, placeAfter_blanks, first, Nat.zero_add]
    rw [tokensFrom_of_token (skipGap_layOut_of_isSolid solid),
      tokensFrom_of_token (skipGap_layOut_of_isSolid solid), expire_between, expire_between,
      Option.bind_some, Option.bind_some]
    have left : (decide (count < column)) = true := decide_eq_true left
    exact congrArg (fun outline => (Read.outcome? (readToken outline _ _)).bind
      fun (next, left) => tokensFrom next left) (close (count < ·) left)

theorem close_of_head {outline : Outline} {ends : Nat → Bool}
    (head : ∀ column ∈ outline.columns.head?, ends column = false) :
    outline.close ends = outline := by
  have stays : outline.columns.takeWhile ends = [] := by
    cases columns : outline.columns with
    | nil => rfl
    | cons column more =>
      rw [List.takeWhile_cons, head column (by rw [columns]; rfl)]
      rfl
  simp [Outline.close, stays]

/-- The next token, where no collection ends. -/
theorem tokensFrom_between {admits : Bool} {character : Char} (solid : isSolid character = true)
    (opened : ∀ column ∈ columns.head?, column ≤ place.column) (rest : List Char) :
    tokensFrom ((Outline.between columns tokens).admitting admits)
        (layOut place offset (character :: rest)) =
      (Read.outcome? (readToken ((Outline.between columns tokens).admitting admits)
        ⟨place, offset, character⟩
        (layOut (nextPlace place character) (offset + character.utf8Size) rest))).bind
          fun (next, left) => tokensFrom next left := by
  rw [tokensFrom_of_token (skipGap_layOut_of_isSolid solid)]
  have current : (((Outline.between columns tokens).admitting admits).close (place.column < ·)) =
      (Outline.between columns tokens).admitting admits :=
    close_of_head fun column member => decide_eq_false (Nat.not_lt.mpr (opened column member))
  exact congrArg (fun outline => (Read.outcome? (readToken outline _ _)).bind
    fun (next, left) => tokensFrom next left) current

/-! ## Scalars -/

theorem readToken_of_startsPlain {outline : Outline} {cell : Cell} {rest : List Cell}
    (outside : outline.inFlow = false) (starts : startsPlain false (cell :: rest) = true)
    (inside : isDocumentMarker (cell :: rest) = false) :
    readToken outline cell rest = readPlain outline cell rest := by
  have indicator : isIndicator cell.character = false := by
    rw [startsPlain] at starts
    split at starts
    · rename_i dash
      rw [dash]
      rfl
    · split at starts
      · rename_i mark
        rcases (Bool.or_eq_true ..).mp mark with mark | mark <;> rw [of_decide_eq_true mark] <;> rfl
      · rw [Bool.and_eq_true, Bool.not_eq_true', Bool.not_eq_true'] at starts
        exact starts.2
  have mark : ∀ other ∈ ['-', '?', ':'], ¬(cell.character = other ∧ isGapNext rest = true) := by
    rintro other member ⟨same, gap⟩
    simp only [List.mem_cons, List.not_mem_nil, or_false] at member
    rcases member with rfl | rfl | rfl <;> simp [startsPlain, same, gap] at starts
  simp only [List.forall_mem_cons, List.not_mem_nil, false_implies, implies_true, and_true] at mark
  simp only [isIndicator, List.mem_cons, List.not_mem_nil, or_false, decide_eq_false_iff_not,
    not_or] at indicator
  simp [readToken, inside, outside, indicator, mark]

theorem outcome?_readPlain (outline : Outline) {cell : Cell} {rest : List Cell} {part : PlainPart}
    (outside : outline.inFlow = false) (starts : startsPlain false (cell :: rest) = true)
    (read : plainPart false outline.margin (cell :: rest) = some part)
    (nonempty : part.pieces ≠ []) :
    Read.outcome? (readPlain outline cell rest) =
      (outline.part (.scalar .plain (fold part.pieces)) cell).map fun outline =>
        (outline.admitting part.isBroken, part.rest) := by
  rw [← outside] at starts read
  rw [readPlain, if_pos starts]
  split
  · rename_i none
    rw [read] at none
    cases none
  · rename_i other found
    rw [read] at found
    cases found
    rw [dif_neg nonempty]
    cases outline.part (.scalar .plain (fold part.pieces)) cell <;> rfl

/-- A printable character other than a blank, a break and an indicator starts a token. -/
theorem isSolid_of_isPrintable {character : Char} (printable : isPrintable character = true)
    (noBreak : isBreak character = false) (noBlank : character ≠ ' ')
    (noIndicator : isIndicator character = false) : isSolid character = true := by
  have noTab : character ≠ '\t' := by
    rintro rfl
    cases printable
  have noMark : character ≠ '\ufeff' := by
    rintro rfl
    cases printable
  have noComment : character ≠ '#' := by
    rintro rfl
    cases noIndicator
  simp [isSolid, isBlank, noBreak, noTab, noMark, noComment, noBlank]

/-! ## Names -/

section

variable {name : List Char} {separator : Char}

theorem of_isWordCharacter {character : Char} (word : isWordCharacter character = true) :
    isSolid character = true ∧ isBreak character = false ∧ isIndicator character = false ∧
      character ∉ [' ', ':', '-', '?', '.'] ∧ character.utf8Size = 1 := by
  simp only [isWordCharacter, Bool.and_eq_true, Bool.not_eq_true', decide_eq_true_eq] at word
  rcases word with ⟨⟨⟨⟨printable, noBreak⟩, noIndicator⟩, others⟩, size⟩
  have noBlank : character ≠ ' ' := by
    rintro rfl
    exact others List.mem_cons_self
  exact ⟨isSolid_of_isPrintable printable noBreak noBlank noIndicator, noBreak, noIndicator, others,
    size⟩

/-- A name is not empty, and a token starts with it. -/
theorem exists_eq_cons_of_isName (isName : isName name = true) :
    ∃ first more, name = first :: more ∧ isSolid first = true := by
  cases name with
  | nil => cases isName
  | cons first more =>
    simp only [Yaml.isName, List.all_cons, Bool.and_eq_true] at isName
    exact ⟨first, more, rfl, (of_isWordCharacter isName.1.2.1).1⟩

theorem plainWord_name (place : Position) (offset : Nat) (word : name.all isWordCharacter = true)
    (rest : List Char)
    (gap : isAtGap (separator :: rest) = true) :
    plainWord false (layOut place offset (name ++ ':' :: separator :: rest)) =
      (name, layOut (placeAfter place name) (offsetAfter offset name)
        (':' :: separator :: rest)) := by
  induction name generalizing place offset with
  | nil =>
    have gapNext : ∀ place offset, isGapNext (layOut place offset (separator :: rest)) = true :=
      fun _ _ => gap
    simp only [List.nil_append]
    rw [layOut, plainWord, endsAtColon, gapNext]
    rfl
  | cons character more ih =>
    rw [List.all_cons, Bool.and_eq_true] at word
    rcases of_isWordCharacter word.1 with ⟨solid, -, -, others, -⟩
    have noColon : character ≠ ':' := by
      rintro rfl
      exact others (by decide)
    rw [List.cons_append, layOut, plainWord, isGap_of_isSolid solid, ih _ _ word.2]
    simp [noColon, placeAfter, offsetAfter]

theorem offsetAfter_name (offset : Nat) (word : name.all isWordCharacter = true) :
    offsetAfter offset name = offset + name.length := by
  induction name generalizing offset with
  | nil => rfl
  | cons character more ih =>
    rw [List.all_cons, Bool.and_eq_true] at word
    rw [offsetAfter, List.foldl_cons, ← offsetAfter, ih _ word.2,
      (of_isWordCharacter word.1).2.2.2.2, List.length_cons]
    omega

theorem placeAfter_name (place : Position) (word : name.all isWordCharacter = true) :
    placeAfter place name = ⟨place.line, place.column + name.length⟩ :=
  placeAfter_of_forall place fun character member =>
    (of_isWordCharacter (List.all_eq_true.mp word character member)).2.1

theorem outcome?_readToken_colon {outline : Outline} {cell : Cell} {rest : List Cell}
    (colon : cell.character = ':') (gap : isGapNext rest = true) :
    Read.outcome? (readToken outline cell rest) =
      (outline.value cell).map fun next => (next, rest) := by
  have inside : isDocumentMarker (cell :: rest) = false :=
    isDocumentMarker_of_character (by simp [colon]) (by simp [colon])
  have read : readToken outline cell rest =
      (outline.value cell).map fun next => .after next rest (Nat.le_refl _) := by
    simp [readToken, inside, colon, gap]
  rw [read]
  cases outline.value cell <;> rfl

theorem outcome?_readToken_dash (outline : Outline) {cell : Cell} {rest : List Cell}
    (dash : cell.character = '-') (gap : isGapNext rest = true)
    (inside : isDocumentMarker (cell :: rest) = false) :
    Read.outcome? (readToken outline cell rest) =
      (outline.dash cell).map fun next => (next, rest) := by
  have read : readToken outline cell rest =
      (outline.dash cell).map fun next => .after next rest (Nat.le_refl _) := by
    simp [readToken, inside, dash, gap]
  rw [read]
  cases outline.dash cell <;> rfl

theorem fold_map_solid (text : List Char) : fold (text.map .solid) = String.ofList text := by
  have folded : foldFrom (.blanks []) (text.map .solid) = text := by
    induction text with
    | nil => rfl
    | cons character more ih => rw [List.map_cons, foldFrom, ih]; rfl
  rw [fold, folded]

/-- The outline after a token that is the start of an entry if a colon follows. -/
def Outline.awaiting (columns : List Nat) (tokens : List Token) (token : Token) (first : Cell) :
    Outline :=
  { columns, tokens := token :: tokens, count := tokens.length + 1, admitsName := false
    candidate := some ⟨first, tokens.length, columns.head? = some first.place.column⟩ }

/-- A name is read as a plain scalar. -/
theorem tokensFrom_scalar_of_isName {first : Char} {more : List Char}
    (isName : isName (first :: more) = true) (rest : List Char)
    (gap : isAtGap (separator :: rest) = true)
    (opened : ∀ column ∈ columns.head?, column ≤ place.column) :
    tokensFrom (.between columns tokens)
        (layOut place offset (first :: more ++ ':' :: separator :: rest)) =
      tokensFrom
        (.awaiting columns tokens (.scalar .plain (String.ofList (first :: more)))
          ⟨place, offset, first⟩)
        (layOut (placeAfter place (first :: more)) (offsetAfter offset (first :: more))
          (':' :: separator :: rest)) := by
  simp only [Yaml.isName, Bool.and_eq_true] at isName
  rcases isName with ⟨⟨-, word⟩, -⟩
  have wordRead := plainWord_name place offset word rest gap
  rw [List.all_cons, Bool.and_eq_true] at word
  rcases of_isWordCharacter word.1 with ⟨solid, -, indicator, others, -⟩
  simp only [List.mem_cons, List.not_mem_nil, or_false, not_or] at others
  have noGap : Cell.isGap ⟨place, offset, first⟩ = false := isGap_of_isSolid solid
  rw [List.cons_append] at wordRead ⊢
  have starts : startsPlain false
      (layOut place offset (first :: (more ++ ':' :: separator :: rest))) = true := by
    simp [layOut, startsPlain, others, indicator, noGap]
  have read : plainPart false (Outline.between columns tokens).margin
      (layOut place offset (first :: (more ++ ':' :: separator :: rest))) =
        some ⟨(first :: more).map .solid, false, layOut (placeAfter place (first :: more))
          (offsetAfter offset (first :: more)) (':' :: separator :: rest)⟩ :=
    plainPart_of_last wordRead (List.cons_ne_nil _ _)
      (by simp [layOut, Cell.isGap, isBlank, isBreak]) rfl (Or.inl rfl)
  have inside : isDocumentMarker
      (layOut place offset (first :: (more ++ ':' :: separator :: rest))) = false :=
    isDocumentMarker_of_character others.2.2.1 others.2.2.2.2
  refine (tokensFrom_between solid opened _).trans ?_
  rw [readToken_of_startsPlain rfl starts inside,
    outcome?_readPlain ((Outline.between columns tokens).admitting true) rfl starts read (by simp),
    fold_map_solid]
  rfl

theorem startsAt_of_head {outline : Outline} {column : Nat} (outside : outline.inFlow = false)
    (opened : ∀ other ∈ outline.columns.head?, other ≤ column) :
    outline.startsAt column = decide (outline.columns.head? ≠ some column) := by
  rw [Outline.startsAt, outside, Outline.margin]
  cases columns : outline.columns with
  | nil => simp
  | cons other more =>
    have left : other ≤ column := opened other (by rw [columns]; rfl)
    rw [Bool.eq_iff_iff]
    simp
    omega

/-- The columns after an entry in a column, which is in an open mapping or starts one. -/
def columnsFrom (column : Nat) (columns : List Nat) : List Nat :=
  if columns.head? = some column then columns else column :: columns

theorem exists_columnsFrom_eq_cons (column : Nat) (columns : List Nat) :
    ∃ others, columnsFrom column columns = column :: others := by
  cases columns with
  | nil => exact ⟨[], rfl⟩
  | cons other others =>
    by_cases same : other = column
    · exact ⟨others, by simp [columnsFrom, same]⟩
    · exact ⟨other :: others, by simp [columnsFrom, same]⟩

/-- The tokens after the name of an entry. -/
def tokensAfterName (column : Nat) (columns : List Nat) (name : Token) (tokens : List Token) :
    List Token :=
  .value :: name :: .key ::
    ((if columns.head? = some column then [] else [.mappingStart]) ++ tokens)

/-- A colon makes an entry of the token in front of it, and starts a mapping in a column of its
own. -/
theorem value_awaiting {token : Token} {first : Cell} (cell : Cell)
    (opened : ∀ column ∈ columns.head?, column ≤ first.place.column) :
    (Outline.awaiting columns tokens token first).value cell =
      some ((Outline.between (columnsFrom first.place.column columns)
        (tokensAfterName first.place.column columns token tokens)).admitting false) := by
  have starts : (Outline.awaiting columns tokens token first).startsAt first.place.column =
      decide (columns.head? ≠ some first.place.column) := startsAt_of_head rfl opened
  have candidate : (Outline.awaiting columns tokens token first).candidate =
      some ⟨first, tokens.length, columns.head? = some first.place.column⟩ := rfl
  rw [Outline.value, candidate]
  dsimp only
  rw [starts]
  by_cases same : columns.head? = some first.place.column <;>
    simp [same, Outline.awaiting, Outline.insertAt, Outline.between, Outline.admitting,
      Outline.emit, columnsFrom, tokensAfterName]

theorem tokensFrom_awaiting {token : Token} {first : Cell}
    (near : ∀ candidate : Candidate, candidate.first = first →
      candidate.isStale ⟨place, offset, ':'⟩ = false)
    (opened : ∀ column ∈ columns.head?, column ≤ first.place.column)
    (behind : first.place.column ≤ place.column) (rest : List Char)
    (gap : isAtGap (separator :: rest) = true) :
    tokensFrom (.awaiting columns tokens token first)
        (layOut place offset (':' :: separator :: rest)) =
      tokensFrom ((Outline.between (columnsFrom first.place.column columns)
        (tokensAfterName first.place.column columns token tokens)).admitting false)
        (layOut (nextPlace place ':') (offset + 1) (separator :: rest)) := by
  have fresh : (Outline.awaiting columns tokens token first).expire ⟨place, offset, ':'⟩ =
      some (Outline.awaiting columns tokens token first) := by
    simp [Outline.expire, Outline.awaiting, Candidate.refresh, near]
  have current : (Outline.awaiting columns tokens token first).close (place.column < ·) =
      Outline.awaiting columns tokens token first :=
    close_of_head fun column member =>
      decide_eq_false (Nat.not_lt.mpr (Nat.le_trans (opened column member) behind))
  have gapNext : isGapNext
      (layOut (nextPlace place ':') (offset + ':'.utf8Size) (separator :: rest)) = true := gap
  rw [tokensFrom_of_token (skipGap_layOut_of_isSolid rfl)]
  refine (congrArg (Option.bind · _) fresh).trans ?_
  rw [Option.bind_some, current, outcome?_readToken_colon rfl gapNext, value_awaiting _ opened]
  rfl

theorem tokensFrom_name (isName : isName name = true) (separator : Char) (rest : List Char)
    (gap : isAtGap (separator :: rest) = true)
    (opened : ∀ column ∈ columns.head?, column ≤ place.column) :
    ∃ place' offset', place.column < place'.column ∧
      tokensFrom (.between columns tokens)
          (layOut place offset (name ++ ':' :: separator :: rest)) =
        tokensFrom
          ((Outline.between (columnsFrom place.column columns)
            (tokensAfterName place.column columns (.scalar .plain (String.ofList name))
              tokens)).admitting false)
          (layOut place' offset' (separator :: rest)) := by
  have parts := isName
  simp only [Yaml.isName, Bool.and_eq_true, Bool.not_eq_true', decide_eq_true_eq] at parts
  rcases parts with ⟨⟨filled, word⟩, short⟩
  have placeAfter := placeAfter_name place word
  have offsetAfter := offsetAfter_name offset word
  rcases List.exists_cons_of_ne_nil (List.isEmpty_eq_false_iff.mp filled) with ⟨first, more, rfl⟩
  rw [tokensFrom_scalar_of_isName isName rest gap opened, placeAfter, offsetAfter,
    tokensFrom_awaiting _ opened (Nat.le_add_right _ _) rest gap]
  · exact ⟨_, _, Nat.lt_succ_of_le (Nat.le_add_right _ _), rfl⟩
  -- The colon stands on the line of the name, and not too far away.
  · rintro candidate same
    simp only [Candidate.isStale, same, Bool.or_eq_false_iff, decide_eq_false_iff_not]
    omega

end

/-! ## Values -/

theorem tokensFrom_congr {outline : Outline} {cells others : List Cell}
    (same : skipGap outline.inFlow outline.admitsName false cells =
      skipGap outline.inFlow outline.admitsName false others) :
    tokensFrom outline cells = tokensFrom outline others := by
  rw [tokensFrom_skipGap _ rfl, same, ← tokensFrom_skipGap _ rfl]

section

variable {outline : Outline} {cell : Cell} {rest left : List Cell} {pieces : List Piece}

theorem outcome?_readToken_singleQuote (quote : cell.character = '\'')
    (read : singlePieces rest = some (pieces, left)) :
    Read.outcome? (readToken outline cell rest) =
      (outline.part (.scalar .singleQuoted (fold pieces)) cell).map fun next => (next, left) := by
  have inside : isDocumentMarker (cell :: rest) = false :=
    isDocumentMarker_of_character (by simp [quote]) (by simp [quote])
  simp only [readToken, inside, quote]
  simp
  split
  · rename_i none
    rw [read] at none
    cases none
  · rename_i found
    rw [read] at found
    cases found
    cases outline.part (.scalar .singleQuoted (fold pieces)) cell <;> rfl

theorem outcome?_readToken_doubleQuote (quote : cell.character = '"')
    (read : doublePieces .none rest = some (pieces, left)) :
    Read.outcome? (readToken outline cell rest) =
      (outline.part (.scalar .doubleQuoted (fold pieces)) cell).map fun next => (next, left) := by
  have inside : isDocumentMarker (cell :: rest) = false :=
    isDocumentMarker_of_character (by simp [quote]) (by simp [quote])
  simp only [readToken, inside, quote]
  simp
  split
  · rename_i none
    rw [read] at none
    cases none
  · rename_i found
    rw [read] at found
    cases found
    cases outline.part (.scalar .doubleQuoted (fold pieces)) cell <;> rfl

end

theorem of_opensPlain {first : Char} {more : List Char}
    (opens : opensPlain (first :: more) = true) :
    isIndicator first = false ∧ first ≠ ' ' ∧
      ((first = '-' ∨ first = '?' ∨ first = ':') → isAtGap more = false) := by
  unfold opensPlain at opens
  split at opens
  · cases opens
  · cases opens
  · cases opens
  · rename_i same
    cases same
    simp only [Bool.and_eq_true, Bool.not_eq_true', Bool.and_eq_false_iff, decide_eq_true_eq]
      at opens
    rcases opens with ⟨⟨indicator, noBlank⟩, mark⟩
    refine ⟨indicator, noBlank, fun marked => mark.resolve_left ?_⟩
    rcases marked with rfl | rfl | rfl <;> simp

theorem startsPlain_layOut {first : Char} {more : List Char} (solid : isSolid first = true)
    (indicator : isIndicator first = false)
    (mark : first = '-' ∨ first = '?' ∨ first = ':' → isAtGap more = false)
    (place : Position) (offset : Nat) (rest : List Char) :
    startsPlain false (layOut place offset (first :: (more ++ '\n' :: rest))) = true := by
  have gapNext := isGapNext_layOut (nextPlace place first) (offset + first.utf8Size) more rest
  have noGap : Cell.isGap ⟨place, offset, first⟩ = false := isGap_of_isSolid solid
  simp only [layOut, startsPlain, gapNext, noGap, indicator]
  split
  · rename_i dash
    simp [mark (Or.inl dash)]
  · split
    · rename_i other
      rw [Bool.or_eq_true, decide_eq_true_eq, decide_eq_true_eq] at other
      simp [mark (Or.inr other)]
    · rfl

section

variable {text rest : List Char}

theorem tokensFrom_plain (fits : fitsPlain text = true) (right : 0 < place.column)
    (opened : ∀ column ∈ columns.head?, column < place.column)
    (ends : EndsBefore (Outline.between columns tokens).margin rest) :
    ∃ place' offset', place'.column = 0 ∧
      tokensFrom ((Outline.between columns tokens).admitting false)
          (layOut place offset (text ++ '\n' :: rest)) =
        tokensFrom (.between columns (.scalar .plain (String.ofList text) :: tokens))
          (layOut place' offset' rest) := by
  rw [fitsPlain, Bool.and_eq_true] at fits
  rcases fits with ⟨opens, continues⟩
  cases text with
  | nil => cases opens
  | cons first more =>
    rcases of_opensPlain opens with ⟨indicator, noBlank, mark⟩
    rcases of_continuesPlain continues first List.mem_cons_self with ⟨printable, noBreak⟩
    have solid := isSolid_of_isPrintable printable noBreak noBlank indicator
    have opened' : ∀ column ∈ columns.head?, column ≤ place.column := fun column member =>
      Nat.le_of_lt (opened column member)
    have inside : (Outline.between columns tokens).margin ≤ place.column := by
      cases columns with
      | nil => exact Nat.zero_le _
      | cons column others => exact opened column rfl
    rcases exists_plainPart continues (List.cons_ne_nil _ _)
      (by rintro _ ⟨rfl⟩; exact noBlank) inside ends with
      ⟨part, place', offset', read, pieces, broken, column, skips⟩
    have starts :
        startsPlain false (layOut place offset (first :: (more ++ '\n' :: rest))) = true :=
      startsPlain_layOut solid indicator mark place offset rest
    have noMarker :
        isDocumentMarker (layOut place offset (first :: (more ++ '\n' :: rest))) = false :=
      isDocumentMarker_of_column right
    rw [List.cons_append] at read ⊢
    refine ⟨place', offset', column, (tokensFrom_between solid opened' _).trans ?_⟩
    rw [readToken_of_startsPlain rfl starts noMarker,
      outcome?_readPlain ((Outline.between columns tokens).admitting false) rfl starts read
        (by rw [pieces]; simp), pieces, broken, fold, foldFrom_map_onLine]
    exact tokensFrom_congr (skips _)

theorem tokensFrom_singleQuoted {indent : Nat} (fits : fitsSingleQuotes text = true)
    (opened : ∀ column ∈ columns.head?, column < place.column)
    (deep : 0 < indent ∨ ∀ character ∈ text, isBreak character = false) :
    ∃ place' offset', place'.column = 0 ∧
      tokensFrom ((Outline.between columns tokens).admitting false)
          (layOut place offset (singleQuoted indent text ++ '\n' :: rest)) =
        tokensFrom (.between columns (.scalar .singleQuoted (String.ofList text) :: tokens))
          (layOut place' offset' rest) := by
  have opened' : ∀ column ∈ columns.head?, column ≤ place.column := fun column member =>
    Nat.le_of_lt (opened column member)
  have closed : ('\n' :: rest).head? ≠ some '\'' := by rintro ⟨⟩
  rcases exists_singlePieces_singleQuotedFrom (nextPlace place '\'') (offset + '\''.utf8Size)
    (fun _ => Nat.succ_pos _) (deep.imp_right fun noBreak => ⟨rfl, noBreak⟩) closed with
    ⟨place', offset', read⟩
  rw [fitsSingleQuotes, Bool.and_eq_true, Bool.not_eq_true'] at fits
  have folded : fold ((indentedFrom indent false text).map Piece.ofCharacter) =
      String.ofList text := by
    rw [fold, foldFrom_indentedFrom Gap.meets_blanks_nil fits.1 fits.2]
    rfl
  rw [singleQuoted, List.cons_append, tokensFrom_between rfl opened',
    outcome?_readToken_singleQuote rfl read, folded]
  refine ⟨_, _, ?_, tokensFrom_newline false place' offset' rest⟩
  rfl

theorem tokensFrom_doubleQuoted
    (opened : ∀ column ∈ columns.head?, column < place.column) :
    ∃ place' offset', place'.column = 0 ∧
      tokensFrom ((Outline.between columns tokens).admitting false)
          (layOut place offset (doubleQuoted text ++ '\n' :: rest)) =
        tokensFrom (.between columns (.scalar .doubleQuoted (String.ofList text) :: tokens))
          (layOut place' offset' rest) := by
  have opened' : ∀ column ∈ columns.head?, column ≤ place.column := fun column member =>
    Nat.le_of_lt (opened column member)
  have read := doublePieces_flatMap_escape (nextPlace place '"') (offset + '"'.utf8Size)
    (Nat.succ_pos _) text ('\n' :: rest)
  have folded : fold (text.map Piece.onLine) = String.ofList text := by
    rw [fold, foldFrom_map_onLine]
    rfl
  rw [doubleQuoted, List.cons_append, List.append_assoc, List.singleton_append,
    tokensFrom_between rfl opened', outcome?_readToken_doubleQuote rfl read, folded]
  refine ⟨_, _, ?_, tokensFrom_newline false _ _ rest⟩
  rfl

/-- A text is read back from whatever spells it as the value of an entry. -/
theorem SpellsScalar.exists_tokensFrom_eq {indent : Nat} {style : Style} {spelled : List Char}
    (spells : SpellsScalar indent text style spelled) (right : 0 < place.column)
    (opened : ∀ column ∈ columns.head?, column < place.column)
    (ends : EndsBefore (Outline.between columns tokens).margin rest) :
    ∃ place' offset', place'.column = 0 ∧
      tokensFrom ((Outline.between columns tokens).admitting false)
          (layOut place offset (spelled ++ '\n' :: rest)) =
        tokensFrom (.between columns (.scalar style (String.ofList text) :: tokens))
          (layOut place' offset' rest) := by
  cases spells with
  | plain fits => exact tokensFrom_plain fits right opened ends
  | singleQuoted fits deep => exact tokensFrom_singleQuoted fits opened deep
  | doubleQuoted => exact tokensFrom_doubleQuoted opened

end

end

end ScriptTree.Yaml
