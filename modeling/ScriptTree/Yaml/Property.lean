import ScriptTree.Lexeme.StringLiteral
import ScriptTree.Number.Integer
import ScriptTree.Yaml.Layout
import ScriptTree.Yaml

/-!
# Anchors, tags and directives

An anchor is known by a name.  A tag is a handle and a suffix, or it is written
out between angle brackets; then it has no handle.  In a tag a percent sign with
two hexadecimal digits stands for one byte.  The directives in front of a document
say which version it is written for, and what handles stand for.
-/

namespace ScriptTree.Yaml

/-- Whether a character may be part of the name of an anchor. -/
def isNameCharacter (character : Char) : Bool :=
  character.isAlphanum || character = '_' || character = '-'

/-- The longest name at the front, which may be empty, and the cells after it. -/
def readName (cells : List Cell) : List Char × List Cell :=
  ((cells.takeWhile fun cell => isNameCharacter cell.character).map (·.character),
    cells.dropWhile fun cell => isNameCharacter cell.character)

theorem length_readName_le (cells : List Cell) :
    (readName cells).2.length ≤ cells.length :=
  (List.dropWhile_suffix _).length_le

/-- Whether an anchor may end here. -/
def endsLabel : List Cell → Bool
  | [] => true
  | cell :: _ => cell.isGap || cell.character ∈ ['?', ':', ',', ']', '\x7d', '%', '@', '\x60']

/-- The name of an anchor after its mark. -/
def label? (cells : List Cell) : Option (List Char × List Cell) :=
  if (readName cells).1.isEmpty || !endsLabel (readName cells).2 then none
  else some (readName cells)

theorem length_le_of_label? {cells after : List Cell} {name : List Char}
    (read : label? cells = some (name, after)) : after.length ≤ cells.length := by
  unfold label? at read
  split at read
  · cases read
  · have bound := length_readName_le cells
    rw [Option.some.inj read] at bound
    exact bound

/-- Characters of a tag; between angle brackets there may be more of them. -/
def isTagCharacter (isVerbatim : Bool) (character : Char) : Bool :=
  isNameCharacter character ||
    character ∈ [';', '/', '?', ':', '@', '&', '=', '+', '$', '.', '!', '~', '*', '\'', '(', ')'] ||
    (isVerbatim && character ∈ [',', '[', ']'])

/-- The number of bytes that follow a first byte of a character. -/
def continuationCount? (byte : Nat) : Option Nat :=
  if byte < 0x80 then some 0
  else if 0xc0 ≤ byte && byte < 0xe0 then some 1
  else if 0xe0 ≤ byte && byte < 0xf0 then some 2
  else if 0xf0 ≤ byte && byte < 0xf8 then some 3
  else none

/-- The number of bytes still to come after a byte, where `pending` were to come before it. -/
def afterByte? (pending byte : Nat) : Option Nat :=
  match pending with
  | 0 => continuationCount? byte
  | left + 1 => if 0x80 ≤ byte && byte < 0xc0 then some left else none

/-- The byte that two hexadecimal digits stand for. -/
def byte? (high low : Char) : Option Nat :=
  if StringLiteral.isHexDigit high && StringLiteral.isHexDigit low then
    some (StringLiteral.number 16 [high, low])
  else
    none

/-- The characters of a tag at the front, one for each byte that is written as such. -/
def tagText? (isVerbatim : Bool) (pending : Nat) : List Cell → Option (List Char × List Cell)
  | [] => if pending = 0 then some ([], []) else none
  | cell :: rest =>
    if cell.character = '%' then
      match rest with
      | high :: low :: rest =>
        match (byte? high.character low.character).bind fun byte =>
            (afterByte? pending byte).map (byte, ·) with
        | none => none
        | some (byte, pending) =>
          (tagText? isVerbatim pending rest).map fun (text, after) =>
            (Char.ofNat byte :: text, after)
      | _ => none
    else if pending ≠ 0 then
      none
    else if isTagCharacter isVerbatim cell.character then
      (tagText? isVerbatim 0 rest).map fun (text, after) => (cell.character :: text, after)
    else
      some ([], cell :: rest)

/-- The text of a tag takes no cells that are not there. -/
theorem length_le_of_tagText? {isVerbatim : Bool} {pending : Nat} {cells after : List Cell}
    {text : List Char} (read : tagText? isVerbatim pending cells = some (text, after)) :
    after.length ≤ cells.length := by
  fun_induction tagText? isVerbatim pending cells generalizing text after with
  | case1 =>
    cases read
    exact Nat.le_refl _
  | case2 | case3 | case5 | case6 => cases read
  | case4 =>
    rename_i ih
    obtain ⟨⟨more, tail⟩, inner, put⟩ := Option.map_eq_some_iff.1 read
    obtain ⟨-, rfl⟩ := Prod.mk.inj put
    exact Nat.le_succ_of_le (Nat.le_succ_of_le (Nat.le_succ_of_le (ih inner)))
  | case7 =>
    rename_i ih
    obtain ⟨⟨more, tail⟩, inner, put⟩ := Option.map_eq_some_iff.1 read
    obtain ⟨-, rfl⟩ := Prod.mk.inj put
    exact Nat.le_succ_of_le (ih inner)
  | case8 =>
    cases read
    exact Nat.le_refl _

/-- A tag, or the part of one, that may not be empty. -/
def nonemptyTagText? (isVerbatim : Bool) (cells : List Cell) : Option (List Char × List Cell) :=
  (tagText? isVerbatim 0 cells).filter fun (text, _) => !text.isEmpty

theorem length_le_of_nonemptyTagText? {isVerbatim : Bool} {cells after : List Cell}
    {text : List Char} (read : nonemptyTagText? isVerbatim cells = some (text, after)) :
    after.length ≤ cells.length :=
  length_le_of_tagText? (Option.filter_eq_some_iff.1 read).1

/-- Whether a tag may end here. -/
def endsTag (inFlow : Bool) : List Cell → Bool
  | [] => true
  | cell :: _ => cell.isGap || (inFlow && cell.character = ',')

/-- The tag that consists of a single exclamation mark. -/
def loneTag : List Char × List Char :=
  ([], ['!'])

/-- The handle and the suffix of a tag after its exclamation mark, wherever the tag ends. -/
def tagParts? (cells : List Cell) : Option ((List Char × List Char) × List Cell) :=
  match cells with
  | [] => some (loneTag, [])
  | cell :: rest =>
    if cell.character = '<' then
      match nonemptyTagText? true rest with
      | some (suffix, closing :: after) =>
        if closing.character = '>' then some (([], suffix), after) else none
      | _ => none
    else
      match readName (cell :: rest) with
      | (name, mark :: after) =>
        if mark.character = '!' then
          (nonemptyTagText? false after).map fun (suffix, after) =>
            (('!' :: (name ++ ['!']), suffix), after)
        else
          (tagText? false 0 (mark :: after)).map fun (more, after) =>
            if (upToZero (name ++ more)).isEmpty then (loneTag, after)
            else ((['!'], name ++ more), after)
      | (name, []) => some ((['!'], name), [])

/-- A tag after its exclamation mark. -/
def tag? (inFlow : Bool) (cells : List Cell) : Option (Token × List Cell) :=
  (tagParts? cells).bind fun ((handle, suffix), after) =>
    if endsTag inFlow after then some (.tag handle suffix, after) else none

theorem length_le_of_tagParts? {cells after : List Cell} {parts : List Char × List Char}
    (read : tagParts? cells = some (parts, after)) : after.length ≤ cells.length := by
  unfold tagParts? at read
  split at read
  · cases read
    exact Nat.le_refl _
  · split at read
    · split at read
      · rename_i inner
        split at read
        · cases read
          have bound := length_le_of_nonemptyTagText? inner
          simp only [List.length_cons] at bound ⊢
          omega
        · cases read
      · cases read
    · rename_i first rest _
      split at read
      · rename_i name mark tail named
        have outer := length_readName_le (first :: rest)
        rw [named, List.length_cons] at outer
        split at read
        · obtain ⟨⟨suffix, after⟩, suffixed, put⟩ := Option.map_eq_some_iff.1 read
          obtain ⟨-, rfl⟩ := Prod.mk.inj put
          have inner := length_le_of_nonemptyTagText? suffixed
          omega
        · obtain ⟨⟨more, after⟩, continued, put⟩ := Option.map_eq_some_iff.1 read
          have inner := length_le_of_tagText? continued
          rw [List.length_cons] at inner
          dsimp only at put
          split at put <;>
            (obtain ⟨-, rfl⟩ := Prod.mk.inj put
             omega)
      · cases read
        exact Nat.zero_le _

theorem length_le_of_tag? {inFlow : Bool} {cells after : List Cell} {token : Token}
    (read : tag? inFlow cells = some (token, after)) : after.length ≤ cells.length := by
  obtain ⟨⟨⟨handle, suffix⟩, tail⟩, parts, ends⟩ := Option.bind_eq_some_iff.1 read
  dsimp only at ends
  split at ends
  · cases ends
    exact length_le_of_tagParts? parts
  · cases ends

/-- A number of one digit to nine. -/
def shortNumber? (cells : List Cell) : Option (Nat × List Cell) :=
  ((Number.natural? ((cells.takeWhile fun cell => cell.character.isDigit).map (·.character))).filter
      fun _ => (cells.takeWhile fun cell => cell.character.isDigit).length ≤ 9).map
    (·, cells.dropWhile fun cell => cell.character.isDigit)

theorem length_le_of_shortNumber? {cells after : List Cell} {number : Nat}
    (read : shortNumber? cells = some (number, after)) : after.length ≤ cells.length := by
  obtain ⟨_, -, put⟩ := Option.map_eq_some_iff.1 read
  obtain ⟨-, rfl⟩ := Prod.mk.inj put
  exact (List.dropWhile_suffix _).length_le

/-- Two numbers with a point between them. -/
def version? (cells : List Cell) : Option (Token × List Cell) :=
  match shortNumber? cells with
  | some (major, point :: rest) =>
    if point.character = '.' then
      (shortNumber? rest).map fun (minor, after) => (.version major minor, after)
    else
      none
  | _ => none

theorem length_le_of_version? {cells after : List Cell} {token : Token}
    (read : version? cells = some (token, after)) : after.length ≤ cells.length := by
  unfold version? at read
  split at read
  · rename_i major point rest first
    split at read
    · obtain ⟨⟨minor, tail⟩, second, put⟩ := Option.map_eq_some_iff.1 read
      obtain ⟨-, rfl⟩ := Prod.mk.inj put
      have outer := length_le_of_shortNumber? first
      have inner := length_le_of_shortNumber? second
      rw [List.length_cons] at outer
      omega
    · cases read
  · cases read

/-- A handle between exclamation marks, or one alone. -/
def handleName? : List Cell → Option (List Char × List Cell)
  | [] => none
  | mark :: rest =>
    if mark.character ≠ '!' then
      none
    else
      match readName rest with
      | (name, next :: after) =>
        if next.character = '!' then some ('!' :: (name ++ ['!']), after)
        else if name.isEmpty then some (['!'], next :: after)
        else none
      | (_, []) => none

theorem length_le_of_handleName? {cells after : List Cell} {name : List Char}
    (read : handleName? cells = some (name, after)) : after.length ≤ cells.length := by
  unfold handleName? at read
  split at read
  · cases read
  · rename_i mark rest
    split at read
    · cases read
    · split at read
      · rename_i name next tail named
        have bound := length_readName_le rest
        rw [named, List.length_cons] at bound
        split at read
        · cases read
          rw [List.length_cons]
          omega
        · split at read
          · cases read
            simp only [List.length_cons]
            omega
          · cases read
      · cases read

/-- A handle, blanks, and what the handle stands for. -/
def handle? (cells : List Cell) : Option (Token × List Cell) :=
  match handleName? cells with
  | some (name, blank :: rest) =>
    if isBlank blank.character then
      match nonemptyTagText? true (skipBlanks rest) with
      | some (replacement, after) =>
        if isGapNext after then some (.handle name replacement, after) else none
      | none => none
    else
      none
  | _ => none

theorem length_le_of_handle? {cells after : List Cell} {token : Token}
    (read : handle? cells = some (token, after)) : after.length ≤ cells.length := by
  unfold handle? at read
  split at read
  · rename_i name blank rest named
    split at read
    · split at read
      · rename_i replacement tail replaced
        split at read
        · cases read
          have outer := length_le_of_handleName? named
          have inner := length_le_of_nonemptyTagText? replaced
          have blanks := length_skipBlanks_le rest
          rw [List.length_cons] at outer
          omega
        · cases read
      · cases read
    · cases read
  · cases read

/-- A directive after its percent sign, with the end of its line. -/
def directive? (cells : List Cell) : Option (Token × List Cell) :=
  match readName cells with
  | (name, after) =>
    if !isGapNext after then
      none
    else
      let parameters :=
        if name = "YAML".toList then version? (skipBlanks after)
        else if name = "TAG".toList then handle? (skipBlanks after)
        else none
      parameters.bind fun (token, after) => (lineEnd? after).map (token, ·)

theorem length_le_of_directive? {cells after : List Cell} {token : Token}
    (read : directive? cells = some (token, after)) : after.length ≤ cells.length := by
  unfold directive? at read
  split at read
  rename_i name rest named
  have outer := length_readName_le cells
  rw [named] at outer
  dsimp only at outer
  split at read
  · cases read
  · obtain ⟨⟨token, middle⟩, parameters, line⟩ := Option.bind_eq_some_iff.1 read
    obtain ⟨tail, ended, put⟩ := Option.map_eq_some_iff.1 line
    obtain ⟨-, rfl⟩ := Prod.mk.inj put
    have blanks := length_skipBlanks_le rest
    have last := length_le_of_lineEnd? ended
    split at parameters
    · have inner := length_le_of_version? parameters
      omega
    · split at parameters
      · have inner := length_le_of_handle? parameters
        omega
      · cases parameters

end ScriptTree.Yaml
