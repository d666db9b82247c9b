import ScriptTree.Lexeme.StringLiteral
import ScriptTree.Yaml
import ScriptTree.Yaml.Layout

/-!
# Reading scalars

Quoted scalars end at their closing quote.  A plain scalar ends before a colon
or a comment, between brackets before a comma or a bracket, and before a line
that is indented less than the scalar has to be.
-/

/-!
## Folding lines

A plain or quoted scalar may run over several lines.  Blanks around a line break
do not count.  One line feed is read as a blank, and after it the others as
themselves; the other separators are always read as themselves.
-/

namespace ScriptTree.Yaml

/-- A piece of a plain or quoted scalar. -/
inductive Piece where
  /-- A character of its own, or one that an escape stands for. -/
  | solid (character : Char)
  | blank (character : Char)
  | lineBreak (character : Char)
  /-- A line break that an escape removes. -/
  | joint
deriving DecidableEq

/-- A blank, a line break, or anything else as itself. -/
def Piece.ofCharacter (character : Char) : Piece :=
  if isBreak character then .lineBreak character
  else if isBlank character then .blank character
  else .solid character

/-- What was read since the last solid piece. -/
inductive Gap where
  | blanks (text : List Char)
  /-- Line breaks, the first one apart; it is absent where an escape removed it. -/
  | broken (first : Option Char) (later : List Char)
deriving DecidableEq

namespace Gap

/-- What is left of a gap: one line break is a space, and of several the first one is lost. -/
def text : Gap → List Char
  | .blanks text => text
  | .broken none later => later
  | .broken (some first) later =>
    if first = '\n' then (if later.isEmpty then [' '] else later) else first :: later

/-- The gap with one more blank.  Blanks at a line break are lost. -/
def addBlank (character : Char) : Gap → Gap
  | .blanks text => .blanks (text ++ [character])
  | .broken first later => .broken first later

/-- The gap with one more line break. -/
def addBreak (character : Char) : Gap → Gap
  | .blanks _ => .broken (some character) []
  | .broken first later => .broken first (later ++ [character])

end Gap

/-- The text of some pieces that follow a gap. -/
def foldFrom (gap : Gap) : List Piece → List Char
  | [] => gap.text
  | .solid character :: rest => gap.text ++ character :: foldFrom (.blanks []) rest
  | .blank character :: rest => foldFrom (gap.addBlank character) rest
  | .lineBreak character :: rest => foldFrom (gap.addBreak character) rest
  | .joint :: rest => gap.text ++ foldFrom (.broken none []) rest

/-- The text of pieces with gaps between them. -/
def fold (pieces : List Piece) : String :=
  String.ofList (foldFrom (.blanks []) pieces)

/-! ## Quoted and plain scalars -/

/-- Put a piece in front of the ones that were read. -/
def Piece.before (piece : Piece) : List Piece × List Cell → List Piece × List Cell
  | (pieces, after) => (piece :: pieces, after)

/-- A piece in front of what was read does not change what is left. -/
theorem exists_of_map_before {piece : Piece} {read : Option (List Piece × List Cell)}
    {pieces : List Piece} {after : List Cell}
    (mapped : read.map piece.before = some (pieces, after)) :
    ∃ more, read = some (more, after) := by
  obtain ⟨⟨more, tail⟩, same, put⟩ := Option.map_eq_some_iff.1 mapped
  obtain ⟨-, rfl⟩ : piece :: more = pieces ∧ tail = after := Prod.mk.inj put
  exact ⟨more, same⟩

/-- The pieces of a scalar up to its closing single quote. -/
def singlePieces : List Cell → Option (List Piece × List Cell)
  | [] => none
  | cell :: rest =>
    if isDocumentMarker (cell :: rest) then
      none
    else if cell.character ≠ '\'' then
      (singlePieces rest).map (Piece.ofCharacter cell.character).before
    else
      match rest with
      | [] => some ([], [])
      | next :: after =>
        if next.character = '\'' then
          (singlePieces after).map (Piece.solid '\'').before
        else
          some ([], next :: after)

/-- A scalar in single quotes takes no cells that are not there. -/
theorem length_le_of_singlePieces {cells after : List Cell} {pieces : List Piece}
    (read : singlePieces cells = some (pieces, after)) : after.length ≤ cells.length := by
  fun_induction singlePieces cells generalizing pieces after with
  | case1 => simp at read
  | case2 => simp at read
  | case3 cell rest _ _ ih =>
    obtain ⟨more, inner⟩ := exists_of_map_before read
    exact Nat.le_succ_of_le (ih inner)
  | case4 =>
    obtain ⟨-, rfl⟩ := Prod.mk.inj (Option.some.inj read)
    exact Nat.zero_le _
  | case5 cell _ next rest _ _ ih =>
    obtain ⟨more, inner⟩ := exists_of_map_before read
    exact Nat.le_succ_of_le (Nat.le_succ_of_le (ih inner))
  | case6 =>
    obtain ⟨-, rfl⟩ := Prod.mk.inj (Option.some.inj read)
    exact Nat.le_succ _

/-- The character that a letter after a backslash stands for. -/
def unescape? : Char → Option Char
  | '0' => some '\x00'
  | 'a' => some '\x07'
  | 'b' => some '\x08'
  | 't' => some '\t'
  | '\t' => some '\t'
  | 'n' => some '\n'
  | 'v' => some '\x0b'
  | 'f' => some '\x0c'
  | 'r' => some '\r'
  | 'e' => some '\x1b'
  | ' ' => some ' '
  | '"' => some '"'
  | '/' => some '/'
  | '\\' => some '\\'
  | 'N' => some '\u0085'
  | '_' => some '\u00a0'
  | 'L' => some '\u2028'
  | 'P' => some '\u2029'
  | _ => none

/-- The number of hexadecimal digits after a letter that announces some. -/
def digitCount? : Char → Option Nat
  | 'x' => some 2
  | 'u' => some 4
  | 'U' => some 8
  | _ => none

/-- How far an escape has been read. -/
inductive Escape where
  | none
  | opened
  /-- So many digits are to come, and the ones before them have this value. -/
  | digits (left value : Nat)

/-- The pieces of a scalar up to its closing double quote. -/
def doublePieces (escape : Escape) : List Cell → Option (List Piece × List Cell)
  | [] => Option.none
  | cell :: rest =>
    match escape with
    | .none =>
      if isDocumentMarker (cell :: rest) then Option.none
      else if cell.character = '"' then some ([], rest)
      else if cell.character = '\\' then doublePieces .opened rest
      else (doublePieces .none rest).map (Piece.ofCharacter cell.character).before
    | .opened =>
      if isBreak cell.character then
        (doublePieces .none rest).map Piece.joint.before
      else
        match digitCount? cell.character with
        | some count => doublePieces (.digits count 0) rest
        | Option.none =>
          match unescape? cell.character with
          | some character => (doublePieces .none rest).map (Piece.solid character).before
          | Option.none => Option.none
    | .digits left value =>
      if StringLiteral.isHexDigit cell.character then
        let value := value * 16 + StringLiteral.hexDigit cell.character
        if 1 < left then doublePieces (.digits (left - 1) value) rest
        else if value.isValidChar then
          (doublePieces .none rest).map (Piece.solid (Char.ofNat value)).before
        else Option.none
      else Option.none

/-- A scalar in double quotes takes no cells that are not there. -/
theorem length_le_of_doublePieces {escape : Escape} {cells after : List Cell}
    {pieces : List Piece} (read : doublePieces escape cells = some (pieces, after)) :
    after.length ≤ cells.length := by
  fun_induction doublePieces escape cells generalizing pieces after with
  | case1 | case2 | case9 | case12 | case13 => simp at read
  | case3 =>
    obtain ⟨-, rfl⟩ := Prod.mk.inj (Option.some.inj read)
    exact Nat.le_succ _
  | case4 | case7 | case10 =>
    rename_i ih
    exact Nat.le_succ_of_le (ih read)
  | case5 | case6 | case8 | case11 =>
    rename_i ih
    obtain ⟨more, inner⟩ := exists_of_map_before read
    exact Nat.le_succ_of_le (ih inner)

/-- Commas and brackets end a plain scalar between brackets. -/
def isFlowIndicator (character : Char) : Bool :=
  character ∈ [',', '[', ']', '\x7b', '\x7d']

/-- Whether a colon that is followed by `rest` ends a plain scalar. -/
def endsAtColon (inFlow : Bool) (rest : List Cell) : Bool :=
  isGapNext rest ||
    (inFlow && rest.head?.any fun cell => isFlowIndicator cell.character || cell.character = '?')

/-- The characters of a plain scalar up to the next blank. -/
def plainWord (inFlow : Bool) : List Cell → List Char × List Cell
  | [] => ([], [])
  | cell :: rest =>
    if cell.isGap || (cell.character = ':' && endsAtColon inFlow rest) ||
        (inFlow && isFlowIndicator cell.character) then
      ([], cell :: rest)
    else
      let (word, after) := plainWord inFlow rest
      (cell.character :: word, after)

/-- A word and what follows it are as long as the whole. -/
theorem length_plainWord (inFlow : Bool) (cells : List Cell) :
    (plainWord inFlow cells).1.length + (plainWord inFlow cells).2.length = cells.length := by
  induction cells with
  | nil => rfl
  | cons cell rest ih =>
    simp only [plainWord]
    split
    · simp
    · simp only [List.length_cons]
      omega

/-- A word that is there takes something. -/
theorem length_plainWord_lt {inFlow : Bool} {cells : List Cell}
    (nonempty : (plainWord inFlow cells).1 ≠ []) :
    (plainWord inFlow cells).2.length < cells.length := by
  have whole := length_plainWord inFlow cells
  have positive := List.length_pos_iff.2 nonempty
  omega

/-- A colon that a bracket or a comma follows cannot stand in a plain scalar. -/
def isColonAtFlowIndicator : List Cell → Bool
  | colon :: rest => colon.character = ':' && !isGapNext rest
  | [] => false

/-- Whether a tab stands too far to the left, on a line that begins in a gap. -/
def hasTabBelow (margin : Nat) (gap : List Cell) : Bool :=
  (gap.dropWhile fun cell => !isBreak cell.character).any fun cell =>
    cell.character = '\t' && cell.place.column < margin

/-- Whether a plain scalar may go on after a gap. -/
def resumesPlain (inFlow : Bool) (margin : Nat) (next : List Cell) : Bool :=
  match next with
  | [] => false
  | cell :: _ =>
    cell.character ≠ '#' && !isDocumentMarker next && (inFlow || margin ≤ cell.place.column)

/-- What is read of a plain scalar. -/
structure PlainPart where
  pieces : List Piece
  /-- Whether a line ends in the gap behind the scalar. -/
  isBroken : Bool
  /-- The cells after that gap. -/
  rest : List Cell

/-- Read a plain scalar and the gap behind it.  On every line after the first one it has to stand
at the margin or to the right of it, unless it stands between brackets. -/
def plainPart (inFlow : Bool) (margin : Nat) (input : List Cell) : Option PlainPart :=
  let word := plainWord inFlow input
  if inFlow && isColonAtFlowIndicator word.2 then
    none
  else if nonempty : word.1 = [] then
    some ⟨[], false, input⟩
  else
    let gap := word.2.takeWhile Cell.isGap
    let next := word.2.dropWhile Cell.isGap
    if hasTabBelow margin gap then
      none
    else
      let last : PlainPart := ⟨word.1.map .solid, gap.any fun cell => isBreak cell.character, next⟩
      if !gap.isEmpty && resumesPlain inFlow margin next then
        have : next.length < input.length :=
          Nat.lt_of_le_of_lt (List.dropWhile_suffix _).length_le (length_plainWord_lt nonempty)
        match plainPart inFlow margin next with
        | none => none
        | some more =>
          if more.pieces.isEmpty then
            some last
          else
            some
              { more with
                pieces :=
                  word.1.map .solid ++ gap.map (Piece.ofCharacter ·.character) ++ more.pieces }
      else
        some last
termination_by input.length

/-- A plain scalar that is not empty leaves less to read. -/
theorem length_rest_plainPart_lt {inFlow : Bool} {margin : Nat} {input : List Cell}
    {part : PlainPart} (read : plainPart inFlow margin input = some part)
    (nonempty : part.pieces ≠ []) : part.rest.length < input.length := by
  fun_induction plainPart inFlow margin input generalizing part with
  | case1 | case3 | case4 => cases read
  | case2 =>
    cases read
    exact absurd rfl nonempty
  | case5 _ word _ filled | case7 _ word _ filled =>
    cases read
    exact Nat.lt_of_le_of_lt (List.dropWhile_suffix _).length_le (length_plainWord_lt filled)
  | case6 =>
    rename_i shorter more same resumed ih
    cases read
    have bound := ih same (mt List.isEmpty_iff.2 resumed)
    exact Nat.lt_trans bound shorter

/-- Whether a plain scalar can start here. -/
def startsPlain (inFlow : Bool) : List Cell → Bool
  | [] => false
  | cell :: rest =>
    if cell.character = '-' then !isGapNext rest
    else if cell.character = '?' || cell.character = ':' then !inFlow && !isGapNext rest
    else !cell.isGap && !isIndicator cell.character

end ScriptTree.Yaml
