import ScriptTree.Text.Range
import ScriptTree.Text.Read
import ScriptTree.Yaml.Printer

/-!
# Text laid out in lines

What a character means depends on the column it stands in and on whether its
line is the line of another character.  So the text is read as a list of cells,
each a character with its place.
-/

namespace ScriptTree.Yaml

/-- A character with the place it was found at. -/
structure Cell where
  /-- The line and the column; the column counts characters. -/
  place : Position
  /-- The number of bytes in front of the character. -/
  offset : Nat
  character : Char
deriving DecidableEq

/-- Characters that a text may hold. -/
def isReadable (character : Char) : Bool :=
  isPrintable character || character ∈ ['\t', '\n', '\r', '\u0085', '\ufeff']

/-- Replace carriage returns and next-line controls by line feeds. -/
def unifyBreaks : List Char → List Char
  | [] => []
  | '\r' :: '\n' :: rest => '\n' :: unifyBreaks rest
  | character :: rest =>
    (if character = '\r' || character = '\u0085' then '\n' else character) :: unifyBreaks rest

/-- The place after a character. -/
def nextPlace (place : Position) (character : Char) : Position :=
  if isBreak character then ⟨place.line + 1, 0⟩ else ⟨place.line, place.column + 1⟩

/-- The cells of a text that starts at a place and an offset. -/
def layOut (place : Position) (offset : Nat) : List Char → List Cell
  | [] => []
  | character :: rest =>
    ⟨place, offset, character⟩ ::
      layOut (nextPlace place character) (offset + character.utf8Size) rest

/-- Whether a character is a blank or ends a line. -/
def Cell.isGap (cell : Cell) : Bool :=
  isBlank cell.character || isBreak cell.character

/-- Whether a blank, a line break or the end comes next. -/
def isGapNext : List Cell → Bool
  | [] => true
  | cell :: _ => cell.isGap

/-- Skip blanks on one line. -/
def skipBlanks (cells : List Cell) : List Cell :=
  cells.dropWhile fun cell => isBlank cell.character

theorem length_skipBlanks_le (cells : List Cell) :
    (skipBlanks cells).length ≤ cells.length :=
  (List.dropWhile_suffix _).length_le

/-- Skip what may stand between two tokens: blanks, line breaks, comments, and a byte order mark
at the start of a line.  Outside of brackets a line break makes room for a name, and where a name
has room a tab is no blank.  The result says whether a name has room. -/
def skipGap (inFlow admitsName comment : Bool) : List Cell → Bool × List Cell
  | [] => (admitsName, [])
  | cell :: rest =>
    if isBreak cell.character then skipGap inFlow (admitsName || !inFlow) false rest
    else if comment || cell.character = '#' then skipGap inFlow admitsName true rest
    else if cell.character = ' ' || (cell.character = '\t' && (inFlow || !admitsName)) then
      skipGap inFlow admitsName false rest
    else if cell.character = '\ufeff' && cell.place.column = 0 then
      skipGap inFlow admitsName false rest
    else (admitsName, cell :: rest)

theorem length_skipGap_le (inFlow admitsName comment : Bool) (cells : List Cell) :
    (skipGap inFlow admitsName comment cells).2.length ≤ cells.length := by
  fun_induction skipGap inFlow admitsName comment cells with
  | case1 => exact Nat.le_refl _
  | case6 => exact Nat.le_refl _
  | case2 | case3 | case4 | case5 =>
    rename_i ih
    exact Nat.le_succ_of_le ih

/-- The cells after the line break at the end of a line, on which only blanks and a comment are
left. -/
def lineEnd? : List Cell → Option (List Cell)
  | [] => some []
  | cell :: rest =>
    if isBreak cell.character then some rest
    else if isBlank cell.character then lineEnd? rest
    else if cell.character = '#' then
      some ((rest.dropWhile fun other => !isBreak other.character).drop 1)
    else none

theorem length_le_of_lineEnd? {cells after : List Cell} (read : lineEnd? cells = some after) :
    after.length ≤ cells.length := by
  fun_induction lineEnd? cells with
  | case1 =>
    cases read
    exact Nat.le_refl _
  | case2 =>
    cases read
    exact Nat.le_succ _
  | case3 =>
    rename_i ih
    exact Nat.le_succ_of_le (ih read)
  | case4 _ rest =>
    cases read
    exact Nat.le_succ_of_le
      (Nat.le_trans (List.drop_suffix _ _).length_le (List.dropWhile_suffix _).length_le)
  | case5 => cases read

/-- Whether three of one character stand at the start of a line and nothing follows them. -/
def isMarker (character : Char) : List Cell → Bool
  | first :: second :: third :: rest =>
    first.place.column = 0 && first.character = character && second.character = character &&
      third.character = character && isGapNext rest
  | _ => false

/-- The start and the end of a document are marked in the first column. -/
def isDocumentMarker (cells : List Cell) : Bool :=
  isMarker '-' cells || isMarker '.' cells

end ScriptTree.Yaml
