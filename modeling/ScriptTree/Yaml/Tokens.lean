import ScriptTree.Yaml.BlockScalar
import ScriptTree.Yaml.Outline
import ScriptTree.Yaml.Property
import ScriptTree.Yaml.ScalarReader

/-!
# Cutting a text into tokens

The first character of a token says what it is.  Some characters are marks only
where a gap follows them, and some only outside of brackets or only inside.
-/

namespace ScriptTree.Yaml

/-- A mark of three equal characters. -/
def boundaryToken (cell : Cell) : Token :=
  if cell.character = '-' then .documentStart else .documentEnd

/-- A plain scalar.  A name may start after it if a line ends behind it. -/
def readPlain (outline : Outline) (cell : Cell) (rest : List Cell) :
    Option (Read (cell :: rest) Outline) :=
  if startsPlain outline.inFlow (cell :: rest) then
    match same : plainPart outline.inFlow outline.margin (cell :: rest) with
    | none => none
    | some part =>
      if empty : part.pieces = [] then
        none
      else
        (outline.part (.scalar .plain (fold part.pieces)) cell).map fun outline =>
          ⟨outline.admitting part.isBroken, part.rest, length_rest_plainPart_lt same empty⟩
  else
    none

/-- Read the token that starts with a cell. -/
def readToken (outline : Outline) (cell : Cell) (rest : List Cell) :
    Option (Read (cell :: rest) Outline) :=
  let single : Option Outline → Option (Read (cell :: rest) Outline) := fun next =>
    next.map fun next => .after next rest (Nat.le_refl _)
  let isMark := outline.inFlow || isGapNext rest
  if cell.place.column = 0 && cell.character = '%' then
    match same : directive? rest with
    | none => none
    | some (token, left) =>
      (outline.boundary token).map fun next => .after next left (length_le_of_directive? same)
  else if isDocumentMarker (cell :: rest) then
    (outline.boundary (boundaryToken cell)).map fun next =>
      .after next (rest.drop 2) (List.drop_suffix _ _).length_le
  else if cell.character = '[' then single (outline.openFlow .openBracket cell)
  else if cell.character = '\x7b' then single (outline.openFlow .openBrace cell)
  else if cell.character = ']' then single (outline.closeFlow .closeBracket)
  else if cell.character = '\x7d' then single (outline.closeFlow .closeBrace)
  else if cell.character = ',' then single outline.comma
  else if cell.character = '-' && isGapNext rest then single (outline.dash cell)
  else if cell.character = '?' && isMark then single (outline.key cell)
  else if cell.character = ':' && isMark then single (outline.value cell)
  else if cell.character = '*' then
    match same : label? rest with
    | none => none
    | some (name, left) =>
      (outline.reference name cell).map fun next =>
        .after next left (length_le_of_label? same)
  else if cell.character = '&' then
    match same : label? rest with
    | none => none
    | some (name, left) =>
      (outline.anchor name cell).map fun next => .after next left (length_le_of_label? same)
  else if cell.character = '!' then
    match same : tag? outline.inFlow rest with
    | none => none
    | some (token, left) =>
      (outline.part token cell).map fun next => .after next left (length_le_of_tag? same)
  else if (cell.character = '|' || cell.character = '>') && !outline.inFlow then
    match same : blockScalar? (cell.character = '>') outline.margin rest with
    | none => none
    | some (text, left) =>
      let style := if cell.character = '>' then Style.folded else Style.literal
      (outline.blockScalar (.scalar style text)).map fun next =>
        .after next left (length_le_of_blockScalar? same)
  else if cell.character = '\'' then
    match same : singlePieces rest with
    | none => none
    | some (pieces, left) =>
      (outline.part (.scalar .singleQuoted (fold pieces)) cell).map fun next =>
        .after next left (length_le_of_singlePieces same)
  else if cell.character = '"' then
    match same : doublePieces .none rest with
    | none => none
    | some (pieces, left) =>
      (outline.part (.scalar .doubleQuoted (fold pieces)) cell).map fun next =>
        .after next left (length_le_of_doublePieces same)
  else
    readPlain outline cell rest

/-- Read tokens up to the end of the text. -/
def tokensFrom (outline : Outline) (cells : List Cell) : Option (List Token) :=
  match same : skipGap outline.inFlow outline.admitsName false cells with
  | (_, []) => outline.finish
  | (admitsName, cell :: rest) =>
    match (outline.admitting admitsName).expire cell with
    | none => none
    | some current =>
      match readToken (current.close (cell.place.column < ·)) cell rest with
      | none => none
      | some ⟨next, left, shorter⟩ =>
        have : left.length < cells.length := by
          have bound := length_skipGap_le outline.inFlow outline.admitsName false cells
          rw [same] at bound
          exact Nat.lt_of_lt_of_le shorter bound
        tokensFrom next left
termination_by cells.length

/-- The tokens of a text. -/
def tokens? (text : String) : Option (List Token) :=
  if text.toList.all isReadable then
    tokensFrom {} (layOut ⟨0, 0⟩ 0 (unifyBreaks text.toList))
  else
    none

end ScriptTree.Yaml
