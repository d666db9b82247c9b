import ScriptTree.Yaml.Layout
import ScriptTree.Yaml

/-!
# The outline of a text

Where a token stands decides which collections it ends and starts.  The outline
knows the columns of the collections in block form that are open, and the brackets
that are.  A token in a column to the left of an open collection ends it, and a
dash or a name to the right of all of them starts one.

Whether a token is a name shows at the colon after it.  So the outline keeps the
place of the last token that can be one, for the block and for every open bracket.
A name stands on one line and is not longer than 1024 bytes.  Where the column
of a token is that of the open mapping, the token has to be a name.
-/

namespace ScriptTree.Yaml

/-- A token that is the start of a name if a colon follows. -/
structure Candidate where
  /-- Its first character. -/
  first : Cell
  /-- The number of tokens in front of it. -/
  index : Nat
  /-- Whether it cannot be anything else. -/
  isRequired : Bool
deriving DecidableEq

namespace Candidate

/-- Whether a colon in a cell or after it comes too late. -/
def isStale (cell : Cell) (candidate : Candidate) : Bool :=
  candidate.first.place.line < cell.place.line || candidate.first.offset + 1024 < cell.offset

/-- Give up a candidate, which is an error where it is required. -/
def drop : Option Candidate → Option (Option Candidate)
  | none => some none
  | some candidate => if candidate.isRequired then none else some none

/-- Give up a candidate if it is stale. -/
def refresh (cell : Cell) : Option Candidate → Option (Option Candidate)
  | none => some none
  | some candidate =>
    if candidate.isStale cell then drop (some candidate) else some (some candidate)

end Candidate

/-- What is known of a document from the tokens so far. -/
structure Outline where
  /-- The columns of the open collections in block form, the innermost first. -/
  columns : List Nat := []
  /-- The candidate for a name in the innermost bracket, or in the block. -/
  candidate : Option Candidate := none
  /-- The candidates around the open brackets, the innermost first. -/
  enclosing : List (Option Candidate) := []
  /-- Whether a name may start at the next token. -/
  admitsName : Bool := true
  /-- The names of anchors with their numbers. -/
  labels : List (List Char × Nat) := []
  /-- The tokens so far, the last one first. -/
  tokens : List Token := []
  /-- The number of the tokens so far. -/
  count : Nat := 0

namespace Outline

/-- Whether a bracket is open. -/
def inFlow (outline : Outline) : Bool :=
  !outline.enclosing.isEmpty

/-- The first column to the right of the innermost open collection. -/
def margin (outline : Outline) : Nat :=
  match outline.columns with
  | [] => 0
  | column :: _ => column + 1

/-- Adds a token. -/
def emit (token : Token) (outline : Outline) : Outline :=
  { outline with tokens := token :: outline.tokens, count := outline.count + 1 }

/-- Put tokens in front of the ones from `index` on. -/
def insertAt (index : Nat) (inserted : List Token) (outline : Outline) : Outline :=
  { outline with
    tokens :=
      outline.tokens.take (outline.count - index) ++
        (inserted.reverse ++ outline.tokens.drop (outline.count - index))
    count := outline.count + inserted.length }

/-- Say whether a name may start at the next token. -/
def admitting (admitsName : Bool) (outline : Outline) : Outline :=
  { outline with admitsName }

/-- Give up the candidate for a name. -/
def forget (outline : Outline) : Option Outline :=
  (Candidate.drop outline.candidate).map fun candidate => { outline with candidate }

/-- Take the token that starts with a cell for a candidate, where a name may start. -/
def propose (cell : Cell) (outline : Outline) : Option Outline :=
  if outline.admitsName then
    outline.forget.map fun outline =>
      { outline with
        candidate :=
          some
            ⟨cell, outline.count,
              !outline.inFlow && outline.columns.head? = some cell.place.column⟩ }
  else
    some outline

/-- Give up the candidates that are stale in a cell. -/
def expire (cell : Cell) (outline : Outline) : Option Outline := do
  let candidate ← Candidate.refresh cell outline.candidate
  let enclosing ← outline.enclosing.mapM (Candidate.refresh cell)
  return { outline with candidate, enclosing }

/-- End the collections in block form of which the column meets a condition. -/
def close (ends : Nat → Bool) (outline : Outline) : Outline :=
  if outline.inFlow then
    outline
  else
    let ended := (outline.columns.takeWhile ends).length
    { outline with
      columns := outline.columns.drop ended
      tokens := List.replicate ended .blockEnd ++ outline.tokens
      count := outline.count + ended }

/-- Whether a collection in block form starts in a column. -/
def startsAt (column : Nat) (outline : Outline) : Bool :=
  !outline.inFlow && outline.margin ≤ column

/-- Start a collection in block form, unless one is open in the column. -/
def start (token : Token) (column : Nat) (outline : Outline) : Outline :=
  if outline.startsAt column then
    { outline.emit token with columns := column :: outline.columns }
  else
    outline

/-- The dash of an item. -/
def dash (cell : Cell) (outline : Outline) : Option Outline :=
  if outline.inFlow || outline.admitsName then
    (outline.start .sequenceStart cell.place.column).forget.map fun outline =>
      (outline.admitting true).emit .dash
  else
    none

/-- The mark of a name. -/
def key (cell : Cell) (outline : Outline) : Option Outline :=
  if outline.inFlow || outline.admitsName then
    (outline.start .mappingStart cell.place.column).forget.map fun outline =>
      (outline.admitting !outline.inFlow).emit .key
  else
    none

/-- The colon after a name. -/
def value (cell : Cell) (outline : Outline) : Option Outline :=
  match outline.candidate with
  | some candidate =>
    let column := candidate.first.place.column
    let named : Outline :=
      if outline.startsAt column then
        { outline.insertAt candidate.index [.mappingStart, .key] with
          columns := column :: outline.columns }
      else
        outline.insertAt candidate.index [.key]
    some (({ named with candidate := none }.admitting false).emit .value)
  | none =>
    if outline.inFlow then
      some ((outline.admitting false).emit .value)
    else if outline.admitsName then
      some (((outline.start .mappingStart cell.place.column).admitting true).emit .value)
    else
      none

/-- An opening bracket. -/
def openFlow (token : Token) (cell : Cell) (outline : Outline) : Option Outline :=
  (outline.propose cell).map fun outline =>
    { outline with
      candidate := none
      enclosing := outline.candidate :: outline.enclosing
      admitsName := true }.emit token

/-- A closing bracket. -/
def closeFlow (token : Token) (outline : Outline) : Option Outline :=
  outline.forget.map fun outline =>
    { outline with
      candidate := outline.enclosing.head?.getD none
      enclosing := outline.enclosing.tail
      admitsName := false }.emit token

/-- A comma. -/
def comma (outline : Outline) : Option Outline :=
  outline.forget.map fun outline => (outline.admitting true).emit .comma

/-- A token that can be a name, or the start of one. -/
def part (token : Token) (cell : Cell) (outline : Outline) : Option Outline :=
  (outline.propose cell).map fun outline => (outline.admitting false).emit token

/-- A literal or folded scalar, which is no name. -/
def blockScalar (token : Token) (outline : Outline) : Option Outline :=
  outline.forget.map fun outline => (outline.admitting true).emit token

/-- A token that stands between documents. -/
def boundary (token : Token) (outline : Outline) : Option Outline :=
  (outline.close fun _ => true).forget.map fun outline => (outline.admitting false).emit token

/-- An anchor.  Its number is the number of the names that anchors had before it. -/
def anchor (name : List Char) (cell : Cell) (outline : Outline) : Option Outline :=
  let number := outline.labels.length
  let others := outline.labels.filter (·.1 ≠ name)
  ({ outline with labels := (name, number) :: others }).part (.anchor number) cell

/-- A reference to the last anchor with a name. -/
def reference (name : List Char) (cell : Cell) (outline : Outline) : Option Outline :=
  (outline.labels.lookup name).bind fun number => outline.part (.reference number) cell

/-- The tokens of a text at its end. -/
def finish (outline : Outline) : Option (List Token) :=
  (outline.close fun _ => true).forget.map fun outline => outline.tokens.reverse

end Outline

end ScriptTree.Yaml
