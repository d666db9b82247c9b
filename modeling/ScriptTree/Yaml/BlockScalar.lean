import ScriptTree.Yaml
import ScriptTree.Yaml.Layout

/-!
# Literal and folded scalars

The mark of such a scalar stands at the end of a line, with a sign that says what
becomes of the line breaks at its end, and a digit that fixes its indentation;
both can be left out.  Its text is in the lines below.  A literal scalar keeps
its line breaks.  A folded one turns a single break between two lines that are
not indented any deeper into a blank.
-/

namespace ScriptTree.Yaml

/-- What becomes of the line breaks at the end of a literal or folded scalar. -/
inductive Chomping where
  | strip
  | clip
  | keep
deriving DecidableEq

/-- What a sign in a header says about the line breaks at the end. -/
def Chomping.ofSign? : Char → Option Chomping
  | '-' => some .strip
  | '+' => some .keep
  | _ => none

/-- What follows the mark of a literal or folded scalar. -/
structure BlockHeader where
  chomping : Chomping := .clip
  indentation : Option Nat := none

/-- Read signs and digits, each at most once. -/
def BlockHeader.read (header : BlockHeader) : List Cell → BlockHeader × List Cell
  | [] => (header, [])
  | cell :: rest =>
    match Chomping.ofSign? cell.character with
    | some chomping =>
      if header.chomping = .clip then
        BlockHeader.read { header with chomping } rest
      else
        (header, cell :: rest)
    | none =>
      if cell.character.isDigit && cell.character ≠ '0' && header.indentation.isNone then
        BlockHeader.read
          { header with indentation := some (cell.character.toNat - '0'.toNat) } rest
      else
        (header, cell :: rest)

theorem BlockHeader.length_read_le (header : BlockHeader) (cells : List Cell) :
    (header.read cells).2.length ≤ cells.length := by
  fun_induction BlockHeader.read header cells with
  | case1 | case3 | case5 => exact Nat.le_refl _
  | case2 | case4 =>
    rename_i ih
    exact Nat.le_succ_of_le ih

/-- The deepest indentation of the lines up to the first one that is not blank, in front of which
no tab may stand. -/
def deepestIndentation (deepest : Nat) : List Cell → Option Nat
  | [] => some deepest
  | cell :: rest =>
    if cell.character = ' ' then deepestIndentation (max deepest (cell.place.column + 1)) rest
    else if isBreak cell.character then deepestIndentation deepest rest
    else if cell.character = '\t' then none
    else some deepest

/-- A line below the mark of a scalar, without its indentation. -/
inductive BlockLine where
  | empty (lineBreak : Char)
  | filled (text : List Char) (lineBreak : Option Char)

/-- The lines that are indented by `indent` blanks, and the cells after them; `opened` is the part
of a line read so far.  No tab may stand in the indentation. -/
def blockLines (indent : Nat) (opened : Option (List Char)) :
    List Cell → Option (List BlockLine × List Cell)
  | [] =>
    match opened with
    | none => some ([], [])
    | some text => some ([.filled text none], [])
  | cell :: rest =>
    match opened with
    | some text =>
      if isBreak cell.character then
        (blockLines indent none rest).map fun (lines, after) =>
          (.filled text (some cell.character) :: lines, after)
      else
        blockLines indent (some (text ++ [cell.character])) rest
    | none =>
      if isBreak cell.character then
        (blockLines indent none rest).map fun (lines, after) =>
          (.empty cell.character :: lines, after)
      else if indent ≤ cell.place.column then
        blockLines indent (some [cell.character]) rest
      else if cell.character = ' ' then
        blockLines indent none rest
      else if cell.character = '\t' then
        none
      else
        some ([], cell :: rest)

/-- The lines of a block scalar take no cells that are not there. -/
theorem length_le_of_blockLines {indent : Nat} {opened : Option (List Char)}
    {cells after : List Cell} {lines : List BlockLine}
    (read : blockLines indent opened cells = some (lines, after)) :
    after.length ≤ cells.length := by
  fun_induction blockLines indent opened cells generalizing lines after with
  | case1 | case2 =>
    cases read
    exact Nat.le_refl _
  | case3 | case5 =>
    rename_i ih
    obtain ⟨⟨more, tail⟩, inner, put⟩ := Option.map_eq_some_iff.1 read
    obtain ⟨-, rfl⟩ := Prod.mk.inj put
    exact Nat.le_succ_of_le (ih inner)
  | case4 | case6 | case7 =>
    rename_i ih
    exact Nat.le_succ_of_le (ih read)
  | case8 => cases read
  | case9 =>
    cases read
    exact Nat.le_refl _

/-- Whether a line begins with a blank. -/
def startsBlank : List Char → Bool
  | [] => false
  | character :: _ => isBlank character

/-- The text of some lines.  `pending` is the break at the end of the last filled line, which was
indented deeper than the scalar if `deeper` holds, and `empties` are the breaks after it. -/
def blockText (isFolded : Bool) (chomping : Chomping) (pending : Option Char)
    (empties : List Char) (deeper : Bool) : List BlockLine → List Char
  | [] =>
    match chomping with
    | .strip => []
    | .clip => pending.toList
    | .keep => pending.toList ++ empties
  | .empty lineBreak :: rest =>
    blockText isFolded chomping pending (empties ++ [lineBreak]) deeper rest
  | .filled text lineBreak :: rest =>
    let joined :=
      if isFolded && pending = some '\n' && !deeper && !startsBlank text then
        if empties.isEmpty then [' '] else []
      else
        pending.toList
    joined ++ empties ++ text ++
      blockText isFolded chomping lineBreak [] (startsBlank text) rest

/-- The column in which the text of the lines stands. -/
def BlockHeader.column? (header : BlockHeader) (margin : Nat) (lines : List Cell) : Option Nat :=
  match header.indentation with
  | some extra => some (margin - 1 + extra)
  | none => (deepestIndentation 0 lines).map fun deepest => max deepest (max margin 1)

/-- A literal or folded scalar after its mark, as part of a collection whose own parts stand left
of the margin. -/
def blockScalar? (isFolded : Bool) (margin : Nat) (cells : List Cell) :
    Option (String × List Cell) := do
  let header := BlockHeader.read {} cells
  let lines ← lineEnd? header.2
  let column ← header.1.column? margin lines
  let read ← blockLines column none lines
  return (String.ofList (blockText isFolded header.1.chomping none [] false read.1), read.2)

/-- A block scalar takes no cells that are not there. -/
theorem length_le_of_blockScalar? {isFolded : Bool} {margin : Nat} {cells after : List Cell}
    {text : String} (read : blockScalar? isFolded margin cells = some (text, after)) :
    after.length ≤ cells.length := by
  simp only [blockScalar?, Option.bind_eq_bind, Option.bind_eq_some_iff] at read
  obtain ⟨lines, ended, column, -, ⟨inner, tail⟩, filled, put⟩ := read
  obtain ⟨-, rfl⟩ := Prod.mk.inj (Option.some.inj put)
  exact Nat.le_trans (length_le_of_blockLines filled)
    (Nat.le_trans (length_le_of_lineEnd? ended) (BlockHeader.length_read_le {} cells))

end ScriptTree.Yaml
