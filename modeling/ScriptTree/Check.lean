/-!
# Checks

A check says what a part of a program has to be like.  It is given the path of
the part, such as `declarations[0].body`, and either holds or fails with a text
that names the path.  Checks of parts make up checks of the whole; of several
checks the first one to fail gives the text.
-/

namespace ScriptTree

/-- A check of a value found at some path in a tree.  It fails with a message that begins with the
path. -/
abbrev Check (α : Type) := (path : String) → α → Except String Unit

namespace Check

/-- Fail with a text unless something holds. -/
def require (holds : Bool) (failure : String) : Except String Unit :=
  if holds then .ok () else .error failure

/-- Every one of some checks, in order. -/
def every {α : Type} (checks : List (Check α)) : Check α := fun path part =>
  checks.forM fun check => check path part

/-- A check of something that belongs to the part, under a longer path. -/
def inside {α β : Type} (suffix : String) (project : α → β) (check : Check β) : Check α :=
  fun path part => check (path ++ suffix) (project part)

/-- A check of something that may be absent, which fails where it is. -/
def present {α β : Type} (suffix absence : String) (project : α → Option β)
    (check : Check β) : Check α := fun path part =>
  match project part with
  | some value => check (path ++ suffix) value
  | none => .error s!"{path}: {absence}"

/-- A check of an item of a list; `name` is what the items are called, and `plural` is the step
of the path that leads to them. -/
def item {α β : Type} (name plural : String) (items : α → List β) (index : Nat)
    (check : Check β) : Check α := fun path part =>
  match (items part)[index]? with
  | some value => check s!"{path}.{plural}[{index}]" value
  | none =>
    .error s!"{path}: {name} index {index} out of bounds ({path} has {(items part).length})"

/-- How many items a list has. -/
def count {α β : Type} (plural : String) (items : α → List β) (expected : Nat) : Check α :=
  fun path part =>
    let actual := (items part).length
    require (actual = expected) s!"{path}: Expected {expected} {plural}, found {actual}"

/-- A check of what the part is if it is of one kind; `found` names the kind it has. -/
def ofKind {α β : Type} (expected : String) (found : α → String) (view : α → Option β)
    (check : Check β) : Check α := fun path part =>
  match view part with
  | some value => check path value
  | none => .error s!"{path}: Expected {expected}, found {found part}"

end Check

/-!
## Checks of texts
-/

/-- How a text is compared with another one. -/
inductive TextMatch where
  | exact (expected : String)
  | startsWith (expected : String)
  | contains (expected : String)
  /-- Equal but for the case of ASCII letters, the way names are compared. -/
  | ignoringCase (expected : String)
deriving DecidableEq

namespace TextMatch

/-- Whether one text occurs in another. -/
def occursIn (pattern : List Char) : List Char → Bool
  | [] => pattern.isEmpty
  | character :: rest =>
    pattern.isPrefixOf (character :: rest) || occursIn pattern rest

/-- Whether a text is as the comparison demands. -/
def holds (actual : String) : TextMatch → Bool
  | .exact expected => actual = expected
  | .startsWith expected => expected.toList.isPrefixOf actual.toList
  | .contains expected => occursIn expected.toList actual.toList
  | .ignoringCase expected =>
    actual.toList.map Char.toLower = expected.toList.map Char.toLower

/-- What is expected of the text. -/
def describe : TextMatch → String
  | .exact expected => s!"to be '{expected}'"
  | .startsWith expected => s!"to start with '{expected}'"
  | .contains expected => s!"to contain '{expected}'"
  | .ignoringCase expected => s!"to equal '{expected}' ignoring case"

/-- Fails unless a text is as the comparison demands, and quotes the text then. -/
def check (comparison : TextMatch) : Check String := fun path actual =>
  Check.require (comparison.holds actual)
    s!"{path}: Expected text {comparison.describe}, but got '{actual}'"

end TextMatch

namespace Check

/-- A text that has to be equal to another one. -/
def text (expected : String) : Check String :=
  (TextMatch.exact expected).check

end Check

end ScriptTree
