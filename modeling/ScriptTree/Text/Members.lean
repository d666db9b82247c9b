/-!
# Members by name

Records are read from lists of named values.  A member may be absent, and it may
not be there twice.
-/

namespace ScriptTree

/-- The value of a member, absent where no member has the name; two members are an error. -/
def memberOf? {α : Type} (name : String) (members : List (String × α)) : Option (Option α) :=
  match members.filter (·.1 = name) with
  | [] => some none
  | [(_, value)] => some (some value)
  | _ => none

/-- Decode a value that may be absent. -/
def decodeOr {m : Type → Type} [Pure m] {α β : Type} (default : β) (decode : α → m β) :
    Option α → m β
  | none => pure default
  | some value => decode value

/-- Decode a value that may not be absent. -/
def decodeRequired {m : Type → Type} [Alternative m] {α β : Type} (decode : α → m β) :
    Option α → m β
  | none => failure
  | some value => decode value

end ScriptTree
