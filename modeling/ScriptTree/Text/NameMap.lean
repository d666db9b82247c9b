/-!
# Maps from names

A finite map from names to values.  The entries are kept in increasing order of
their names, so two maps are equal exactly when they hold the same entries.
-/

namespace ScriptTree

/-- A map from names, ordered by name. -/
structure NameMap (α : Type) where
  entries : List (String × α)
  increasing : entries.Pairwise fun first second => first.1 < second.1

namespace NameMap

variable {α : Type}

/-- Two maps with the same entries are equal. -/
theorem ext {first second : NameMap α} (same : first.entries = second.entries) :
    first = second := by
  cases first
  cases second
  cases same
  rfl

instance [DecidableEq α] : DecidableEq (NameMap α) := fun first second =>
  if same : first.entries = second.entries then
    .isTrue (ext same)
  else
    .isFalse fun equal => same (congrArg entries equal)

/-- The map of no names. -/
def empty : NameMap α :=
  ⟨[], .nil⟩

/-- Whether a map has no names. -/
def isEmpty (map : NameMap α) : Bool :=
  map.entries.isEmpty

/-- The names of a map, in order. -/
def names (map : NameMap α) : List String :=
  map.entries.map (·.1)

/-- What a map holds under a name. -/
def find? (map : NameMap α) (name : String) : Option α :=
  (map.entries.find? (·.1 = name)).map (·.2)

/-- Put an entry at its place; an entry of the same name gives way. -/
def insertEntry (name : String) (value : α) : List (String × α) → List (String × α)
  | [] => [(name, value)]
  | (other, kept) :: rest =>
    if name < other then (name, value) :: (other, kept) :: rest
    else if name = other then (name, value) :: rest
    else (other, kept) :: insertEntry name value rest

/-- An entry after an insertion is the new one or an old one. -/
theorem mem_insertEntry {name : String} {value : α} {entries : List (String × α)}
    {entry : String × α} (member : entry ∈ insertEntry name value entries) :
    entry = (name, value) ∨ entry ∈ entries := by
  fun_induction insertEntry name value entries with
  | case1 => exact Or.inl (List.mem_singleton.1 member)
  | case2 other kept rest _ => exact List.mem_cons.1 member
  | case3 kept rest _ =>
    rcases List.mem_cons.1 member with same | later
    · exact Or.inl same
    · exact Or.inr (List.mem_cons_of_mem _ later)
  | case4 other kept rest _ _ ih =>
    rcases List.mem_cons.1 member with rfl | later
    · exact Or.inr List.mem_cons_self
    · rcases ih later with same | present
      · exact Or.inl same
      · exact Or.inr (List.mem_cons_of_mem _ present)

/-- Names are ordered totally. -/
theorem lt_of_not_lt_of_ne {first second : String} (notBelow : ¬first < second)
    (different : first ≠ second) : second < first := by
  have below := String.not_lt.1 notBelow
  exact String.not_le.1 fun above => different (String.le_antisymm above below)

/-- An insertion keeps the order of the names. -/
theorem insertEntry_increasing {name : String} {value : α} {entries : List (String × α)}
    (increasing : entries.Pairwise fun first second => first.1 < second.1) :
    (insertEntry name value entries).Pairwise fun first second => first.1 < second.1 := by
  fun_induction insertEntry name value entries with
  | case1 => exact List.pairwise_singleton _ _
  | case2 other kept rest below =>
    refine List.pairwise_cons.2 ⟨?_, increasing⟩
    intro entry member
    rcases List.mem_cons.1 member with rfl | later
    · exact below
    · exact String.lt_trans below ((List.pairwise_cons.1 increasing).1 entry later)
  | case3 kept rest _ => exact List.pairwise_cons.2 (List.pairwise_cons.1 increasing)
  | case4 other kept rest notBelow different ih =>
    obtain ⟨below, ordered⟩ := List.pairwise_cons.1 increasing
    refine List.pairwise_cons.2 ⟨?_, ih ordered⟩
    intro entry member
    rcases mem_insertEntry member with rfl | present
    · exact lt_of_not_lt_of_ne notBelow different
    · exact below entry present

/-- The map with a value under a name, instead of the one that may be there. -/
def insert (map : NameMap α) (name : String) (value : α) : NameMap α :=
  ⟨insertEntry name value map.entries, insertEntry_increasing map.increasing⟩

/-- The map of some entries; of two entries with one name the later one counts. -/
def ofList (entries : List (String × α)) : NameMap α :=
  entries.foldl (fun map entry => map.insert entry.1 entry.2) empty

end NameMap

end ScriptTree
