import ScriptTree.Snapshot
import Mathlib.Data.List.Basic

/-!
# How deep a snapshot is

The formats nest a snapshot inside of the one above it, so how far a reader has to follow them comes
down to the number of snapshots on the longest way from the top.  In the snapshot of a program every
node has an attribute, its range.
-/

namespace ScriptTree

namespace NameMap

variable {α : Type}

/-- An entry whose name is above all the others goes to the end. -/
theorem insertEntry_of_forall_lt {name : String} {value : α} {entries : List (String × α)}
    (below : ∀ entry ∈ entries, entry.1 < name) :
    insertEntry name value entries = entries ++ [(name, value)] := by
  induction entries with
  | nil => rfl
  | cons entry rest ih =>
    rw [List.forall_mem_cons] at below
    have notAbove : ¬name < entry.1 := fun above =>
      String.lt_irrefl _ (String.lt_trans above below.1)
    have different : name ≠ entry.1 := fun same => String.lt_irrefl _ (same ▸ below.1)
    rw [insertEntry, if_neg notAbove, if_neg different, ih below.2, List.cons_append]

/-- Entries in the order of their names, inserted one after the other, stand as they came. -/
theorem foldl_insert_entries (rest : List (String × α)) (map : NameMap α)
    (increasing : (map.entries ++ rest).Pairwise fun first second => first.1 < second.1) :
    (rest.foldl (fun map entry => map.insert entry.1 entry.2) map).entries =
      map.entries ++ rest := by
  induction rest generalizing map with
  | nil => simp
  | cons entry rest ih =>
    have below : ∀ other ∈ map.entries, other.1 < entry.1 := fun other member =>
      (List.pairwise_append.mp increasing).2.2 other member entry List.mem_cons_self
    have inserted : (map.insert entry.1 entry.2).entries = map.entries ++ [entry] :=
      insertEntry_of_forall_lt below
    rw [List.foldl_cons, ih, inserted, List.append_assoc, List.singleton_append]
    rwa [inserted, List.append_assoc, List.singleton_append]

/-- A map is made again of its entries. -/
theorem ofList_entries (map : NameMap α) : ofList map.entries = map :=
  ext (foldl_insert_entries map.entries empty map.increasing)

/-- Inserting entries makes up none: each one was there before or is one of those inserted. -/
theorem mem_of_mem_foldl_insert {entry : String × α} {entries : List (String × α)} {map : NameMap α}
    (member : entry ∈ (entries.foldl (fun map entry => map.insert entry.1 entry.2) map).entries) :
    entry ∈ map.entries ∨ entry ∈ entries := by
  induction entries generalizing map with
  | nil => exact Or.inl member
  | cons first rest ih =>
    rcases ih member with kept | later
    · rcases mem_insertEntry kept with same | kept
      · exact Or.inr (same ▸ List.mem_cons_self)
      · exact Or.inl kept
    · exact Or.inr (List.mem_cons_of_mem _ later)

/-- A map made of a list holds entries of that list only. -/
theorem mem_of_mem_ofList {entry : String × α} {entries : List (String × α)}
    (member : entry ∈ (ofList entries).entries) : entry ∈ entries :=
  (mem_of_mem_foldl_insert member).resolve_left (by rintro ⟨⟩)

/-- A map into which something was inserted is not empty. -/
theorem isEmpty_insert (map : NameMap α) (name : String) (value : α) :
    (map.insert name value).isEmpty = false := by
  change (insertEntry name value map.entries).isEmpty = false
  fun_cases insertEntry name value map.entries <;> rfl

/-- The map without entries is the empty map. -/
theorem eq_empty_of_isEmpty {map : NameMap α} (nothing : map.isEmpty = true) :
    map = empty :=
  ext (List.isEmpty_iff.mp nothing)

end NameMap

namespace Snapshot

mutual

/-- The number of snapshots on the longest way from the top of one. -/
def levels : Snapshot → Nat
  | .mk _ _ _ _ children => 1 + listLevels children

/-- The most levels among some snapshots. -/
def listLevels : List Snapshot → Nat
  | [] => 0
  | child :: rest => max child.levels (listLevels rest)

end

mutual

/-- How deeply the collections that a snapshot is written as are nested: the one of its parts, and
in it the ones of its attributes and of its children. -/
def nesting : Snapshot → Nat
  | .mk _ _ _ attributes children =>
    1 + max (if attributes.isEmpty then 0 else 1)
      (if children.isEmpty then 0 else 1 + listNesting children)

/-- The deepest nesting among some snapshots. -/
def listNesting : List Snapshot → Nat
  | [] => 0
  | child :: rest => max child.nesting (listNesting rest)

end

/-- The range of a node is among its attributes. -/
theorem isEmpty_attributesOf (node : Node) : (attributesOf true node).isEmpty = false := by
  rw [attributesOf, if_pos rfl, NameMap.ofList, List.foldl_append]
  exact NameMap.isEmpty_insert ..

mutual

/-- A level of a program takes two collections. -/
theorem nesting_ofNodeUnder (field : Option Field) (node : Node) :
    (ofNodeUnder true field node).nesting = 2 * (ofNodeUnder true field node).levels := by
  match node with
  | .mk content range tokens children =>
    have ranged := isEmpty_attributesOf (.mk content range tokens children)
    have below := listNesting_ofForest children
    rw [ofNodeUnder, nesting, levels, ranged, below]
    cases children with
    | nil => rfl
    | cons child rest =>
      rw [ofForest, List.isEmpty_cons, if_neg Bool.false_ne_true, if_neg Bool.false_ne_true]
      omega

/-- What the children of a snapshot nest, as a format counts it, is twice their levels. -/
theorem listNesting_ofForest (children : List (Field × Node)) :
    listNesting (ofForest true children) = 2 * listLevels (ofForest true children) := by
  match children with
  | [] => rfl
  | (field, child) :: rest =>
    rw [ofForest, listNesting, nesting_ofNodeUnder, listLevels, listNesting_ofForest rest]
    omega

end

/-- Each level of a snapshot costs a format two levels of nesting: an object and an array. -/
theorem nesting_ofProgram (program : Program) :
    (ofProgram program).nesting = 2 * (ofProgram program).levels :=
  nesting_ofNodeUnder none program.toNode

end Snapshot

end ScriptTree
