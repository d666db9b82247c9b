import ScriptTree.Proofs.Node.Captions
import ScriptTree.Proofs.Node.Structure
import ScriptTree.Proofs.Snapshot.Erased

/-!
# What a snapshot tells

A snapshot flattens a tree into texts, but without ranges it still tells the
structure of the program, and nothing else.  Its texts say what each node is and
under which field it is stored; its attributes say whether a node is missing and how
many tokens it skips.  From these a node is read back.
-/

namespace ScriptTree

/-! ## Attributes -/

namespace NameMap

variable {α : Type}

/-- After an insertion the inserted name has the new value and every other name the value it had. -/
theorem find?_insertEntry (name : String) (value : α) (entries : List (String × α))
    (other : String) :
    ((insertEntry name value entries).find? (·.1 = other)).map (·.2) =
      if name = other then some value else (entries.find? (·.1 = other)).map (·.2) := by
  fun_induction insertEntry name value entries with
  | case1 | case2 | case3 => split <;> simp_all
  | case4 before kept rest _ different ih =>
    -- The entry in front has another name than the new one, so at most one of them is sought.
    by_cases here : before = other
    · have absent : ¬name = other := fun same => different (same.trans here.symm)
      simp [here, absent]
    · simpa [here] using ih

/-- The same of a map: an insertion changes what is found under its own name only. -/
@[simp]
theorem find?_insert (map : NameMap α) (name : String) (value : α) (other : String) :
    (map.insert name value).find? other = if name = other then some value else map.find? other :=
  find?_insertEntry name value map.entries other

/-- Nothing is found in the empty map. -/
@[simp]
theorem find?_empty (other : String) : (empty : NameMap α).find? other = none :=
  rfl

end NameMap

/-- Numbers are told by their digits. -/
theorem injective_toString : Function.Injective (toString : Nat → String) := by
  intro first second same
  rw [Nat.toString_eq_repr, Nat.toString_eq_repr, Nat.repr_eq_ofList_toDigits,
    Nat.repr_eq_ofList_toDigits, String.ofList_inj] at same
  have read := congrArg (fun digits => Nat.ofDigitChars 10 digits 0) same
  rwa [Nat.ofDigitChars_toDigits (by decide) (by decide),
    Nat.ofDigitChars_toDigits (by decide) (by decide)] at read

namespace Snapshot

/-- Without ranges the attribute `missing` stands exactly on the nodes that are missing. -/
theorem find?_missing_attributesOf (node : Node) :
    (attributesOf false node).find? "missing" = if node.isMissing then some "true" else none := by
  rw [attributesOf]
  cases node.isMissing <;> cases node.isError && !node.tokens.isEmpty <;>
    simp [NameMap.ofList]

/-- Without ranges the attribute `skipped` gives the number of skipped tokens, where there are
any. -/
theorem find?_skipped_attributesOf (node : Node) :
    (attributesOf false node).find? "skipped" =
      if node.skippedCount = 0 then none else some (toString node.skippedCount) := by
  rw [attributesOf, Node.skippedCount]
  cases node.isError <;> cases node.isMissing <;> cases node.tokens <;>
    simp [NameMap.ofList]

/-- Attributes tell a missing node from one that is not. -/
theorem isMissing_eq_of_attributesOf_eq {first second : Node}
    (same : attributesOf false first = attributesOf false second) :
    first.isMissing = second.isMissing := by
  have found := congrArg (fun attributes => attributes.find? "missing") same
  rw [find?_missing_attributesOf, find?_missing_attributesOf] at found
  cases missing : first.isMissing <;> cases other : second.isMissing <;>
    simp_all

/-- Attributes tell how many tokens a node skipped. -/
theorem skippedCount_eq_of_attributesOf_eq {first second : Node}
    (same : attributesOf false first = attributesOf false second) :
    first.skippedCount = second.skippedCount := by
  have found := congrArg (fun attributes => attributes.find? "skipped") same
  rw [find?_skipped_attributesOf, find?_skipped_attributesOf] at found
  split at found <;> split at found
  · simp_all
  · cases found
  · cases found
  · exact injective_toString (Option.some.inj found)

/-- A snapshot tells the field its node stands under. -/
theorem field_eq_of_ofNodeUnder_eq {field other : Field} {first second : Node}
    (same : ofNodeUnder false (some field) first = ofNodeUnder false (some other) second) :
    field = other := by
  cases first
  cases second
  rw [ofNodeUnder, ofNodeUnder, Snapshot.mk.injEq] at same
  exact Field.label_injective (Option.some.inj same.2.2.1)

mutual

/-- Nodes of one snapshot stand for one part. -/
theorem fragment_eq_of_ofNodeUnder_eq {field other : Option Field} : (first second : Node) →
    Node.Every (fun node => node.content.IsProper) [first] →
    Node.Every (fun node => node.content.IsProper) [second] →
    ofNodeUnder false field first = ofNodeUnder false other second →
    first.fragment = second.fragment
  | .mk content range tokens children, .mk content' range' tokens' children' => by
    intro proper alsoProper same
    rcases Node.every_singleton.mp proper with ⟨here, below⟩
    rcases Node.every_singleton.mp alsoProper with ⟨alsoHere, alsoBelow⟩
    rw [ofNodeUnder, ofNodeUnder, Snapshot.mk.injEq] at same
    rcases same with ⟨kinds, captions, -, attributes, forests⟩
    -- The caption alone does not tell the content: a name and a string may be captioned alike.
    have contents : content = content' :=
      Content.eq_of_caption_eq here alsoHere (NodeKind.label_injective kinds) captions
    rw [Node.fragment, Node.fragment, isMissing_eq_of_attributesOf_eq attributes,
      skippedCount_eq_of_attributesOf_eq attributes,
      forestFragments_eq_of_ofForest_eq children children' below alsoBelow forests, contents]

/-- Equal snapshots of two forests come from equal fragments, child by child. -/
theorem forestFragments_eq_of_ofForest_eq : (first second : List (Field × Node)) →
    Node.Every (fun node => node.content.IsProper) (first.map (·.2)) →
    Node.Every (fun node => node.content.IsProper) (second.map (·.2)) →
    ofForest false first = ofForest false second →
    Node.forestFragments first = Node.forestFragments second
  | [], [] => fun _ _ _ => rfl
  | [], _ :: _ | _ :: _, [] => fun _ _ => nofun
  | (field, child) :: rest, (other, child') :: rest' => by
    intro proper alsoProper same
    rcases Node.every_cons.mp proper with ⟨here, later⟩
    rcases Node.every_cons.mp alsoProper with ⟨alsoHere, alsoLater⟩
    rw [ofForest, ofForest, List.cons.injEq] at same
    rw [Node.forestFragments, Node.forestFragments, field_eq_of_ofNodeUnder_eq same.1,
      fragment_eq_of_ofNodeUnder_eq child child' here alsoHere same.1,
      forestFragments_eq_of_ofForest_eq rest rest' later alsoLater same.2]

end

end Snapshot

/-- Every node of a parsed tree has the content its kind asks for. -/
theorem every_isProper_root (source : String) (options : ParseOptions) :
    Node.Every (fun node => node.content.IsProper) [(parse source options).root] := by
  intro node member
  rw [List.flatMap_singleton] at member
  exact isProper_of_mem_descendants source options member

/-- Whatever the sources, their trees have the same snapshot without ranges exactly if their
programs have the same structure. -/
theorem ofNode_root_eq_iff_erased_eq (first second : String) (options others : ParseOptions) :
    Snapshot.ofNode false (parse first options).root =
        Snapshot.ofNode false (parse second others).root ↔
      (parse first options).program.erased = (parse second others).program.erased := by
  constructor
  · -- What a root is read back as is the structure of its program.
    intro same
    have fragments := Snapshot.fragment_eq_of_ofNodeUnder_eq _ _
      (every_isProper_root first options) (every_isProper_root second others) same
    rw [ParseResult.root, ParseResult.root, Program.fragment_toNode,
      Program.fragment_toNode] at fragments
    exact Fragment.program.inj fragments
  · -- Each snapshot is that of the structure, and there is one structure.
    intro same
    have shown := (parse first options).program.snapshot_erased default
    rw [same, (parse second others).program.snapshot_erased] at shown
    exact shown.symm

end ScriptTree
