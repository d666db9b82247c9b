import Mathlib.Data.List.Infix
import Mathlib.Data.List.Lex
import ScriptTree.Proofs.Node.Held

/-!
# Addresses in a tree

The way down from a node to one below it is an address: the numbers of the children
that are taken on the way.  The nodes in and below a node have one address each, and
in the order in which they are visited their addresses go up, compared number by
number.  The next sibling of a node has the address of the node with its last number
one higher.
-/

namespace ScriptTree.Node

/-- The node at an address. -/
def at? : Node → List Nat → Option Node
  | node, [] => some node
  | node, index :: rest => node.children[index]?.bind fun child => child.at? rest

/-- The node at an address below, with the field it is stored under. -/
def childAt? (root : Node) (address : List Nat) : Option (Field × Node) :=
  address.getLast?.bind fun index =>
    (root.at? address.dropLast).bind fun parent => parent.fields[index]?

/-- Whether the node at an address has a sibling behind it. -/
def hasLaterSibling (root : Node) (address : List Nat) : Bool :=
  address.getLast?.any fun index => (root.at? (address.dropLast ++ [index + 1])).isSome

/-- The addresses of the nodes on the way down to one, without the root and that node itself, the
outermost one first. -/
def between (address : List Nat) : List (List Nat) :=
  address.inits.tail.dropLast

mutual

/-- The addresses of a node and of everything below it, in the order in which they are visited. -/
def addresses : Node → List (List Nat)
  | .mk _ _ _ children => [] :: forestAddresses 0 children

/-- The addresses in some children, the first of which has the number `index`. -/
def forestAddresses (index : Nat) : List (Field × Node) → List (List Nat)
  | [] => []
  | (_, child) :: rest => child.addresses.map (index :: ·) ++ forestAddresses (index + 1) rest

end

variable {node child : Node} {field : Field} {index : Nat} {address : List Nat}

/-! ## One step down -/

/-- The addresses in a node are that of the node and those under its children. -/
theorem addresses_eq (node : Node) : node.addresses = [] :: forestAddresses 0 node.fields := by
  cases node
  rfl

/-- An address is followed part by part. -/
theorem at?_append (node : Node) (first second : List Nat) :
    node.at? (first ++ second) = (node.at? first).bind fun inner => inner.at? second := by
  induction first generalizing node with
  | nil => rfl
  | cons index rest ih =>
    rw [List.cons_append, at?, at?, Option.bind_assoc]
    exact congrArg _ (funext fun child => ih child)

/-- An address is followed by going to the numbered child and on from there. -/
theorem at?_cons_eq (node : Node) (index : Nat) (address : List Nat) :
    node.at? (index :: address) = node.fields[index]?.bind fun entry => entry.2.at? address := by
  rw [at?, children, List.getElem?_map, Option.bind_map]
  rfl

/-- A child has a later sibling where there is a child with the next number. -/
@[simp]
theorem hasLaterSibling_singleton (node : Node) (index : Nat) :
    node.hasLaterSibling [index] = node.fields[index + 1]?.isSome := by
  change (node.at? [index + 1]).isSome = _
  rw [at?_cons_eq]
  cases node.fields[index + 1]? <;> rfl

/-- No node stands between the root and its children. -/
@[simp]
theorem between_singleton (index : Nat) : between [index] = [] :=
  rfl

/-- The root does not stand between itself and a node. -/
theorem ne_nil_of_mem_between {above : List Nat} (member : above ∈ between address) :
    above ≠ [] := by
  rintro rfl
  have inner := List.mem_of_mem_dropLast member
  cases address with
  | nil => cases inner
  | cons index rest => simp at inner

/-- Between the root and a node below a child stand the child and what is between the two. -/
theorem between_cons (below : address ≠ []) (index : Nat) :
    between (index :: address) = [index] :: (between address).map (index :: ·) := by
  rcases List.exists_cons_of_ne_nil below with ⟨first, rest, rfl⟩
  have longer : (rest.inits.map (first :: ·)).map (index :: ·) ≠ [] := by
    cases rest <;> simp
  rw [between, between, List.inits_cons, List.inits_cons, List.map_cons, List.tail_cons,
    List.tail_cons, List.dropLast_cons_of_ne_nil longer, List.map_dropLast]

section

variable (under : node.fields[index]? = some (field, child))

include under

theorem at?_cons (address : List Nat) : node.at? (index :: address) = child.at? address := by
  rw [at?_cons_eq, under]
  rfl

theorem childAt?_cons (below : address ≠ []) :
    node.childAt? (index :: address) = child.childAt? address := by
  rcases List.eq_nil_or_concat' address with rfl | ⟨above, last, rfl⟩
  · exact absurd rfl below
  · rw [← List.cons_append, childAt?, childAt?, List.getLast?_concat, List.getLast?_concat,
      List.dropLast_concat, List.dropLast_concat, at?_cons under]

theorem hasLaterSibling_cons (below : address ≠ []) :
    node.hasLaterSibling (index :: address) = child.hasLaterSibling address := by
  rcases List.eq_nil_or_concat' address with rfl | ⟨above, last, rfl⟩
  · exact absurd rfl below
  · rw [← List.cons_append, hasLaterSibling, hasLaterSibling, List.getLast?_concat,
      List.getLast?_concat, List.dropLast_concat, List.dropLast_concat]
    exact congrArg Option.isSome (at?_cons under _)

end

/-! ## All addresses -/

mutual

/-- The nodes at the addresses are the nodes in the order in which they are visited. -/
theorem map_at?_addresses (node : Node) :
    node.addresses.map node.at? = node.descendants.map some := by
  match node with
  | .mk content range tokens children =>
    have below := map_at?_forestAddresses (.mk content range tokens children) [] children rfl
    rw [addresses_eq, descendants_eq, List.map_cons, List.map_cons]
    exact congrArg (some _ :: ·) below

-- The children in front are kept, so that each child is found by its number.
/-- The addresses under the children lead to all the nodes below, in pre-order. -/
theorem map_at?_forestAddresses (node : Node) (passed children : List (Field × Node))
    (whole : node.fields = passed ++ children) :
    (forestAddresses passed.length children).map node.at? =
      ((children.map (·.2)).flatMap descendants).map some := by
  match children with
  | [] => rfl
  | (field, child) :: rest =>
    have under : node.fields[passed.length]? = some (field, child) := by simp [whole]
    have more := map_at?_forestAddresses node (passed ++ [(field, child)]) rest (by simp [whole])
    rw [List.length_append] at more
    rw [forestAddresses, List.map_append, List.map_map, List.map_cons, List.flatMap_cons,
      List.map_append, ← map_at?_addresses child, ← more]
    refine congrArg (· ++ _) (List.map_congr_left fun address _ => ?_)
    exact at?_cons under address

end

/-- An address under some children is the number of one of them before an address in that child. -/
theorem mem_forestAddresses {start : Nat} {children : List (Field × Node)} :
    address ∈ forestAddresses start children ↔ ∃ offset entry rest,
      children[offset]? = some entry ∧ rest ∈ entry.2.addresses ∧
        address = (start + offset) :: rest := by
  induction children generalizing start with
  | nil => simp [forestAddresses]
  | cons entry more ih =>
    rcases entry with ⟨field, child⟩
    rw [forestAddresses, List.mem_append, List.mem_map, ih]
    constructor
    · rintro (⟨rest, member, rfl⟩ | ⟨offset, entry, rest, present, member, rfl⟩)
      · exact ⟨0, (field, child), rest, rfl, member, rfl⟩
      · exact ⟨offset + 1, entry, rest, present, member, by rw [Nat.add_assoc, Nat.add_comm 1]⟩
    · rintro ⟨_ | offset, entry, rest, present, member, rfl⟩
      · cases present
        exact .inl ⟨rest, member, rfl⟩
      · exact .inr ⟨offset, entry, rest, present, member, by rw [Nat.add_assoc, Nat.add_comm 1]⟩

/-- An address is one of a node in the tree if and only if there is a node at it. -/
theorem mem_addresses_iff : address ∈ node.addresses ↔ (node.at? address).isSome = true := by
  induction address generalizing node with
  | nil => simp [addresses_eq, at?]
  | cons index rest ih =>
    rw [addresses_eq, List.mem_cons, mem_forestAddresses, at?_cons_eq, Option.isSome_bind,
      Option.any_eq_true]
    constructor
    · rintro (empty | ⟨offset, entry, _, present, member, same⟩)
      · cases empty
      · rw [Nat.zero_add, List.cons.injEq] at same
        rcases same with ⟨rfl, rfl⟩
        exact ⟨entry, present, ih.mp member⟩
    · rintro ⟨entry, present, found⟩
      exact .inr ⟨index, entry, rest, present, ih.mpr found, by rw [Nat.zero_add]⟩

/-- A child and its field are found where the address leads to. -/
theorem at?_of_childAt? (found : node.childAt? address = some (field, child)) :
    node.at? address = some child := by
  rcases List.eq_nil_or_concat' address with rfl | ⟨above, last, rfl⟩
  · cases found
  · rw [childAt?, List.getLast?_concat, List.dropLast_concat, Option.bind_some,
      Option.bind_eq_some_iff] at found
    rcases found with ⟨parent, present, under⟩
    rw [at?_append, present, Option.bind_some, at?_cons under]
    rfl

/-- A child found at an address is one of the nodes below. -/
theorem mem_descendants_of_childAt? (found : node.childAt? address = some (field, child)) :
    child ∈ node.descendants := by
  have present := at?_of_childAt? found
  have among : address ∈ node.addresses := mem_addresses_iff.mpr (by rw [present]; rfl)
  have visited := List.mem_map_of_mem (f := node.at?) among
  rw [map_at?_addresses, present, List.mem_map] at visited
  rcases visited with ⟨other, below, same⟩
  exact Option.some.inj same ▸ below

mutual

/-- The addresses go up. -/
theorem pairwise_addresses (node : Node) : node.addresses.Pairwise (· < ·) := by
  match node with
  | .mk content range tokens children =>
    refine List.pairwise_cons.mpr ⟨fun address member => ?_, pairwise_forestAddresses 0 children⟩
    rcases mem_forestAddresses.mp member with ⟨offset, entry, rest, -, -, rfl⟩
    exact List.nil_lt_cons ..

/-- The addresses under some children are listed in their order. -/
theorem pairwise_forestAddresses (start : Nat) (children : List (Field × Node)) :
    (forestAddresses start children).Pairwise (· < ·) := by
  match children with
  | [] => exact .nil
  | (field, child) :: more =>
    refine List.pairwise_append.mpr ⟨?_, pairwise_forestAddresses (start + 1) more, ?_⟩
    · refine List.pairwise_map.mpr ((pairwise_addresses child).imp ?_)
      intro first second before
      exact List.cons_lt_cons_iff.mpr (.inr ⟨rfl, before⟩)
    · intro first among second later
      rcases List.mem_map.mp among with ⟨rest, -, rfl⟩
      rcases mem_forestAddresses.mp later with ⟨offset, entry, other, -, -, rfl⟩
      exact List.cons_lt_cons_iff.mpr (.inl (by omega))

end

end ScriptTree.Node
