import ScriptTree.Parse
import ScriptTree.Proofs.Conservation
import ScriptTree.Proofs.Grammar.Fitting
import ScriptTree.Proofs.Grammar.Laying
import ScriptTree.Proofs.Grammar.Totality
import ScriptTree.Proofs.Lexeme.Slice

/-!
# Where the nodes of a tree stand

In the tree of a source, the children and the own tokens of every node stand in
the order of the source, empty children included, and every node but the root is
exactly as wide as what it is made of.  Something that is missing stands inside
of the node that misses it, with one exception: an operand that is missing in
front of a binary operator, an opening bracket or a dot on a later line stands at
the end of the line before, and the node starts at the sign.
-/

/-!
## Trees without overlap

A node is put together from parts that must not overlap.  The grammar hands them
over in the order of the source, on the paths of recovery as well, so no node is
ever refused: neither where the lexemes come from a source, nor for any other
lexemes that follow each other, whatever their tokens and however wide they are.
-/

namespace ScriptTree

/-- Lexemes that follow each other are an ordered state. -/
theorem Grammar.State.ordered_ofLexemes {lexemes : List Lexeme}
    (follow : Lexeme.Follow 0 lexemes) : (ofLexemes lexemes).Ordered :=
  ⟨rfl, follow⟩

/-- Each declaration that is read from lexemes in order is put together without an overlap. -/
theorem Grammar.overlap_program {lexemes : List Lexeme} (follow : Lexeme.Follow 0 lexemes)
    (range : Range) : (program lexemes range).program.assembly.overlap = none := by
  rcases exists_reads_program lexemes range with ⟨declarations, final, reads, same⟩
  rw [same]
  exact List.findSome?_eq_none_iff.mpr (reads.fits (State.ordered_ofLexemes follow))

/-- Lexemes that follow each other are read into a tree without overlaps, and so is every
source. -/
theorem overlap_eq_none :
    (∀ (lexemes : List Lexeme) (range : Range), Lexeme.Follow 0 lexemes →
        (Grammar.program lexemes range).program.assembly.overlap = none) ∧
      ∀ (source : String) (options : ParseOptions),
        (parse source options).program.assembly.overlap = none := by
  constructor
  · intro lexemes range follow
    exact Grammar.overlap_program follow range
  · intro source options
    exact Grammar.overlap_program (Lexing.follow_lexemes source) _

/-- Tokens in disorder, one of them without width: a class whose member is given up. -/
theorem overlap_eq_none_disorder :
    Lexeme.Follow 0
        [⟨⟨.rBrace, ⟨⟨2, 3⟩, ⟨0, 2⟩, ⟨0, 3⟩⟩⟩, "\x7d"⟩,
          ⟨⟨.kwClass, ⟨⟨3, 8⟩, ⟨0, 3⟩, ⟨0, 8⟩⟩⟩, "class"⟩,
          ⟨⟨.lBrace, ⟨⟨8, 8⟩, ⟨0, 8⟩, ⟨0, 8⟩⟩⟩, ""⟩,
          ⟨⟨.identifier, ⟨⟨9, 10⟩, ⟨0, 9⟩, ⟨0, 10⟩⟩⟩, "a"⟩,
          ⟨⟨.dot, ⟨⟨10, 11⟩, ⟨0, 10⟩, ⟨0, 11⟩⟩⟩, "."⟩,
          ⟨⟨.error, ⟨⟨11, 12⟩, ⟨0, 11⟩, ⟨0, 12⟩⟩⟩, "#"⟩] ∧
      (Grammar.program
        [⟨⟨.rBrace, ⟨⟨2, 3⟩, ⟨0, 2⟩, ⟨0, 3⟩⟩⟩, "\x7d"⟩,
          ⟨⟨.kwClass, ⟨⟨3, 8⟩, ⟨0, 3⟩, ⟨0, 8⟩⟩⟩, "class"⟩,
          ⟨⟨.lBrace, ⟨⟨8, 8⟩, ⟨0, 8⟩, ⟨0, 8⟩⟩⟩, ""⟩,
          ⟨⟨.identifier, ⟨⟨9, 10⟩, ⟨0, 9⟩, ⟨0, 10⟩⟩⟩, "a"⟩,
          ⟨⟨.dot, ⟨⟨10, 11⟩, ⟨0, 10⟩, ⟨0, 11⟩⟩⟩, "."⟩,
          ⟨⟨.error, ⟨⟨11, 12⟩, ⟨0, 11⟩, ⟨0, 12⟩⟩⟩, "#"⟩]
        default).program.assembly.overlap = none :=
  ⟨by decide, overlap_eq_none.1 _ _ (by decide)⟩

/-! ## Nodes in the order of the source -/

/-- The lines and columns of a placed lexeme are those of its bytes. -/
theorem Lexeme.range_of_mem_place {index : LineIndex} {offset : Nat} {pieces : List Piece}
    {lexeme : Lexeme} (member : lexeme ∈ place index offset pieces) :
    index.range lexeme.range.span = lexeme.range := by
  induction pieces generalizing offset with
  | nil => cases member
  | cons piece rest ih =>
    rcases List.mem_cons.mp member with rfl | later
    · rfl
    · exact ih later

/-- A parse of a whole source begins located. -/
theorem located_ofSource (source : String) :
    (Grammar.State.ofLexemes (Lexing.ofSource source).lexemes).Located (.ofSource source) where
  ordered := Grammar.State.ordered_ofLexemes (Lexing.follow_lexemes source)
  settled := ⟨spelled_ofSource source, Range.isEmpty_emptyAt ..⟩
  wide := fun _ member => Lexeme.start_lt_stop_of_mem_place
    (fun _ => Piece.text_ne_nil_of_mem_all) (List.mem_of_mem_filter member)
  placed := fun _ member => Lexeme.range_of_mem_place (List.mem_of_mem_filter member)
  anchored := congrArg Position.line (LineIndex.position_zero source).symm

/-- A node of a leaf kind stands for a token unless it is missing. -/
theorem Node.isSome_leafToken? (node : Node) (leaf : node.kind.isLeaf = true)
    (written : node.isMissing = false) : node.content.leafToken?.isSome = true := by
  obtain ⟨content, range, tokens, children⟩ := node
  cases content with
  | identifier name =>
    change name.isEmpty = false at written
    simp [Node.content, Content.leafToken?, written]
  | type name =>
    cases name with
    | missing => cases written
    | _ => rfl
  | boolean value => cases value <;> rfl
  | number | string => rfl
  | _ => cases leaf

section

variable (source : String) (options : ParseOptions)

/-- The declarations of a source tile it, and none of them is empty. -/
theorem exists_tile_declarations :
    ∃ high, Part.Tile 0 high ((parse source options).program.declarations.map fun declaration =>
        .child .declarations declaration.assembly) ∧
      ∀ declaration ∈ (parse source options).program.declarations,
        declaration.range.isEmpty = false := by
  rcases exists_reads_parse source options with ⟨final, reads, -⟩
  exact ⟨_, reads.laid (located_ofSource source)⟩

/-- The children and tokens of the root are in order. -/
theorem inOrder_root : (parse source options).root.InOrder := by
  rcases exists_tile_declarations source options with ⟨high, tile, -⟩
  have inOrder : (Assembly.ofParts .program _).node.InOrder := Assembly.inOrder_ofParts tile
  have siblings := inOrder.siblings
  rw [Node.children, Assembly.fields_ofParts] at siblings
  refine ⟨?_, .nil, fun _ none => absurd none List.not_mem_nil⟩
  simpa [Node.children, List.filterMap_map, Part.child?, Function.comp_def, ParseResult.root,
    Program.toNode, Program.assembly, Node.fields, Declaration.toNode] using siblings

/-- The root holds its children that are empty. -/
theorem holdsEmpties_root : (parse source options).root.HoldsEmpties := by
  rcases exists_tile_declarations source options with ⟨high, -, filled⟩
  intro entry member empty
  rcases List.mem_map.mp member with ⟨declaration, present, rfl⟩
  have wide : declaration.toNode.range.isEmpty = false := filled declaration present
  rw [wide] at empty
  cases empty

/-- What is below the root is arranged. -/
theorem arranged_below_root :
    ∀ node ∈ (parse source options).root.children.flatMap Node.descendants, node.Arranged := by
  rcases exists_tile_declarations source options with ⟨high, tile, -⟩
  intro node member
  rcases List.mem_flatMap.mp member with ⟨child, present, below⟩
  rw [ParseResult.children_root] at present
  rcases List.mem_map.mp present with ⟨declaration, declared, rfl⟩
  refine tile.arranged (.declarations, declaration.toNode) ?_ node below
  exact List.mem_filterMap.mpr
    ⟨.child .declarations declaration.assembly, List.mem_map_of_mem declared, rfl⟩

/-- A node of the tree is the root or below one of its children. -/
theorem mem_descendants_root {node : Node} :
    node ∈ (parse source options).root.descendants ↔
      node = (parse source options).root ∨
        node ∈ (parse source options).root.children.flatMap Node.descendants := by
  rw [Node.descendants_eq, List.mem_cons]

/-- A node that stands for a token stands where the token does. -/
theorem exists_token_of_isLeaf {node : Node}
    (member : node ∈ (parse source options).root.descendants) (leaf : node.kind.isLeaf = true)
    (written : node.isMissing = false) :
    ∃ placed ∈ significantTokens source,
      node.content.leafToken? = some placed.token ∧ placed.range = node.range := by
  rcases Option.isSome_iff_exists.mp (node.isSome_leafToken? leaf written) with ⟨token, found⟩
  refine ⟨⟨token, node.range⟩, ?_, found, rfl⟩
  refine held_subset_significantTokens source options (List.mem_flatMap.mpr ⟨node, member, ?_⟩)
  simp [Node.ownTokens, found]

/-- The children and the tokens of every node stand in order.  Every node but the root is as wide
as what it is made of, and one that stands for a token is as wide as the token.  The root covers
the whole source. -/
theorem inOrder_and_isTight_parse :
    (∀ node ∈ (parse source options).root.descendants, node.InOrder) ∧
      (∀ node ∈ (parse source options).root.children.flatMap Node.descendants,
        node.IsTight ∧
          (node.kind.isLeaf = true → node.isMissing = false →
            ∃ placed ∈ significantTokens source,
              node.content.leafToken? = some placed.token ∧ placed.range = node.range)) ∧
      (parse source options).root.range.span = ⟨0, Text.byteLength source.toList⟩ := by
  refine ⟨?_, ?_, rfl⟩
  · intro node member
    rcases (mem_descendants_root source options).mp member with rfl | below
    · exact inOrder_root source options
    · exact (arranged_below_root source options node below).inOrder
  · intro node below
    have member := (mem_descendants_root source options).mpr (.inr below)
    exact ⟨(arranged_below_root source options node below).tight,
      exists_token_of_isLeaf source options member⟩

/-- Every node holds its children that are empty, unless a chain goes on from them. -/
theorem holdsEmpties_parse :
    ∀ node ∈ (parse source options).root.descendants, node.HoldsEmpties := by
  intro node member
  rcases (mem_descendants_root source options).mp member with rfl | below
  · exact holdsEmpties_root source options
  · exact (arranged_below_root source options node below).empties

end

/-- An empty child is inside of its node if and only if it is not what a chain goes on from: the
left operand of a binary operator, the array of an access, or the object of a member. -/
theorem encloses_iff_of_isEmpty {source : String} (options : ParseOptions) {node : Node}
    (member : node ∈ (parse source options).root.descendants) {entry : Field × Node}
    (child : entry ∈ node.fields) (empty : entry.2.range.isEmpty = true) :
    node.range.Encloses entry.2.range ↔ node.content.leadField? ≠ some entry.1 :=
  holdsEmpties_parse source options node member entry child empty

/-- A `*` on the second line that misses both of its operands. -/
theorem encloses_iff_of_isEmpty_later_line :
    (∃ node ∈ (parse "const int A =\n*;").root.descendants, ∃ entry ∈ node.fields,
        entry.2.range.isEmpty = true ∧ node.content.leadField? ≠ some entry.1 ∧
          (node.range.Encloses entry.2.range ↔ node.content.leadField? ≠ some entry.1)) ∧
      ∃ node ∈ (parse "const int A =\n*;").root.descendants, ∃ entry ∈ node.fields,
        entry.2.range.isEmpty = true ∧ node.content.leadField? = some entry.1 ∧
          (node.range.Encloses entry.2.range ↔ node.content.leadField? ≠ some entry.1) := by
  have inside : (parse "const int A =\n*;").root.descendants.any
    (fun node => node.fields.any fun entry =>
      entry.2.range.isEmpty && decide (node.content.leadField? ≠ some entry.1)) = true := by
    decide +kernel
  have outside : (parse "const int A =\n*;").root.descendants.any
    (fun node => node.fields.any fun entry =>
      entry.2.range.isEmpty && decide (node.content.leadField? = some entry.1)) = true := by
    decide +kernel
  simp only [List.any_eq_true, Bool.and_eq_true, decide_eq_true_eq] at inside outside
  rcases inside with ⟨node, member, entry, child, empty, plain⟩
  rcases outside with ⟨chain, memberChain, lead, childLead, emptyLead, found⟩
  exact ⟨⟨node, member, entry, child, empty, plain, encloses_iff_of_isEmpty {} member child empty⟩,
    chain, memberChain, lead, childLead, emptyLead, found,
    encloses_iff_of_isEmpty {} memberChain childLead emptyLead⟩

/-- The left operand that is missing in front of a `*` on the second line is outside of its
node. -/
theorem not_encloses_of_later_line :
    ¬∀ node ∈ (parse "const int A =\n*3;").root.descendants, ∀ entry ∈ node.fields,
      entry.2.range.isEmpty = true → node.range.Encloses entry.2.range := by
  intro inside
  have outside : (parse "const int A =\n*3;").root.descendants.any (fun node =>
      node.fields.any fun entry => entry.2.range.isEmpty &&
        decide (entry.2.range.span.start < node.range.span.start)) = true := by
    decide +kernel
  simp only [List.any_eq_true, Bool.and_eq_true, decide_eq_true_eq] at outside
  rcases outside with ⟨node, member, entry, child, empty, before⟩
  exact Nat.not_lt.mpr (inside node member entry child empty).start_le before

end ScriptTree
