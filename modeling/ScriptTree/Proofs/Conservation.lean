import ScriptTree.Parse
import ScriptTree.Proofs.Grammar.Conservation
import ScriptTree.Proofs.Grammar.Totality
import ScriptTree.Proofs.Lexeme.Order
import ScriptTree.Proofs.Node.Held

/-!
# The tokens of a source and the tokens of its tree

Together with what class bodies abandoned, the tree of a source holds each
significant token once.  So the tree by itself holds all of them exactly where
no target of an assignment was abandoned.
-/

namespace ScriptTree

/-- The significant tokens of a source at their places. -/
def significantTokens (source : String) : List PlacedToken :=
  (Lexing.ofSource source).lexemes.map Lexeme.toPlacedToken

/-- The children of the root are the nodes of the declarations. -/
theorem ParseResult.children_root (result : ParseResult) :
    result.root.children = result.program.declarations.map Declaration.toNode := by
  simp [root, Program.toNode, Program.assembly, Node.children, Node.fields]

/-- A parse of a whole source begins with lexemes of which none is empty. -/
theorem spelled_ofSource (source : String) :
    (Grammar.State.ofLexemes (Lexing.ofSource source).lexemes).Spelled :=
  fun _ => Lexing.text_nonempty

/-- A parse reads the lexemes of its source to the end. -/
theorem exists_reads_parse (source : String) (options : ParseOptions) :
    ∃ final, Grammar.Reads .declarations (.ofLexemes (Lexing.ofSource source).lexemes)
      (parse source options).program.declarations final ∧ final.rest = [] := by
  obtain ⟨declarations, final, reads, same⟩ :=
    Grammar.exists_reads_program (Lexing.ofSource source).lexemes
      (LineIndex.wholeRange source (.ofSource source))
  have found : (parse source options).program.declarations = declarations :=
    congrArg (·.program.declarations) same
  refine ⟨final, found ▸ reads, ?_⟩
  exact reads.rest_eq_nil

/-- The filled slots of a parsed program are the significant tokens. -/
theorem placed_slots_parse (source : String) (options : ParseOptions) :
    Slot.placed (parse source options).program.slots = significantTokens source := by
  obtain ⟨final, reads, ends⟩ := exists_reads_parse source options
  have whole := reads.placed (spelled_ofSource source)
  rw [Grammar.State.placed, Grammar.State.placed, ends, List.map_nil, List.append_nil] at whole
  exact whole.symm

/-- An abandoned target held at least one token. -/
theorem heldBy_abandoned_eq_nil_iff (source : String) (options : ParseOptions) :
    Expression.heldBy (parse source options).program.abandoned = [] ↔
      (parse source options).program.abandoned = [] := by
  obtain ⟨final, reads, -⟩ := exists_reads_parse source options
  constructor
  · intro nothing
    apply List.eq_nil_iff_forall_not_mem.mpr
    intro target member
    apply reads.losesTokens (spelled_ofSource source) target member
    have empty := List.flatMap_eq_nil_iff.mp nothing target member
    have same : (target.toNode.held : Multiset PlacedToken) = Slot.placed target.slots :=
      target.bag_assembly
    rw [empty] at same
    exact (Multiset.coe_eq_zero _).mp same.symm
  · intro none
    rw [none]
    rfl

/-- The tokens of a source start one behind the other. -/
theorem pairwise_significantTokens (source : String) :
    (significantTokens source).Pairwise fun first second =>
      first.range.span.start < second.range.span.start :=
  List.pairwise_map.mpr (Lexing.pairwise_lexemes source)

/-- The tree holds nothing but significant tokens. -/
theorem held_subset_significantTokens (source : String) (options : ParseOptions) :
    (parse source options).root.held ⊆ significantTokens source := by
  have perm := (parse source options).program.held_perm
  rw [placed_slots_parse source options] at perm
  exact fun placed member => perm.subset (List.mem_append_left _ member)

/-- The tree holds every token where, and only where, it abandoned nothing. -/
theorem held_complete_iff (source : String) (options : ParseOptions) :
    PlacedToken.inOrder (parse source options).root.held = significantTokens source ↔
      (parse source options).program.abandoned = [] := by
  have perm := (parse source options).program.held_perm
  rw [placed_slots_parse source options] at perm
  rw [← heldBy_abandoned_eq_nil_iff]
  constructor
  · intro complete
    have kept := (List.mergeSort_perm (parse source options).root.held
      PlacedToken.startsNoLater).length_eq
    have total := perm.length_eq
    rw [List.length_append, ← complete] at total
    exact List.eq_nil_of_length_eq_zero (Nat.add_eq_left.mp (total.trans kept))
  · intro nothing
    rw [nothing, List.append_nil] at perm
    exact PlacedToken.inOrder_eq_of_perm perm (pairwise_significantTokens source)

/-- No significant token is lost or doubled: with the tokens of abandoned targets added, the tree
holds each of them once, and without them it does so exactly where nothing was abandoned. -/
theorem held_inOrder_parse (source : String) (options : ParseOptions) :
    PlacedToken.inOrder ((parse source options).root.held ++
        Expression.heldBy (parse source options).program.abandoned) =
      significantTokens source ∧
    (PlacedToken.inOrder (parse source options).root.held = significantTokens source ↔
      (parse source options).program.abandoned = []) := by
  have perm := (parse source options).program.held_perm
  rw [placed_slots_parse source options] at perm
  exact ⟨PlacedToken.inOrder_eq_of_perm perm (pairwise_significantTokens source),
    held_complete_iff source options⟩

/-- The tokens in front of a member's name are lost where a number stands in its place. -/
theorem held_inOrder_unfinished_member :
    PlacedToken.inOrder (parse "class C { a.1; }").root.held ≠
      significantTokens "class C { a.1; }" := by
  intro complete
  have nothing := (held_complete_iff _ _).mp complete
  have abandoned : (parse "class C { a.1; }").program.abandoned.length = 1 := by
    decide +kernel
  rw [nothing] at abandoned
  cases abandoned

end ScriptTree
