import ScriptTree.Proofs.Conservation
import ScriptTree.Proofs.Grammar.Heading

/-!
# No declaration is swallowed

Whatever is wrong with a source, each of its keywords `instance`, `prototype`,
`func` and `class` starts a declaration of its own at the top level, of the kind
that the keyword names, and no other declaration of these kinds is in the tree.
-/

namespace ScriptTree

/-- The kind of the declarations that a keyword heads. -/
def Token.heads? : Token → Option NodeKind
  | .kwInstance => some .instanceDeclaration
  | .kwPrototype => some .prototypeDeclaration
  | .kwFunc => some .functionDeclaration
  | .kwClass => some .classDeclaration
  | _ => none

/-- The keywords that head declarations are those that stand at the top level only. -/
theorem Token.isSome_heads? (token : Token) : token.heads?.isSome = token.isTopLevelOnly := by
  cases token <;> rfl

/-- The kinds of the declarations that cannot be nested. -/
def NodeKind.isHeaded : NodeKind → Bool
  | .instanceDeclaration | .prototypeDeclaration | .functionDeclaration | .classDeclaration => true
  | _ => false

/-- A node is of the kind that a keyword names, and the keyword is the first of all the tokens that
the node holds. -/
structure Node.IsHeadedBy (node : Node) (keyword : PlacedToken) : Prop where
  kind : keyword.token.heads? = some node.kind
  first : (PlacedToken.inOrder node.held).head? = some keyword

/-- The token with the least start comes first. -/
theorem PlacedToken.head?_inOrder {tokens : List PlacedToken} {first : PlacedToken}
    (member : first ∈ tokens)
    (least : ∀ token ∈ tokens,
      token = first ∨ first.range.span.start < token.range.span.start) :
    (inOrder tokens).head? = some first := by
  have perm : (inOrder tokens).Perm tokens := List.mergeSort_perm ..
  have sorted := pairwise_inOrder tokens
  have among := perm.symm.subset member
  cases ordered : inOrder tokens with
  | nil =>
    rw [ordered] at among
    cases among
  | cons head rest =>
    rw [ordered] at among sorted perm
    rcases List.mem_cons.mp among with rfl | later
    · rfl
    · have before := of_decide_eq_true (List.rel_of_pairwise_cons sorted later)
      rcases least head (perm.subset List.mem_cons_self) with rfl | after
      · rfl
      · exact absurd after (Nat.not_lt.mpr before)

/-! ## One declaration -/

namespace Declaration

variable {declaration : Declaration} {keyword : PlacedToken}

/-- A heading is a token of its declaration. -/
theorem heading_mem_tokens (heading : declaration.heading? = some keyword) :
    keyword ∈ declaration.toNode.tokens := by
  cases declaration <;> cases heading <;> exact List.mem_cons_self

/-- A heading is held by its declaration. -/
theorem heading_mem_held (heading : declaration.heading? = some keyword) :
    keyword ∈ declaration.toNode.held := by
  rw [Node.held_eq, Node.ownTokens]
  exact List.mem_append_left _ (List.mem_append_left _ (heading_mem_tokens heading))

/-- The keyword stands in front of everything else. -/
theorem placed_slots_of_heading (heading : declaration.heading? = some keyword) :
    ∃ rest, Slot.placed declaration.slots = keyword :: rest := by
  cases declaration <;> cases heading <;>
    simp [slots, InstanceDeclaration.slots, PrototypeDeclaration.slots,
      FunctionDeclaration.slots, ClassDeclaration.slots]

/-- A declaration holds tokens of its slots only. -/
theorem held_subset (declaration : Declaration) :
    declaration.toNode.held ⊆ Slot.placed declaration.slots := by
  intro token member
  have whole := declaration.bag_assembly
  have among : token ∈ Slot.bag declaration.slots := by
    rw [← whole]
    exact Multiset.mem_add.mpr (.inl member)
  exact among

/-- The kinds of node that are headed are those of declarations with a heading. -/
theorem isHeaded_kind (declaration : Declaration) :
    declaration.toNode.kind.isHeaded = declaration.heading?.isSome := by
  cases declaration <;> rfl

/-- The keyword tells the kind of the declaration. -/
theorem heads_of_heading (heading : declaration.heading? = some keyword) :
    keyword.token.heads? = some declaration.toNode.kind := by
  cases declaration <;> cases heading <;> rfl

/-- Where the tokens of a declaration are in order, its keyword is the first that it holds. -/
theorem isHeadedBy (heading : declaration.heading? = some keyword)
    (ordered : (Slot.placed declaration.slots).Pairwise fun first second =>
      first.range.span.start < second.range.span.start) :
    declaration.toNode.IsHeadedBy keyword where
  kind := heads_of_heading heading
  first := by
    rcases placed_slots_of_heading heading with ⟨rest, whole⟩
    rw [whole] at ordered
    apply PlacedToken.head?_inOrder (heading_mem_held heading)
    intro token member
    have among := declaration.held_subset member
    rw [whole] at among
    rcases List.mem_cons.mp among with same | later
    · exact .inl same
    · exact .inr (List.rel_of_pairwise_cons ordered later)

end Declaration

/-- The declarations that cannot be nested are headed by their keywords, one by one. -/
theorem Declaration.forall₂_isHeadedBy {declarations : List Declaration}
    (ordered : (Slot.placed (declarations.flatMap slots)).Pairwise fun first second =>
      first.range.span.start < second.range.span.start) :
    List.Forall₂ Node.IsHeadedBy
      ((declarations.map toNode).filter fun node => node.kind.isHeaded)
      (declarations.filterMap heading?) := by
  induction declarations with
  | nil => exact .nil
  | cons declaration rest ih =>
    rw [List.flatMap_cons, Slot.placed_append, List.pairwise_append] at ordered
    have later := ih ordered.2.1
    cases heading : declaration.heading? with
    | none =>
      rw [List.map_cons, List.filter_cons_of_neg (by simp [isHeaded_kind, heading]),
        List.filterMap_cons_none heading]
      exact later
    | some keyword =>
      rw [List.map_cons, List.filter_cons_of_pos (by simp [isHeaded_kind, heading]),
        List.filterMap_cons_some heading]
      exact .cons (isHeadedBy heading ordered.1) later

/-! ## The declarations of a source -/

/-- The keywords of a source that head declarations, and the declarations at the top level of its
tree that are of their kinds, belong together one by one and in order. -/
theorem isHeadedBy_keywords_parse (source : String) (options : ParseOptions) :
    List.Forall₂ Node.IsHeadedBy
      ((parse source options).root.children.filter fun node => node.kind.isHeaded)
      ((significantTokens source).filter fun placed => placed.token.heads?.isSome) := by
  rcases exists_reads_parse source options with ⟨final, reads, ends⟩
  have ordered := pairwise_significantTokens source
  rw [← placed_slots_parse source options] at ordered
  have keywords : (significantTokens source).filter (fun placed => placed.token.heads?.isSome) =
      (parse source options).program.declarations.filterMap Declaration.heading? := by
    have whole := reads.takesHeadings rfl
    rw [Grammar.State.headings, Grammar.State.headings, Grammar.State.placed,
      Grammar.State.placed, ends, List.map_nil, List.filter_nil, List.append_nil] at whole
    rw [← whole]
    exact List.filter_congr fun placed _ => Token.isSome_heads? placed.token
  rw [ParseResult.children_root, keywords]
  exact Declaration.forall₂_isHeadedBy ordered

end ScriptTree
