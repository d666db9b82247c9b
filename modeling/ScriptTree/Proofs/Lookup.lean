import ScriptTree.Lookup
import ScriptTree.Proofs.Coherence
import ScriptTree.Proofs.Placement

/-!
# Looking up positions

The lookup goes down from the program and looks for one child at each node.  It
finds the same nodes as a scan of the whole tree: a node that covers a position
is inside of its parent, which covers the position then, and of two siblings at
most one does.  Positions are compared by line and column, and the order of the
lines and columns of a text is the order of its bytes, whatever position is
looked up.
-/

namespace ScriptTree

/-! ## The order of positions -/

namespace Position

variable {first second third : Position}

/-- The order of positions is transitive where it is told by what does not come before. -/
theorem not_before_trans (early : ¬second.Before first) (late : ¬third.Before second) :
    ¬third.Before first := by
  unfold Before at *
  omega

/-- What comes before a position comes before everything that does not. -/
theorem before_of_not_before (before : first.Before second) (late : ¬third.Before second) :
    first.Before third := by
  unfold Before at *
  omega

end Position

namespace LineIndex

/-- A later offset has no earlier position. -/
theorem not_before_position (index : LineIndex) {early late : Nat} (ordered : early ≤ late) :
    ¬(index.position late).Before (index.position early) :=
  fun before => Nat.not_lt.mpr ordered (index.position_before_position_iff.mp before)

end LineIndex

/-! ## Covering ranges -/

namespace Range

variable {index : LineIndex} {position : Position} {first second outer inner : Range}

/-- What is covered by a range is covered by every range around it. -/
theorem covers_of_encloses (placedOuter : index.range outer.span = outer)
    (placedInner : index.range inner.span = inner) (encloses : outer.Encloses inner)
    (covers : inner.covers position = true) : outer.covers position = true := by
  rcases covers_iff.mp covers with ⟨wide, started, goesOn⟩
  refine covers_iff.mpr ⟨?_, ?_, ?_⟩
  · have starts := encloses.start_le
    have stops := encloses.le_stop
    rw [isEmpty_eq_false_iff] at wide ⊢
    exact Nat.lt_of_le_of_lt starts (Nat.lt_of_lt_of_le wide stops)
  · rw [← placedOuter]
    rw [← placedInner] at started
    exact Position.not_before_trans (index.not_before_position encloses.start_le) started
  · rw [← placedOuter]
    rw [← placedInner] at goesOn
    exact Position.before_of_not_before goesOn (index.not_before_position encloses.le_stop)

/-- Of two ranges that follow each other at most one covers a position. -/
theorem not_covers_of_precedes (placedFirst : index.range first.span = first)
    (placedSecond : index.range second.span = second) (precedes : first.Precedes second)
    (covers : first.covers position = true) : ¬second.covers position = true := by
  intro coversSecond
  have goesOn := (covers_iff.mp covers).2.2
  have started := (covers_iff.mp coversSecond).2.1
  rw [← placedFirst] at goesOn
  rw [← placedSecond] at started
  exact started (Position.before_of_not_before goesOn (index.not_before_position precedes))

end Range

/-! ## The way down -/

namespace Node

/-- A node is placed by a line index, its children follow each other, and those that are not empty
are inside of it. -/
structure Nests (index : LineIndex) (node : Node) : Prop where
  placed : index.range node.range.span = node.range
  siblings : (node.children.map Node.range).Pairwise Range.Precedes
  inside : ∀ child ∈ node.children, child.range.isEmpty = false →
    node.range.Encloses child.range

variable {index : LineIndex} {position : Position}

/-- Some nodes are among what is in and below them. -/
theorem mem_forest {node : Node} {nodes : List Node} (member : node ∈ nodes) :
    node ∈ nodes.flatMap descendants :=
  List.mem_flatMap.mpr ⟨node, member, node.mem_descendants⟩

mutual

/-- A node covers what something below it covers. -/
theorem covers_of_mem_descendants {node : Node} (nests : Every (Nests index) [node]) :
    ∀ below ∈ node.descendants, below.range.covers position = true →
      node.range.covers position = true := by
  match node with
  | .mk content range tokens children =>
    rcases every_singleton.mp nests with ⟨here, nested⟩
    intro below member covers
    rw [descendants_eq] at member
    rcases List.mem_cons.mp member with rfl | inside
    · exact covers
    · rcases exists_covers_of_mem_forest nested below inside covers with
        ⟨child, present, coversChild⟩
      have placedChild := (nested child (mem_forest present)).placed
      have wide := (Range.covers_iff.mp coversChild).1
      exact Range.covers_of_encloses here.placed placedChild (here.inside child present wide)
        coversChild

/-- Where a node below some children covers the position, one of the children does. -/
theorem exists_covers_of_mem_forest {children : List (Field × Node)}
    (nests : Every (Nests index) (children.map (·.2))) :
    ∀ below ∈ (children.map (·.2)).flatMap descendants, below.range.covers position = true →
      ∃ child ∈ children.map (·.2), child.range.covers position = true := by
  match children with
  | [] => exact nofun
  | (field, child) :: rest =>
    intro below member covers
    rw [List.map_cons, List.flatMap_cons] at member
    rw [List.map_cons] at nests ⊢
    rcases every_cons.mp nests with ⟨nestsChild, nestsRest⟩
    rcases List.mem_append.mp member with first | later
    · exact ⟨child, List.mem_cons_self, covers_of_mem_descendants nestsChild below first covers⟩
    · rcases exists_covers_of_mem_forest nestsRest below later covers with ⟨other, present, found⟩
      exact ⟨other, List.mem_cons_of_mem child present, found⟩

end

mutual

/-- The way down takes all nodes below that cover the position. -/
theorem pathDown_eq_filter {node : Node} (nests : Every (Nests index) [node]) :
    node.pathDown position = node :: (node.children.flatMap descendants).filter
      fun below => below.range.covers position := by
  match node with
  | .mk content range tokens children =>
    rcases every_singleton.mp nests with ⟨here, nested⟩
    exact congrArg (Node.mk content range tokens children :: ·)
      (pathAmong_eq_filter here.siblings nested)

/-- The path among children holds the nodes that cover the position, in order. -/
theorem pathAmong_eq_filter {children : List (Field × Node)}
    (siblings : ((children.map (·.2)).map Node.range).Pairwise Range.Precedes)
    (nests : Every (Nests index) (children.map (·.2))) :
    pathAmong position children = ((children.map (·.2)).flatMap descendants).filter
      fun below => below.range.covers position := by
  match children with
  | [] => rfl
  | (field, child) :: rest =>
    rw [List.map_cons] at siblings nests
    rcases every_cons.mp nests with ⟨nestsChild, nestsRest⟩
    rcases List.pairwise_cons.mp siblings with ⟨ahead, siblingsRest⟩
    rw [pathAmong, List.map_cons, List.flatMap_cons, List.filter_append]
    split
    · rename_i covers
      -- The siblings of a child that covers the position cover nothing there, nor does what they
      -- hold.
      have none : ((rest.map (·.2)).flatMap descendants).filter
          (fun below => below.range.covers position) = [] := by
        refine List.filter_eq_nil_iff.mpr fun below member coversBelow => ?_
        rcases exists_covers_of_mem_forest nestsRest below member coversBelow with
          ⟨other, present, coversOther⟩
        have placedChild := (nestsChild child (mem_forest List.mem_cons_self)).placed
        have placedOther := (nestsRest other (mem_forest present)).placed
        exact Range.not_covers_of_precedes placedChild placedOther
          (ahead other.range (List.mem_map_of_mem present)) covers coversOther
      rw [none, List.append_nil, pathDown_eq_filter nestsChild, descendants_eq]
      exact (List.filter_cons_of_pos (p := fun below : Node => below.range.covers position)
        covers).symm
    · rename_i passes
      have none : child.descendants.filter (fun below => below.range.covers position) = [] :=
        List.filter_eq_nil_iff.mpr fun below member coversBelow =>
          passes (covers_of_mem_descendants nestsChild below member coversBelow)
      rw [none, List.nil_append, pathAmong_eq_filter siblingsRest nestsRest]

end

/-! ### Steps of the way down -/

/-- A path begins at its node. -/
theorem head?_pathDown (position : Position) (node : Node) :
    (node.pathDown position).head? = some node := by
  cases node
  rfl

mutual

/-- On the way down each node is a child of the one before it. -/
theorem isChain_pathDown (position : Position) (node : Node) :
    (node.pathDown position).IsChain fun parent child => child ∈ parent.children := by
  match node with
  | .mk content range tokens children =>
    rcases isChain_pathAmong position children with ⟨chain, starts⟩
    rw [pathDown]
    exact List.isChain_cons.mpr ⟨starts, chain⟩

/-- Each node of a path is a child of the one before it. -/
theorem isChain_pathAmong (position : Position) (children : List (Field × Node)) :
    ((pathAmong position children).IsChain fun parent child => child ∈ parent.children) ∧
      ∀ first ∈ (pathAmong position children).head?, first ∈ children.map (·.2) := by
  match children with
  | [] => exact ⟨.nil, nofun⟩
  | (field, child) :: rest =>
    rw [pathAmong, List.map_cons]
    split
    · refine ⟨isChain_pathDown position child, ?_⟩
      rw [head?_pathDown]
      rintro first ⟨⟩
      exact List.mem_cons_self
    · rcases isChain_pathAmong position rest with ⟨chain, starts⟩
      exact ⟨chain, fun first member => List.mem_cons_of_mem child (starts first member)⟩

end

mutual

/-- The way down ends where no child covers the position. -/
theorem passes_children_of_last (position : Position) (node : Node) :
    ∀ last ∈ (node.pathDown position).getLast?, ∀ child ∈ last.children,
      child.range.covers position = false := by
  match node with
  | .mk content range tokens children =>
    intro last member
    rw [pathDown, List.getLast?_cons] at member
    cases ending : (pathAmong position children).getLast? with
    | some final =>
      rw [ending] at member
      cases member
      exact (passes_of_last position children).2 final ending
    | none =>
      rw [ending] at member
      cases member
      exact (passes_of_last position children).1 (List.getLast?_eq_none_iff.mp ending)

/-- Below the last node of a path, nothing covers the position. -/
theorem passes_of_last (position : Position) (children : List (Field × Node)) :
    (pathAmong position children = [] →
      ∀ child ∈ children.map (·.2), child.range.covers position = false) ∧
    ∀ last ∈ (pathAmong position children).getLast?, ∀ child ∈ last.children,
      child.range.covers position = false := by
  match children with
  | [] => exact ⟨nofun, nofun⟩
  | (field, child) :: rest =>
    rw [pathAmong, List.map_cons]
    split
    · refine ⟨fun none => ?_, passes_children_of_last position child⟩
      have starts := head?_pathDown position child
      rw [none] at starts
      cases starts
    · rename_i passes
      rcases passes_of_last position rest with ⟨others, further⟩
      exact ⟨fun none => List.forall_mem_cons.mpr ⟨Bool.eq_false_iff.mpr passes, others none⟩,
        further⟩

end

end Node

/-! ## The tree of a source -/

section

variable (source : String) (options : ParseOptions)

/-- Every node in the tree of a source holds its children, wherever they have some width. -/
theorem nests_root :
    Node.Every (Node.Nests (.ofSource source)) [(parse source options).root] := by
  intro node member
  rw [List.flatMap_singleton] at member
  have coherent := isCoherent_node source options member
  refine ⟨?_, ?_, ?_⟩
  · rw [LineIndex.range, ← coherent.start, ← coherent.stop]
  · rcases (mem_descendants_root source options).mp member with rfl | below
    · exact (inOrder_root source options).siblings
    · exact (arranged_below_root source options node below).inOrder.siblings
  · intro child present wide
    rcases (mem_descendants_root source options).mp member with rfl | below
    · have inTree := (mem_descendants_root source options).mpr (.inr (Node.mem_forest present))
      exact ⟨Nat.zero_le _, (isCoherent_node source options inTree).within⟩
    · have among : child.range ∈ node.wideRanges :=
        List.mem_append_right _
          (List.mem_filter.mpr ⟨List.mem_map_of_mem present, by rw [wide]; rfl⟩)
      rcases (arranged_below_root source options node below).tight (List.ne_nil_of_mem among)
        with ⟨first, last⟩
      exact ⟨(List.min?_eq_some_iff.mp first).2 _ (List.mem_map_of_mem among),
        (List.max?_eq_some_iff.mp last).2 _ (List.mem_map_of_mem among)⟩

end

/-! ### What is missing -/

/-- What is missing and is no leaf is made of nothing. -/
theorem Node.eq_nil_of_isMissing {node : Node} (plain : node.kind.isLeaf = false)
    (missing : node.isMissing = true) : node.tokens = [] ∧ node.fields = [] := by
  rcases node with ⟨content, range, tokens, children⟩
  cases content with
  | identifier | type => cases plain
  | error | block | classBody | parameterList | argumentList =>
    rcases Bool.and_eq_true_iff.mp missing with ⟨noTokens, noFields⟩
    exact ⟨List.isEmpty_iff.mp noTokens, List.isEmpty_iff.mp noFields⟩
  | _ => cases missing

/-- A name or a type that is missing is empty. -/
theorem marksLeaves_isEmpty : Grammar.MarksLeaves Grammar.State.Settled fun node =>
    node.kind.isLeaf = true → node.isMissing = true → node.range.isEmpty = true where
  kept := fun moves settled => moves.settled settled
  plain := by
    intro node plain leaf
    rw [plain] at leaf
    cases leaf
  name := by
    intro state next lexeme taken settled _ missing
    have written := settled.spelled _ taken.mem_rest
    exact absurd (written.symm.trans missing) Bool.false_ne_true
  nameMissing := fun _ settled _ _ => settled.anchored
  type := by
    intro state next value reads settled _ missing
    cases reads with
    | @typeTaken _ lexeme _ taken =>
      cases builtin : TypeName.builtin? lexeme.token with
      | none =>
        rw [builtin] at missing
        cases missing
      | some name =>
        have keyword := TypeName.isBuiltin_of_builtin? builtin
        rw [builtin] at missing
        have standsIn : name = .missing := of_decide_eq_true missing
        rw [standsIn] at keyword
        cases keyword
    | typeMissing => exact settled.anchored
  literal := by
    intro state next literal lexeme taken settled leaf missing
    cases literal with
    | identifier =>
      have written := settled.spelled _ taken.mem_rest
      exact absurd (written.symm.trans missing) Bool.false_ne_true
    | number | string | boolean => cases missing
    | error => cases leaf

/-- What is missing is empty, wherever it stands in the tree of a source. -/
theorem isEmpty_of_isMissing (source : String) (options : ParseOptions) {node : Node}
    (member : node ∈ (parse source options).root.descendants) (missing : node.isMissing = true) :
    node.range.isEmpty = true := by
  cases leaf : node.kind.isLeaf with
  | true =>
    exact forall_mem_descendants_root marksLeaves_isEmpty.spreads options
      (located_ofSource source).settled node member leaf missing
  | false =>
    rcases (mem_descendants_root source options).mp member with rfl | below
    · cases missing
    · rcases Node.eq_nil_of_isMissing leaf missing with ⟨noTokens, noFields⟩
      exact (arranged_below_root source options node below).bare leaf noTokens noFields

/-- Looking up a position agrees with a scan of the whole tree, for every source and every position,
also one that no offset of the source has.  In front of the program and behind it nothing is found.
Elsewhere the program is found, with all other nodes that cover the position in the order of the
tree: each of them is a child of the one before it, no child of the last one covers the position,
and none of them is missing. -/
theorem nodesAt_parse (source : String) (options : ParseOptions) (position : Position) :
    let program := (parse source options).program
    let path := program.nodesAt position
    (position.Before program.range.start ∨ program.range.stop.Before position → path = []) ∧
    (¬(position.Before program.range.start ∨ program.range.stop.Before position) →
      path = program.toNode :: program.toNode.descendants.tail.filter
        fun node => node.range.covers position) ∧
    (path.IsChain fun parent child => child ∈ parent.children) ∧
    (∀ last ∈ path.getLast?, ∀ child ∈ last.children, child.range.covers position = false) ∧
    ∀ node ∈ path, node.isMissing = false := by
  intro program path
  have scan : (parse source options).root.pathDown position = _ :=
    Node.pathDown_eq_filter (nests_root source options)
  by_cases outside : position.Before program.range.start ∨ program.range.stop.Before position
  · have none : path = [] := if_pos outside
    rw [none]
    exact ⟨fun _ => rfl, fun inside => absurd outside inside, .nil, nofun, nofun⟩
  · have inside : path = program.toNode.pathDown position := if_neg outside
    rw [inside]
    refine ⟨fun found => absurd found outside, fun _ => ?_, Node.isChain_pathDown position _,
      Node.passes_children_of_last position _, ?_⟩
    · rw [Node.descendants_eq, List.tail_cons]
      exact scan
    · intro node member
      rw [Bool.eq_false_iff]
      intro missing
      change node ∈ Node.pathDown position (parse source options).root at member
      rw [scan] at member
      rcases List.mem_cons.mp member with rfl | below
      · cases missing
      · rcases List.mem_filter.mp below with ⟨inTree, covers⟩
        have empty := isEmpty_of_isMissing source options
          ((mem_descendants_root source options).mpr (.inr inTree)) missing
        rw [(Range.covers_iff.mp covers).1] at empty
        cases empty

end ScriptTree
