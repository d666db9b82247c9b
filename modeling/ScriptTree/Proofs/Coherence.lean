import ScriptTree.Proofs.Grammar.Coherence
import ScriptTree.Proofs.Grammar.Gathering
import ScriptTree.Proofs.Joining
import ScriptTree.Proofs.Placement

/-!
# Ranges and the text under them

Whatever the source, every range in what parsing yields runs forward from one end
of a character to another, within the source, and its positions are those of its
offsets.  The text under a name, a number, a string or the name of a class is what
its node is labelled with.
-/

namespace ScriptTree

/-! ## Coherent ranges -/

namespace Range

/-- A range from one end of a character of the source to another one that is not in front of it,
with the lines and columns that the source has there. -/
structure IsCoherent (source : String) (range : Range) : Prop where
  forward : range.span.start ≤ range.span.stop
  within : range.span.stop ≤ Text.byteLength source.toList
  startBoundary : (Text.splitBytes range.span.start source.toList).isSome = true
  stopBoundary : (Text.splitBytes range.span.stop source.toList).isSome = true
  start : range.start = (LineIndex.ofSource source).position range.span.start
  stop : range.stop = (LineIndex.ofSource source).position range.span.stop

/-- Whether a position is the one of an offset at which a character of the source ends. -/
def isPlaceIn (source : String) (offset : Nat) (position : Position) : Bool :=
  (Text.splitBytes offset source.toList).isSome &&
    decide (position = (LineIndex.ofSource source).position offset)

/-- A range is coherent if it runs forward between two places of the source. -/
theorem isCoherent_iff {source : String} {range : Range} :
    range.IsCoherent source ↔ range.span.start ≤ range.span.stop ∧
      isPlaceIn source range.span.start range.start = true ∧
        isPlaceIn source range.span.stop range.stop = true := by
  simp only [isPlaceIn, Bool.and_eq_true, decide_eq_true_eq]
  constructor
  · rintro ⟨forward, -, startBoundary, stopBoundary, start, stop⟩
    exact ⟨forward, ⟨startBoundary, start⟩, stopBoundary, stop⟩
  · rintro ⟨forward, ⟨startBoundary, start⟩, stopBoundary, stop⟩
    rcases Option.isSome_iff_exists.mp stopBoundary with ⟨⟨before, after⟩, split⟩
    rcases Text.eq_append_of_splitBytes split with ⟨whole, reached⟩
    refine ⟨forward, ?_, startBoundary, stopBoundary, start, stop⟩
    rw [whole, Text.byteLength_append, reached]
    exact Nat.le_add_right _ _

/-- The position of an offset between two characters is a place in the source. -/
theorem isPlaceIn_position {source : String} {before after : List Char}
    (whole : source.toList = before ++ after) :
    isPlaceIn source (Text.byteLength before)
      ((LineIndex.ofSource source).position (Text.byteLength before)) = true := by
  simp [isPlaceIn, whole, Text.splitBytes_append]

/-- The range of a slice of the source is coherent. -/
theorem isCoherent_of_slice {source : String} {before middle after : List Char}
    (whole : source.toList = before ++ middle ++ after) :
    ((LineIndex.ofSource source).range
      ⟨Text.byteLength before, Text.byteLength before + Text.byteLength middle⟩).IsCoherent
        source := by
  have start := isPlaceIn_position (whole.trans (List.append_assoc ..))
  have stop := isPlaceIn_position whole
  rw [Text.byteLength_append] at stop
  exact isCoherent_iff.mpr ⟨Nat.le_add_right _ _, start, stop⟩

/-- A position that is not the one of its offset goes down by a line; all others stay. -/
def markStray (source : String) (offset : Nat) (position : Position) : Position :=
  if isPlaceIn source offset position then position else ⟨position.line + 1, position.column⟩

/-- A range with its stray ends moved. -/
def markStrays (source : String) (range : Range) : Range :=
  ⟨range.span, markStray source range.span.start range.start,
    markStray source range.span.stop range.stop⟩

/-- Marking strays leaves the byte offsets as they are. -/
theorem isRelocation_markStrays (source : String) : IsRelocation (markStrays source) :=
  .of_isEmpty_eq (fun _ _ => rfl) (fun _ => rfl) fun _ => rfl

/-- A position is left unmarked exactly if it is the place of its offset. -/
theorem markStray_eq_iff {source : String} {offset : Nat} {position : Position} :
    markStray source offset position = position ↔ isPlaceIn source offset position = true := by
  rw [markStray]
  split
  · simp_all
  · rename_i stray
    refine iff_of_false ?_ stray
    intro same
    exact Nat.succ_ne_self _ (congrArg Position.line same)

/-- A range is left unmarked exactly if both its ends are places in the source. -/
theorem markStrays_eq_iff {source : String} {range : Range} :
    range.markStrays source = range ↔
      isPlaceIn source range.span.start range.start = true ∧
        isPlaceIn source range.span.stop range.stop = true := by
  rw [← markStray_eq_iff, ← markStray_eq_iff, markStrays]
  exact ⟨fun same => ⟨congrArg Range.start same, congrArg Range.stop same⟩,
    fun same => by rw [same.1, same.2]⟩

end Range

/-! ## Lexemes, trivia and lexical diagnostics -/

/-- The range of a slice lies in the source. -/
theorem Lexeme.IsSliceOf.isCoherent {source : String} {lexeme : Lexeme}
    (slice : lexeme.IsSliceOf source) : lexeme.range.IsCoherent source := by
  rcases slice with ⟨before, after, whole, range⟩
  rw [range]
  exact Range.isCoherent_of_slice whole

/-- The text of a slice is what stands at its range. -/
theorem Lexeme.IsSliceOf.slice_eq {source : String} {lexeme : Lexeme}
    (slice : lexeme.IsSliceOf source) :
    Text.slice lexeme.range.span.start lexeme.range.span.stop source.toList =
      some lexeme.text.toList := by
  rcases slice with ⟨before, after, whole, range⟩
  rw [range, LineIndex.range, whole, Text.slice_append]

namespace Lexing

variable {source : String}

theorem isSliceOf_of_mem {lexeme : Lexeme} (member : lexeme ∈ (ofSource source).lexemes) :
    lexeme.IsSliceOf source :=
  Lexeme.isSliceOf_of_mem_tokenize (List.mem_of_mem_filter member)

theorem isCoherent_trivia {trivia : Trivia} (member : trivia ∈ (ofSource source).trivia) :
    trivia.range.IsCoherent source := by
  rcases List.mem_filterMap.mp member with ⟨lexeme, among, found⟩
  rcases Option.map_eq_some_iff.mp found with ⟨kind, -, rfl⟩
  exact (Lexeme.isSliceOf_of_mem_tokenize among).isCoherent

theorem isCoherent_diagnostic {diagnostic : Diagnostic}
    (member : diagnostic ∈ (ofSource source).diagnostics) :
    diagnostic.range.IsCoherent source := by
  rcases List.mem_flatMap.mp member with ⟨lexeme, among, reported⟩
  rcases Lexeme.range_of_mem_problems reported with whole | ⟨string, issue, found, escape⟩
  · rw [whole]
    exact (Lexeme.isSliceOf_of_mem_tokenize among).isCoherent
  · rcases Lexeme.exists_slice_of_mem_escapeIssues among string found with
      ⟨before, after, divided, span⟩
    rw [escape, span]
    exact Range.isCoherent_of_slice divided

end Lexing

/-! ## Nodes and syntactic diagnostics -/

section

variable (source : String) (options : ParseOptions)

/-- No lexeme of a source is a stray. -/
theorem markStrays_lexeme {lexeme : Lexeme} (member : lexeme ∈ (Lexing.ofSource source).lexemes) :
    lexeme.range.markStrays source = lexeme.range :=
  Range.markStrays_eq_iff.mpr
    (Range.isCoherent_iff.mp (Lexing.isSliceOf_of_mem member).isCoherent).2

/-- The tree and the syntactic diagnostics are where they are when stray ends are moved. -/
theorem exists_reads_markStrays :
    ∃ final, Grammar.Reads .declarations (.ofLexemes (Lexing.ofSource source).lexemes)
        (parse source options).program.declarations final ∧
      (parse source options).program.declarations.map
          (Declaration.mapRanges (Range.markStrays source)) =
        (parse source options).program.declarations ∧
      final.diagnostics.map (Diagnostic.mapRange (Range.markStrays source)) =
        final.diagnostics := by
  rcases exists_reads_parse source options with ⟨final, reads, -⟩
  have start : (Range.emptyAt 0 ⟨0, 0⟩).markStrays source = .emptyAt 0 ⟨0, 0⟩ := by
    have begins : Range.isPlaceIn source 0 ⟨0, 0⟩ = true := by
      rw [← LineIndex.position_zero source]
      exact Range.isPlaceIn_position (List.nil_append _).symm
    exact Range.markStrays_eq_iff.mpr ⟨begins, begins⟩
  exact ⟨final, reads, reads.mapRanges_eq (Range.isRelocation_markStrays source) start
    fun _ => markStrays_lexeme source⟩

/-- The root spans the whole source. -/
theorem isCoherent_root : (parse source options).root.range.IsCoherent source := by
  have whole : source.toList = [] ++ source.toList ++ [] := by simp
  have coherent := Range.isCoherent_of_slice whole
  rwa [Text.byteLength, Nat.zero_add] at coherent

/-- No node below the root is a stray. -/
theorem markStrays_below_root :
    Node.Every (fun node => node.range.markStrays source = node.range)
      (parse source options).root.children := by
  rcases exists_reads_markStrays source options with ⟨-, -, same, -⟩
  rw [ParseResult.children_root]
  intro node member
  rcases List.mem_flatMap.mp member with ⟨top, among, below⟩
  rcases List.mem_map.mp among with ⟨declaration, declared, rfl⟩
  have stays := List.map_inj_left.mp (same.trans (List.map_id _).symm) declaration declared
  have fixed := declaration.toNode_mapRanges (Range.isRelocation_markStrays source)
  rw [stays] at fixed
  exact Node.every_of_mapRanges_eq fixed.symm node (by simpa using below)

/-- Every node lies in the source. -/
theorem isCoherent_node {node : Node} (member : node ∈ (parse source options).root.descendants) :
    node.range.IsCoherent source := by
  rcases (mem_descendants_root source options).mp member with rfl | below
  · exact isCoherent_root source options
  · exact Range.isCoherent_iff.mpr ⟨(arranged_below_root source options node below).forward,
      Range.markStrays_eq_iff.mp (markStrays_below_root source options node below)⟩

/-- Every token of a node lies in the source. -/
theorem isCoherent_token {node : Node} (member : node ∈ (parse source options).root.descendants)
    {placed : PlacedToken} (owned : placed ∈ node.tokens) : placed.range.IsCoherent source := by
  have held := Node.mem_held_of_mem_tokens member owned
  rcases List.mem_map.mp (held_subset_significantTokens source options held) with
    ⟨lexeme, among, rfl⟩
  exact (Lexing.isSliceOf_of_mem among).isCoherent

/-- Every diagnostic lies in the source. -/
theorem isCoherent_diagnostic {diagnostic : Diagnostic}
    (member : diagnostic ∈ (parse source options).diagnostics) :
    diagnostic.range.IsCoherent source := by
  rcases exists_reads_markStrays source options with ⟨final, reads, -, same⟩
  have among : diagnostic ∈ (parse source).diagnostics := by
    rcases options with ⟨trivia, _ | limit⟩
    · exact member
    · exact List.mem_of_mem_take member
  rw [diagnostics_parse reads, Diagnostic.mem_sorted, List.mem_append] at among
  rcases among with lexical | syntactic
  · exact Lexing.isCoherent_diagnostic lexical
  · have steady : final.Steady (.ofSource source) :=
      reads.steady ⟨located_ofSource source, by rintro _ ⟨⟩⟩
    have stays := List.map_inj_left.mp (same.trans (List.map_id _).symm) diagnostic syntactic
    exact Range.isCoherent_iff.mpr ⟨steady.forward diagnostic syntactic,
      Range.markStrays_eq_iff.mp (congrArg Diagnostic.range stays)⟩

end

/-! ## Labels -/

/-- Whether a node is labelled with the text of its token: a name, a number, a string, or a type
that a class names. -/
def Node.isVerbatim (node : Node) : Bool :=
  match node.content with
  | .identifier _ | .number _ | .string _ | .type (.named _) => true
  | _ => false

/-- A node that is labelled with the text of its token has that text in the source. -/
def Node.IsLabelledFrom (source : String) (node : Node) : Prop :=
  node.isVerbatim = true → node.isMissing = false →
    ∃ label, node.content.label? = some label ∧
      Text.slice node.range.span.start node.range.span.stop source.toList = some label.toList

/-- The labels of the leaves are what stands at their ranges. -/
theorem marksLeaves_isLabelledFrom (source : String) :
    Grammar.MarksLeaves (fun state => ∀ lexeme ∈ state.rest, lexeme.IsSliceOf source)
      (Node.IsLabelledFrom source) where
  kept := fun moves slices lexeme member => slices lexeme (moves.rest_suffix.subset member)
  plain := by
    rintro ⟨content, _, _, _⟩ parts verbatim
    have leaf : content.kind.isLeaf = true := by
      cases content <;> first | rfl | cases verbatim
    exact absurd leaf (Bool.eq_false_iff.mp parts)
  name := fun taken slices _ _ => ⟨_, rfl, (slices _ taken.mem_rest).slice_eq⟩
  nameMissing := by
    intro state slices _ written
    cases written
  type := by
    intro state next value reads slices verbatim _
    cases reads with
    | @typeTaken _ lexeme _ taken =>
      cases builtin : TypeName.builtin? lexeme.token with
      | none => exact ⟨_, rfl, (slices _ taken.mem_rest).slice_eq⟩
      | some name =>
        rw [builtin] at verbatim
        have keyword := TypeName.isBuiltin_of_builtin? builtin
        cases name with
        | named => cases keyword
        | _ => cases verbatim
    | typeMissing => cases verbatim
  literal := by
    intro state next literal lexeme taken slices verbatim _
    have slice := (slices _ taken.mem_rest).slice_eq
    cases literal with
    | identifier | number | string => exact ⟨_, rfl, slice⟩
    | boolean | error => cases verbatim

/-- Everything that parsing places in a source: nodes and the tokens that they own, trivia and
diagnostics. -/
def ParseResult.ranges (result : ParseResult) : List Range :=
  (result.root.descendants.flatMap fun node => node.range :: node.tokens.map (·.range)) ++
    result.trivia.map (·.range) ++ result.diagnostics.map (·.range)

/-- Whatever the source, all ranges in what parsing yields are coherent, and the text under a name,
a number, a string or the name of a class is the label of its node. -/
theorem isCoherent_and_isLabelledFrom_parse (source : String) (options : ParseOptions) :
    (∀ range ∈ (parse source options).ranges, range.IsCoherent source) ∧
      ∀ node ∈ (parse source options).root.descendants, node.IsLabelledFrom source := by
  constructor
  · intro range member
    rw [ParseResult.ranges, List.mem_append, List.mem_append] at member
    rcases member with (inTree | inTrivia) | inDiagnostics
    · rcases List.mem_flatMap.mp inTree with ⟨node, below, among⟩
      rcases List.mem_cons.mp among with rfl | owned
      · exact isCoherent_node source options below
      · rcases List.mem_map.mp owned with ⟨placed, token, rfl⟩
        exact isCoherent_token source options below token
    · rcases List.mem_map.mp inTrivia with ⟨trivia, kept, rfl⟩
      rcases options with ⟨_ | _, _⟩
      · cases kept
      · exact Lexing.isCoherent_trivia kept
    · rcases List.mem_map.mp inDiagnostics with ⟨diagnostic, reported, rfl⟩
      exact isCoherent_diagnostic source options reported
  · exact forall_mem_descendants_root (marksLeaves_isLabelledFrom source).spreads options
      fun _ => Lexing.isSliceOf_of_mem

end ScriptTree
