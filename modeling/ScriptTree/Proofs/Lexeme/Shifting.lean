import ScriptTree.Proofs.Lexeme.Joining
import ScriptTree.Proofs.Grammar.Parallel.State
import ScriptTree.Proofs.Lexeme.Printing
import ScriptTree.Proofs.Partition

/-!
# Places in a text that follows another

Where a text follows another one after a line feed, its first line is the line
after the last one of the other.  So all its places are as many lines and bytes
further down as the text in front of it has, and columns stay.  The places in the
text in front stay as they are.
-/

namespace ScriptTree

/-! ## Moving down by whole lines -/

/-- A position so many lines further down. -/
def Position.down (lines : Nat) (position : Position) : Position :=
  ⟨lines + position.line, position.column⟩

/-- A span so many bytes further on. -/
def Span.shift (bytes : Nat) (span : Span) : Span :=
  ⟨bytes + span.start, bytes + span.stop⟩

/-- A range so many bytes and lines further down. -/
def Range.shift (bytes lines : Nat) (range : Range) : Range :=
  ⟨range.span.shift bytes, range.start.down lines, range.stop.down lines⟩

/-- The place of a range in a text that is put on the line after the end of another text. -/
def Range.below (first : String) (range : Range) : Range :=
  range.shift (Text.byteLength first.toList + 1) (LineIndex.ofSource first).lineCount

theorem Range.isRelocation_shift (bytes lines : Nat) : IsRelocation (shift bytes lines) :=
  .of_isEmpty_eq (fun _ _ => rfl) (fun range => by simp [isEmpty, shift, Span.shift])
    fun _ => rfl

namespace LineIndex

/-- The lines of two texts are those of the first one and, further on, those of the second one. -/
theorem startsFrom_append (offset : Nat) (first second : List Char) :
    startsFrom offset (first ++ second) =
      startsFrom offset first ++ startsFrom (offset + Text.byteLength first) second := by
  induction first generalizing offset with
  | nil => rfl
  | cons character rest ih =>
    rw [List.cons_append, startsFrom, startsFrom, ih, Text.byteLength, Nat.add_assoc]
    split <;> rfl

/-- Further on, lines start so much further on. -/
theorem startsFrom_add (bytes offset : Nat) (text : List Char) :
    startsFrom (bytes + offset) text = (startsFrom offset text).map (bytes + ·) := by
  induction text generalizing offset with
  | nil => rfl
  | cons character rest ih =>
    rw [startsFrom, startsFrom, Nat.add_assoc, ih]
    split <;> rfl

/-- A line starts where the one before it has ended. -/
theorem le_of_mem_startsFrom {offset next : Nat} {text : List Char}
    (member : next ∈ startsFrom offset text) : next ≤ offset + Text.byteLength text := by
  induction text generalizing offset with
  | nil => cases member
  | cons character rest ih =>
    rw [Text.byteLength, ← Nat.add_assoc]
    rw [startsFrom] at member
    split at member
    · rcases List.mem_cons.mp member with rfl | later
      · exact Nat.le_add_right _ _
      · exact ih later
    · exact ih member

/-- An offset in front of later lines is located without them. -/
theorem locate_append_of_lt {line start offset : Nat} {starts later : List Nat}
    (before : ∀ next ∈ later, offset < next) :
    locate line start offset (starts ++ later) = locate line start offset starts := by
  induction starts generalizing line start with
  | nil =>
    cases later with
    | nil => rfl
    | cons next later => exact if_neg (Nat.not_le.mpr (before next List.mem_cons_self))
  | cons next starts ih => rw [List.cons_append, locate, locate, ih]

/-- An offset behind earlier lines is located from the last of them. -/
theorem locate_append_of_le {line start offset next : Nat} {starts later : List Nat}
    (behind : ∀ next ∈ starts, next ≤ offset) (reached : next ≤ offset) :
    locate line start offset (starts ++ next :: later) =
      locate (line + (starts.length + 1)) next offset later := by
  induction starts generalizing line start with
  | nil => rw [List.nil_append, locate, if_pos reached]; rfl
  | cons head starts ih =>
    rw [List.cons_append, locate, if_pos (behind head List.mem_cons_self),
      ih fun next member => behind next (List.mem_cons_of_mem _ member), List.length_cons,
      Nat.add_assoc, Nat.add_comm 1]

/-- Further on and further down, an offset is located so much further down. -/
theorem locate_add (lines bytes line start offset : Nat) (starts : List Nat) :
    locate (lines + line) (bytes + start) (bytes + offset) (starts.map (bytes + ·)) =
      (locate line start offset starts).down lines := by
  induction starts generalizing line start with
  | nil => rw [List.map_nil, locate, locate, Position.down, Nat.add_sub_add_left]
  | cons next starts ih =>
    rw [List.map_cons, locate, locate, Nat.add_assoc, ih]
    simp only [Nat.add_le_add_iff_left]
    split
    · rfl
    · rw [Position.down, Nat.add_sub_add_left]

variable (first second : String)

/-- The lines of a text that follows another one come after its lines. -/
theorem laterStarts_joined :
    (ofSource (first ++ "\n" ++ second)).laterStarts =
      (ofSource first).laterStarts ++ (Text.byteLength first.toList + 1) ::
        (ofSource second).laterStarts.map (Text.byteLength first.toList + 1 + ·) := by
  have text : (first ++ "\n" ++ second).toList = first.toList ++ '\n' :: second.toList := by simp
  rw [laterStarts_ofSource, laterStarts_ofSource, laterStarts_ofSource, text, startsFrom_append,
    Nat.zero_add, startsFrom, if_pos rfl, ← startsFrom_add]
  rfl

/-- Positions in the first source stay what they are when another one is joined to it. -/
theorem position_joined_of_le {offset : Nat} (within : offset ≤ Text.byteLength first.toList) :
    (ofSource (first ++ "\n" ++ second)).position offset = (ofSource first).position offset := by
  rw [position_eq_locate, laterStarts_joined, position_eq_locate]
  refine locate_append_of_lt fun next member => ?_
  rcases List.mem_cons.mp member with rfl | later
  · exact Nat.lt_succ_of_le within
  · rcases List.mem_map.mp later with ⟨start, -, rfl⟩
    omega

/-- Positions in the second source go down by the lines of the first one. -/
theorem position_joined_add (offset : Nat) :
    (ofSource (first ++ "\n" ++ second)).position (Text.byteLength first.toList + 1 + offset) =
      ((ofSource second).position offset).down (ofSource first).lineCount := by
  have behind : ∀ next ∈ (ofSource first).laterStarts,
      next ≤ Text.byteLength first.toList + 1 + offset := by
    intro next member
    have reached := le_of_mem_startsFrom member
    omega
  rw [position_eq_locate, laterStarts_joined, locate_append_of_le behind (Nat.le_add_right _ _),
    position_eq_locate, ← locate_add, lineCount_eq, Nat.zero_add]

/-- Ranges in the first source stay what they are. -/
theorem range_joined_of_le {span : Span} (ordered : span.start ≤ span.stop)
    (within : span.stop ≤ Text.byteLength first.toList) :
    (ofSource (first ++ "\n" ++ second)).range span = (ofSource first).range span := by
  rw [range, range, position_joined_of_le _ _ within,
    position_joined_of_le _ _ (Nat.le_trans ordered within)]

/-- Ranges in the second source go below the first one. -/
theorem range_joined_below (span : Span) :
    (ofSource (first ++ "\n" ++ second)).range (span.shift (Text.byteLength first.toList + 1)) =
      ((ofSource second).range span).below first := by
  rw [range, Span.shift, position_joined_add, position_joined_add]
  rfl

end LineIndex

/-! ## Problems with escapes -/

namespace StringLiteral

/-- What is between the quotes comes right after the opening one. -/
theorem body_prefix (lexeme : List Char) : body ('"' :: lexeme) <+: lexeme := by
  show (if isTerminated ('"' :: lexeme) then lexeme.dropLast else lexeme) <+: lexeme
  split
  · exact List.dropLast_prefix lexeme
  · exact List.prefix_rfl

/-- Further on, escapes have the same issues further on. -/
theorem issuesFrom_add (bytes base : Nat) (parts : List Segment) :
    issuesFrom (bytes + base) parts =
      (issuesFrom base parts).map fun issue => { issue with span := issue.span.shift bytes } := by
  induction parts generalizing base with
  | nil => rfl
  | cons part rest ih =>
    cases part with
    | plain run =>
      rw [issuesFrom, issuesFrom, Nat.add_assoc, ih]
    | escape meaning tail =>
      rw [issuesFrom, issuesFrom, Nat.add_assoc, ih]
      cases meaning.isInvalid? <;> rfl

/-- The problems of a literal move with it. -/
theorem escapeIssues_add (lexeme : List Char) (bytes base : Nat) :
    escapeIssues lexeme (bytes + base) =
      (escapeIssues lexeme base).map fun issue =>
        { issue with span := issue.span.shift bytes } := by
  rw [escapeIssues_eq, escapeIssues_eq, Nat.add_assoc, issuesFrom_add]

end StringLiteral

/-! ## Lexemes in joined texts -/

namespace Piece

/-- What is cut as a string literal was scanned behind its opening quote. -/
theorem cut_of_string {first : Char} {rest : List Char}
    (found : (cut first rest).1.token = .string) :
    first = '"' ∧ (cut first rest).1.text = '"' :: (stringTail rest).1 := by
  revert found
  fun_cases cut first rest with
  | case1 => exact fun found => absurd found (Keyword.classify_ne _ rfl (by decide))
  | case2 | case3 => rintro ⟨⟩
  | case4 _ _ _ quote => exact fun _ => ⟨quote, rfl⟩
  | case5 => exact fun found => absurd found (token_symbol_ne (by decide))

/-- A string begins with a quote. -/
theorem text_of_string {text : List Char} {piece : Piece} (member : piece ∈ all text)
    (found : piece.token = .string) : ∃ body, piece.text = '"' :: body := by
  rcases exists_cut_of_mem_all member with ⟨first, rest, rfl⟩
  exact ⟨_, (cut_of_string found).2⟩

end Piece

namespace Lexeme

variable (first second : String)

/-- Pieces of the first source are placed as before. -/
theorem place_joined_front {offset : Nat} {pieces : List Piece}
    (within : offset + Text.byteLength (pieces.flatMap Piece.text) ≤
      Text.byteLength first.toList) :
    place (.ofSource (first ++ "\n" ++ second)) offset pieces =
      place (.ofSource first) offset pieces := by
  induction pieces generalizing offset with
  | nil => rfl
  | cons piece rest ih =>
    rw [List.flatMap_cons, Text.byteLength_append, ← Nat.add_assoc] at within
    rw [place, place, ih within, LineIndex.range_joined_of_le _ _ (Nat.le_add_right _ _)
      (Nat.le_trans (Nat.le_add_right _ _) within)]

/-- Pieces of the second source are placed below the first one. -/
theorem place_joined_back (offset : Nat) (pieces : List Piece) :
    place (.ofSource (first ++ "\n" ++ second)) (Text.byteLength first.toList + 1 + offset) pieces =
      (place (.ofSource second) offset pieces).map (mapRange (Range.below first)) := by
  induction pieces generalizing offset with
  | nil => rfl
  | cons piece rest ih =>
    have range := LineIndex.range_joined_below first second
      ⟨offset, offset + Text.byteLength piece.text⟩
    rw [place, place, List.map_cons, Nat.add_assoc _ offset, ih]
    exact congrArg (fun range => Lexeme.mk ⟨piece.token, range⟩ _ :: _) range

/-- A lexeme is as long as its text and ends within its source. -/
theorem range_of_mem_tokenize {source : String} {lexeme : Lexeme}
    (member : lexeme ∈ tokenize (.ofSource source) source) :
    lexeme.range.span.stop =
        lexeme.range.span.start + Text.byteLength lexeme.text.toList ∧
      lexeme.range.span.stop ≤ Text.byteLength source.toList := by
  rcases isSliceOf_of_mem_tokenize member with ⟨before, after, whole, range⟩
  have length := congrArg Text.byteLength whole
  rw [Text.byteLength_append, Text.byteLength_append] at length
  rw [range]
  exact ⟨rfl, length ▸ Nat.le_add_right _ _⟩

/-- A problem with an escape is about a slice of the source. -/
theorem exists_slice_of_mem_escapeIssues {source : String} {lexeme : Lexeme}
    (member : lexeme ∈ tokenize (.ofSource source) source) (string : lexeme.token = .string)
    {issue : StringLiteral.EscapeIssue} (among : issue ∈
      StringLiteral.escapeIssues lexeme.text.toList lexeme.range.span.start) :
    ∃ before after, source.toList = before ++ issue.sequence ++ after ∧
      issue.span =
        ⟨Text.byteLength before, Text.byteLength before + Text.byteLength issue.sequence⟩ := by
  rcases exists_piece_of_mem_place member with ⟨piece, written, token, text⟩
  rcases Piece.text_of_string written (token.symm.trans string) with ⟨inner, quoted⟩
  have spelled : lexeme.text.toList = '"' :: inner := by rw [text, String.toList_ofList, quoted]
  rcases isSliceOf_of_mem_tokenize member with ⟨front, back, whole, range⟩
  rw [spelled, range] at among
  rcases StringLiteral.exists_of_mem_bodyIssues among with ⟨before, after, divided, span⟩
  rcases StringLiteral.body_prefix inner with ⟨last, ended⟩
  refine ⟨front ++ '"' :: before, after ++ last ++ back, ?_, ?_⟩
  · rw [whole, spelled, ← ended, divided]
    simp
  · rw [span, Text.byteLength_append, Text.byteLength, ← Nat.add_assoc]
    rfl

/-- The problems with the escapes of a string are within it. -/
theorem le_of_mem_escapeIssues {source : String} {lexeme : Lexeme}
    (member : lexeme ∈ tokenize (.ofSource source) source) (string : lexeme.token = .string)
    {issue : StringLiteral.EscapeIssue} (among : issue ∈
      StringLiteral.escapeIssues lexeme.text.toList lexeme.range.span.start) :
    issue.span.start ≤ issue.span.stop ∧
      issue.span.stop ≤ Text.byteLength source.toList := by
  rcases exists_slice_of_mem_escapeIssues member string among with
    ⟨before, after, whole, span⟩
  rw [whole, Text.byteLength_append, Text.byteLength_append, span]
  exact ⟨Nat.le_add_right _ _, Nat.le_add_right _ _⟩

/-- The problems of a lexeme in front stay where they are. -/
theorem problems_joined_front {lexeme : Lexeme}
    (member : lexeme ∈ tokenize (.ofSource first) first) :
    problems (.ofSource (first ++ "\n" ++ second)) lexeme =
      problems (.ofSource first) lexeme := by
  unfold problems
  cases string : lexeme.token with
  | string =>
    dsimp only
    rw [stringProblems, stringProblems, List.map_congr_left fun issue among => ?_]
    rcases le_of_mem_escapeIssues member string among with ⟨ordered, within⟩
    rw [LineIndex.range_joined_of_le _ _ ordered within]
  | _ => rfl

/-- A problem is about the whole lexeme or about an escape in a string. -/
theorem range_of_mem_problems {index : LineIndex} {lexeme : Lexeme} {diagnostic : Diagnostic}
    (reported : diagnostic ∈ problems index lexeme) :
    diagnostic.range = lexeme.range ∨
      lexeme.token = .string ∧
        ∃ issue ∈ StringLiteral.escapeIssues lexeme.text.toList lexeme.range.span.start,
          diagnostic.range = index.range issue.span := by
  unfold problems at reported
  split at reported
  case h_1 string =>
    rw [stringProblems] at reported
    split at reported
    · rcases List.mem_map.mp reported with ⟨issue, among, rfl⟩
      exact .inr ⟨string, issue, among, rfl⟩
    · rcases List.mem_append.mp reported with escape | ending
      · rcases List.mem_map.mp escape with ⟨issue, among, rfl⟩
        exact .inr ⟨string, issue, among, rfl⟩
      · exact .inl (congrArg Diagnostic.range (List.mem_singleton.mp ending))
  case h_2 =>
    split at reported
    · cases reported
    · exact .inl (congrArg Diagnostic.range (List.mem_singleton.mp reported))
  case h_3 | h_4 | h_5 =>
    exact .inl (congrArg Diagnostic.range (List.mem_singleton.mp reported))
  case h_6 => cases reported

/-- What a lexeme reports starts within the source. -/
theorem start_le_of_mem_problems {source : String} {lexeme : Lexeme}
    (member : lexeme ∈ tokenize (.ofSource source) source) {diagnostic : Diagnostic}
    (reported : diagnostic ∈ problems (.ofSource source) lexeme) :
    diagnostic.range.span.start ≤ Text.byteLength source.toList := by
  rcases range_of_mem_problems reported with whole | ⟨string, issue, among, escape⟩
  · rcases range_of_mem_tokenize member with ⟨width, inside⟩
    rw [whole]
    omega
  · rcases le_of_mem_escapeIssues member string among with ⟨ordered, within⟩
    rw [escape]
    exact Nat.le_trans ordered within

/-- The problems of a string of the second source go below the first one. -/
theorem stringProblems_joined_back (lexeme : Lexeme) :
    stringProblems (.ofSource (first ++ "\n" ++ second)) (lexeme.mapRange (Range.below first)) =
      (stringProblems (.ofSource second) lexeme).map (Diagnostic.mapRange (Range.below first)) := by
  have issues : StringLiteral.escapeIssues lexeme.text.toList
        (lexeme.mapRange (Range.below first)).range.span.start =
      (StringLiteral.escapeIssues lexeme.text.toList lexeme.range.span.start).map fun issue =>
        { issue with span := issue.span.shift (Text.byteLength first.toList + 1) } :=
    StringLiteral.escapeIssues_add ..
  have text : (lexeme.mapRange (Range.below first)).text = lexeme.text := rfl
  have reported : ∀ found : List StringLiteral.EscapeIssue,
      (found.map fun issue =>
          { issue with span := issue.span.shift (Text.byteLength first.toList + 1) }).map
        (fun issue => ({
          range := (LineIndex.ofSource (first ++ "\n" ++ second)).range issue.span
          problem := escapeProblem issue } : Diagnostic)) =
      (found.map fun issue => ({
          range := (LineIndex.ofSource second).range issue.span
          problem := escapeProblem issue } : Diagnostic)).map
        (Diagnostic.mapRange (Range.below first)) := by
    intro found
    rw [List.map_map, List.map_map]
    refine List.map_congr_left fun issue _ => ?_
    exact congrArg (fun range => Diagnostic.mk range (escapeProblem issue) _)
      (LineIndex.range_joined_below first second issue.span)
  rw [stringProblems, stringProblems, text, issues, reported]
  split
  · rfl
  · rw [List.map_append]
    rfl

/-- The problems of a lexeme behind move with it. -/
theorem problems_joined_back (lexeme : Lexeme) :
    problems (.ofSource (first ++ "\n" ++ second)) (lexeme.mapRange (Range.below first)) =
      (problems (.ofSource second) lexeme).map (Diagnostic.mapRange (Range.below first)) := by
  have token : (lexeme.mapRange (Range.below first)).token = lexeme.token := rfl
  unfold problems
  rw [token]
  cases lexeme.token with
  | string => exact stringProblems_joined_back first second lexeme
  | blockComment =>
    dsimp only
    split <;> simp_all [mapRange, Diagnostic.mapRange]
  | _ => rfl

end Lexeme

/-! ## Lexemes of joined sources -/

namespace Lexeme

variable {first : String} (second : String)
  (closed : ∀ piece ∈ Piece.all first.toList, piece.IsClosed)

theorem visible_mapRange (move : Range → Range) (lexemes : List Lexeme) :
    visible (lexemes.map (mapRange move)) = (visible lexemes).map (mapRange move) := by
  rw [visible, List.filter_map]
  rfl

include closed

/-- The visible lexemes of two joined sources are those of both. -/
theorem visible_tokenize_joined :
    visible (tokenize (.ofSource (first ++ "\n" ++ second)) (first ++ "\n" ++ second)) =
      visible (tokenize (.ofSource first) first) ++
        (visible (tokenize (.ofSource second) second)).map (mapRange (Range.below first)) := by
  have text : (first ++ "\n" ++ second).toList = first.toList ++ '\n' :: second.toList := by simp
  have within : 0 + Text.byteLength ((Piece.all first.toList).flatMap Piece.text) ≤
      Text.byteLength first.toList := by
    rw [Piece.flatMap_text_all, Nat.zero_add]
  have back := place_joined_back first second 0 (Piece.all second.toList)
  rw [tokenize, text, visible_place_lineFeed _ closed, place_joined_front _ _ within, Nat.zero_add,
    ← Nat.add_zero (_ + 1), back, visible_mapRange]
  rfl

end Lexeme

namespace Lexing

variable {first : String} (second : String)
  (closed : ∀ piece ∈ Piece.all first.toList, piece.IsClosed)

include closed

/-- The lexemes of two joined sources are those of both. -/
theorem lexemes_joined :
    (ofSource (first ++ "\n" ++ second)).lexemes =
      (ofSource first).lexemes ++
        (ofSource second).lexemes.map (Lexeme.mapRange (Range.below first)) := by
  rw [ofSource, lexemes_ofLexemes, Lexeme.visible_tokenize_joined second closed,
    List.filter_append, List.filter_map, ofSource, lexemes_ofLexemes, ofSource, lexemes_ofLexemes]
  rfl

/-- The diagnostics of two joined sources are those of both. -/
theorem diagnostics_joined :
    (ofSource (first ++ "\n" ++ second)).diagnostics =
      (ofSource first).diagnostics ++
        (ofSource second).diagnostics.map (Diagnostic.mapRange (Range.below first)) := by
  have front : ∀ lexeme ∈ Lexeme.visible (Lexeme.tokenize (.ofSource first) first),
      Lexeme.problems (.ofSource (first ++ "\n" ++ second)) lexeme =
        Lexeme.problems (.ofSource first) lexeme :=
    fun lexeme member => Lexeme.problems_joined_front _ _ (List.mem_of_mem_filter member)
  rw [ofSource, diagnostics_ofLexemes, Lexeme.visible_tokenize_joined second closed,
    List.flatMap_append, List.flatMap_map, ofSource, diagnostics_ofLexemes, ofSource,
    diagnostics_ofLexemes, List.map_flatMap]
  simp only [Lexeme.problems_joined_back]
  rw [List.flatMap_congr front]

end Lexing

end ScriptTree
