import ScriptTree.Lexeme.StringLiteral

/-!
# The division of a string literal

The two loops over the body of a literal go through the same segments: a plain run
up to a backslash, the escape there, and so on until a plain run ends the body.
The value of the literal is what the segments contribute to it, one after the
other, and its problems are those of its segments.
-/

namespace ScriptTree.StringLiteral

/-- A part of a literal's body; `tail` is the text of an escape after its backslash. -/
inductive Segment where
  | plain (run : List Char)
  | escape (meaning : Meaning) (tail : List Char)
deriving DecidableEq

namespace Segment

/-- The text of a segment. -/
def text : Segment → List Char
  | .plain run => run
  | .escape _ tail => '\\' :: tail

/-- What a segment contributes to the value of the literal. -/
def value : Segment → List Char
  | .plain run => run
  | .escape meaning tail => meaning.text tail

end Segment

/-- The division of a literal's body into plain runs and escapes. -/
def segments (text : List Char) : List Segment :=
  match _ : text.dropWhile (· ≠ '\\') with
  | [] => [.plain text]
  | _ :: rest =>
    .plain (text.takeWhile (· ≠ '\\')) :: .escape (readEscape rest).1 (cutEscape rest).1 ::
      segments (cutEscape rest).2
termination_by text.length
decreasing_by exact length_cutEscape_lt ‹_›

/-- The problems among segments that begin at the offset `base`. -/
def issuesFrom (base : Nat) : List Segment → List EscapeIssue
  | [] => []
  | segment :: rest =>
    let next := base + Text.byteLength segment.text
    match segment with
    | .plain _ => issuesFrom next rest
    | .escape meaning _ =>
      match meaning.isInvalid? with
      | none => issuesFrom next rest
      | some isInvalid => ⟨isInvalid, ⟨base, next⟩, segment.text⟩ :: issuesFrom next rest

/-- The plain run in front of an escape ends at its backslash. -/
theorem eq_append_of_dropWhile {text rest : List Char} {slash : Char}
    (found : text.dropWhile (· ≠ '\\') = slash :: rest) :
    text = text.takeWhile (· ≠ '\\') ++ '\\' :: rest := by
  have refused := List.head?_dropWhile_not (· ≠ '\\') text
  rw [found, List.head?_cons] at refused
  have isSlash : slash = '\\' := by simpa using refused
  calc
    text = text.takeWhile (· ≠ '\\') ++ text.dropWhile (· ≠ '\\') :=
      List.takeWhile_append_dropWhile.symm
    _ = text.takeWhile (· ≠ '\\') ++ '\\' :: rest := by rw [found, isSlash]

/-- A text without a backslash is one segment. -/
theorem segments_of_plain {text : List Char} (found : text.dropWhile (· ≠ '\\') = []) :
    segments text = [.plain text] := by
  unfold segments
  split
  · rfl
  · rename_i other
    cases found.symm.trans other

/-- A backslash ends a plain segment and begins an escape. -/
theorem segments_of_escape {text rest : List Char} {slash : Char}
    (found : text.dropWhile (· ≠ '\\') = slash :: rest) :
    segments text = .plain (text.takeWhile (· ≠ '\\')) ::
      .escape (readEscape rest).1 (cutEscape rest).1 :: segments (cutEscape rest).2 := by
  rw [segments]
  split
  · rename_i other
    cases found.symm.trans other
  · rename_i other
    cases found.symm.trans other
    rfl

/-- The segments of a body concatenate to the body. -/
theorem flatMap_text_segments (text : List Char) :
    (segments text).flatMap Segment.text = text := by
  fun_induction segments text with
  | case1 => simp [Segment.text]
  | case2 text _ rest found ih =>
    rw [List.flatMap_cons, List.flatMap_cons, ih, Segment.text, Segment.text, List.cons_append,
      (cutEscape_append rest).1]
    exact (eq_append_of_dropWhile found).symm

/-- The value of a body is made of what its segments contribute. -/
theorem decodeBody_eq (text : List Char) :
    decodeBody text = (segments text).flatMap Segment.value := by
  fun_induction decodeBody text with
  | case1 text found =>
    rw [segments_of_plain found]
    exact (List.append_nil text).symm
  | case2 text _ rest found ih =>
    rw [segments_of_escape found, ih]
    rfl

/-- The text of an escape takes one byte more than what is read after its backslash. -/
theorem byteLength_text_escape (meaning : Meaning) (rest : List Char) :
    Text.byteLength (Segment.escape meaning (cutEscape rest).1).text =
      1 + (readEscape rest).2 :=
  congrArg (1 + ·) (cutEscape_append rest).2

/-- The problems of a body are those of its segments. -/
theorem bodyIssues_eq (base : Nat) (text : List Char) :
    bodyIssues base text = issuesFrom base (segments text) := by
  fun_induction bodyIssues base text with
  | case1 base text found =>
    rw [segments_of_plain found]
    rfl
  | case2 base text _ rest found start stop later valid ih =>
    rw [segments_of_escape found, issuesFrom, issuesFrom, byteLength_text_escape,
      ← Nat.add_assoc, valid]
    exact ih
  | case3 base text _ rest found start stop later isInvalid invalid ih =>
    rw [segments_of_escape found, issuesFrom, issuesFrom, byteLength_text_escape,
      ← Nat.add_assoc, invalid]
    exact congrArg (List.cons _) ih

/-- A literal is decoded segment by segment. -/
theorem decode_eq (lexeme : List Char) :
    decode lexeme = (segments (body lexeme)).flatMap Segment.value :=
  decodeBody_eq (body lexeme)

/-- The issues of a literal are those of its escapes. -/
theorem escapeIssues_eq (lexeme : List Char) (base : Nat) :
    escapeIssues lexeme base = issuesFrom (base + 1) (segments (body lexeme)) :=
  bodyIssues_eq (base + 1) (body lexeme)

/-- A problem has the text and the place of one of the segments, the first of which begins at the
offset `base`. -/
def EscapeIssue.IsOf (base : Nat) (parts : List Segment) (issue : EscapeIssue) : Prop :=
  ∃ before part after, parts = before ++ part :: after ∧ issue.sequence = part.text ∧
    issue.span = ⟨base + Text.byteLength (before.flatMap Segment.text),
      base + Text.byteLength (before.flatMap Segment.text) + Text.byteLength part.text⟩

/-- An issue of later segments is an issue of all. -/
theorem EscapeIssue.IsOf.cons {base : Nat} {first : Segment} {rest : List Segment}
    {issue : EscapeIssue} (later : issue.IsOf (base + Text.byteLength first.text) rest) :
    issue.IsOf base (first :: rest) := by
  rcases later with ⟨before, part, after, rfl, sequence, span⟩
  refine ⟨first :: before, part, after, rfl, sequence, ?_⟩
  rw [List.flatMap_cons, Text.byteLength_append, ← Nat.add_assoc]
  exact span

/-- Each issue is one of some escape. -/
theorem isOf_of_mem_issuesFrom {base : Nat} {parts : List Segment} {issue : EscapeIssue}
    (member : issue ∈ issuesFrom base parts) : issue.IsOf base parts := by
  induction parts generalizing base with
  | nil => cases member
  | cons first rest ih =>
    cases first with
    | plain run => exact (ih member).cons
    | escape meaning tail =>
      rw [issuesFrom] at member
      cases found : meaning.isInvalid? with
      | none =>
        rw [found] at member
        exact (ih member).cons
      | some isInvalid =>
        rw [found] at member
        rcases List.mem_cons.mp member with rfl | later
        · exact ⟨[], .escape meaning tail, rest, rfl, rfl, rfl⟩
        · exact (ih later).cons

/-- A problem is about the text that it stands at. -/
theorem exists_of_mem_bodyIssues {base : Nat} {text : List Char} {issue : EscapeIssue}
    (member : issue ∈ bodyIssues base text) :
    ∃ before after, text = before ++ issue.sequence ++ after ∧
      issue.span = ⟨base + Text.byteLength before,
        base + Text.byteLength before + Text.byteLength issue.sequence⟩ := by
  rw [bodyIssues_eq] at member
  rcases isOf_of_mem_issuesFrom member with ⟨before, part, after, divided, sequence, span⟩
  have parts := flatMap_text_segments text
  rw [divided, List.flatMap_append, List.flatMap_cons, ← List.append_assoc, ← sequence] at parts
  rw [← sequence] at span
  exact ⟨before.flatMap Segment.text, after.flatMap Segment.text, parts.symm, span⟩

end ScriptTree.StringLiteral
