import ScriptTree.Proofs.Lexeme.Shifting

/-!
# What closes strings and comments

The scan of a string literal goes forward from the opening quote, and a backslash
takes the next character along.  Whether the literal is terminated is found out
from its text alone, backward from its last quote.  The two agree: each step of
the scan keeps the parity of the backslashes that are counted in the end.  A block
comment is terminated if there is a closing marker behind the opening one, which
has to be a marker of its own.

So what is reported of strings and comments that are not terminated is reported of
those whose scan found nothing that closes them, once for each and in order.
-/

namespace ScriptTree

/-! ## String literals -/

/-- What stops the scan of a string literal. -/
inductive StringEnd where
  | closingQuote
  | lineBreak
  | endOfText
deriving DecidableEq

namespace Piece

variable {text taken left : List Char} {stop : StringEnd}

/-- The scan of a string literal, step by step from behind its opening quote: the text, what the
scan takes of it, what stops the scan, and what is left. -/
inductive Scans : List Char → List Char → StringEnd → List Char → Prop
  | quote (rest : List Char) : Scans ('"' :: rest) ['"'] .closingQuote rest
  | lineBreak {character : Char} (breaks : isLineBreak character = true) (rest : List Char) :
      Scans (character :: rest) [] .lineBreak (character :: rest)
  | ending : Scans [] [] .endOfText []
  | escape {escaped : Char} {rest taken left : List Char} {stop : StringEnd}
      (plain : isLineBreak escaped = false) (further : Scans rest taken stop left) :
      Scans ('\\' :: escaped :: rest) ('\\' :: escaped :: taken) stop left
  /-- A backslash takes no line break along. -/
  | backslash {rest taken left : List Char} {stop : StringEnd}
      (alone : ∀ next ∈ rest.head?, isLineBreak next = true)
      (further : Scans rest taken stop left) : Scans ('\\' :: rest) ('\\' :: taken) stop left
  | plain {character : Char} {rest taken left : List Char} {stop : StringEnd}
      (quote : character ≠ '"') (slash : character ≠ '\\')
      (unbroken : isLineBreak character = false) (further : Scans rest taken stop left) :
      Scans (character :: rest) (character :: taken) stop left

/-- What is cut as a string literal is what the scan takes. -/
theorem exists_scans_stringTail (text : List Char) :
    ∃ stop, Scans text (stringTail text).1 stop (stringTail text).2 := by
  fun_induction stringTail text with
  | case1 => exact ⟨_, .ending⟩
  | case2 rest => exact ⟨_, .quote rest⟩
  | case3 escaped rest breaks =>
    refine ⟨_, .backslash ?_ (.lineBreak breaks rest)⟩
    rintro _ ⟨⟩
    exact breaks
  | case4 escaped rest plain ih =>
    rcases ih with ⟨stop, scans⟩
    exact ⟨stop, .escape (Bool.eq_false_iff.mpr plain) scans⟩
  | case5 character rest _ _ breaks => exact ⟨_, .lineBreak breaks rest⟩
  | case6 character rest quote slash plain ih =>
    rcases ih with ⟨stop, scans⟩
    by_cases backslash : character = '\\'
    · subst backslash
      refine ⟨stop, .backslash ?_ scans⟩
      intro next member
      cases rest with
      | nil => cases member
      | cons escaped rest => exact absurd rfl (slash escaped rest rfl)
    · exact ⟨stop, .plain quote backslash (Bool.eq_false_iff.mpr plain) scans⟩

/-- A backslash that takes nothing along is the last character of its literal. -/
theorem Scans.eq_nil_of_alone (scans : Scans text taken stop left)
    (alone : ∀ next ∈ text.head?, isLineBreak next = true) :
    taken = [] ∧ stop ≠ .closingQuote := by
  cases scans with
  | lineBreak | ending => exact ⟨rfl, by rintro ⟨⟩⟩
  | quote | escape | backslash => cases alone _ rfl
  | plain _ _ unbroken =>
    rw [alone _ rfl] at unbroken
    cases unbroken

/-- The scan stops at a closing quote if and only if what it takes ends in a quote with an even
number of backslashes in front of it. -/
theorem Scans.endsQuoted_iff (scans : Scans text taken stop left) :
    EndsQuoted taken ↔ stop = .closingQuote := by
  have none : ¬EndsQuoted [] := by
    rintro ⟨inner, whole, -⟩
    simp at whole
  induction scans with
  | quote => exact iff_of_true ⟨[], rfl, rfl⟩ rfl
  | lineBreak | ending => exact iff_of_false none (by rintro ⟨⟩)
  | escape _ _ ih => exact endsQuoted_escape_iff.trans ih
  | backslash alone further =>
    rcases further.eq_nil_of_alone alone with ⟨rfl, other⟩
    refine iff_of_false ?_ other
    rintro ⟨_ | ⟨first, inner⟩, whole, -⟩ <;> simp at whole
  | plain quote slash _ _ ih => exact (endsQuoted_plain_iff slash quote).trans ih

/-- A literal is terminated if and only if its scan stops at a closing quote. -/
theorem Scans.isTerminated_iff (scans : Scans text taken stop left) :
    StringLiteral.isTerminated ('"' :: taken) = true ↔ stop = .closingQuote :=
  isTerminated_iff_endsQuoted.trans scans.endsQuoted_iff

/-! ## Block comments -/

/-- A comment ends in its closing marker if and only if there is one behind its opening marker. -/
theorem suffix_commentTail_iff (text : List Char) :
    ['*', '/'] <:+ (commentTail text).1 ↔ ['*', '/'] <:+: text := by
  constructor
  · intro closed
    rw [← commentTail_append text]
    exact closed.isInfix.trans (List.prefix_append ..).isInfix
  · intro within
    fun_induction commentTail text with
    | case1 => exact absurd within (by decide)
    | case2 => exact List.suffix_rfl
    | case3 character rest goesOn ih =>
      rcases List.infix_cons_iff.mp within with front | later
      · rcases front with ⟨further, same⟩
        rw [List.cons_append, List.cons.injEq] at same
        exact absurd same.2.symm (goesOn _ same.1.symm)
      · exact (ih later).trans (List.suffix_cons ..)

/-- A comment is terminated if and only if there is a closing marker behind its opening one. -/
theorem isTerminatedComment_iff (text : List Char) :
    StringLiteral.isTerminatedComment ('/' :: '*' :: (commentTail text).1) = true ↔
      ['*', '/'] <:+: text := by
  rw [← suffix_commentTail_iff]
  refine ⟨suffix_of_isTerminatedComment, ?_⟩
  rintro ⟨inner, whole⟩
  have opening : Text.byteLength ['/', '*'] = 2 := rfl
  have closing : Text.byteLength ['*', '/'] = 2 := rfl
  have long : 4 ≤ Text.byteLength (['/', '*'] ++ (inner ++ ['*', '/'])) := by
    rw [Text.byteLength_append, Text.byteLength_append, opening, closing]
    omega
  have ends : ['*', '/'] <:+ ['/', '*'] ++ (inner ++ ['*', '/']) := by
    rw [← List.append_assoc]
    exact List.suffix_append ..
  rw [← whole, StringLiteral.isTerminatedComment, Bool.and_eq_true, decide_eq_true_eq,
    List.isSuffixOf_iff_suffix]
  exact ⟨long, ends⟩

/-- What is cut as a block comment was scanned behind its opening marker. -/
theorem cut_of_blockComment {first : Char} {rest : List Char}
    (found : (cut first rest).1.token = .blockComment) :
    ∃ text, first :: rest = '/' :: '*' :: text ∧
      (cut first rest).1.text = '/' :: '*' :: (commentTail text).1 := by
  revert found
  fun_cases cut first rest with
  | case1 => exact fun found => absurd found (Keyword.classify_ne _ rfl (by decide))
  | case2 | case3 | case4 => rintro ⟨⟩
  | case5 =>
    fun_cases symbol first rest with
    | case1 second rest token pair =>
      rintro rfl
      unfold pairToken? at pair
      split at pair <;> cases pair
    | case2 | case5 => rintro ⟨⟩
    | case3 second rest _ _ marker =>
      rcases marker with ⟨rfl, rfl⟩
      exact fun _ => ⟨rest, rfl, rfl⟩
    | case4 second rest _ _ _ token single =>
      rintro rfl
      unfold singleToken? at single
      split at single <;> cases single
    | case6 =>
      intro found
      unfold singleToken? at found
      split at found <;> cases found

end Piece

/-! ## Lexemes that are not closed -/

namespace Lexeme

variable {source : String} {lexeme : Lexeme}

/-- There is a quote at the place of a lexeme, the scan of the text behind it takes the text of the
lexeme, and this is what stops it. -/
def StopsAt (source : String) (stop : StringEnd) (lexeme : Lexeme) : Prop :=
  ∃ before text, source.toList = before ++ '"' :: text ∧
    lexeme.range.span.start = Text.byteLength before ∧
    lexeme.text.toList = '"' :: (Piece.stringTail text).1 ∧
    Piece.Scans text (Piece.stringTail text).1 stop (Piece.stringTail text).2

/-- At the place of a lexeme there are an opening marker and some text behind it. -/
def OpensComment (source : String) (text : List Char) (lexeme : Lexeme) : Prop :=
  ∃ before, source.toList = before ++ '/' :: '*' :: text ∧
    lexeme.range.span.start = Text.byteLength before

/-- A string is terminated exactly if it stops at a quote. -/
theorem StopsAt.isTerminated_iff {stop : StringEnd} (stops : lexeme.StopsAt source stop) :
    StringLiteral.isTerminated lexeme.text.toList = true ↔ stop = .closingQuote := by
  rcases stops with ⟨before, text, -, -, written, scans⟩
  rw [written]
  exact scans.isTerminated_iff

/-- Every string stops at something. -/
theorem exists_stopsAt (member : lexeme ∈ tokenize (.ofSource source) source)
    (string : lexeme.token = .string) : ∃ stop, lexeme.StopsAt source stop := by
  rcases exists_cut_of_mem_tokenize member with
    ⟨before, first, rest, whole, start, token, written⟩
  rcases Piece.cut_of_string (token.symm.trans string) with ⟨rfl, taken⟩
  rcases Piece.exists_scans_stringTail rest with ⟨stop, scans⟩
  exact ⟨stop, before, rest, whole, start, written.trans taken, scans⟩

/-- Every block comment opens somewhere, and is terminated if the text after that has an end. -/
theorem exists_opensComment (member : lexeme ∈ tokenize (.ofSource source) source)
    (comment : lexeme.token = .blockComment) :
    ∃ text, lexeme.OpensComment source text ∧
      (StringLiteral.isTerminatedComment lexeme.text.toList = true ↔ ['*', '/'] <:+: text) := by
  rcases exists_cut_of_mem_tokenize member with
    ⟨before, first, rest, whole, start, token, written⟩
  rcases Piece.cut_of_blockComment (token.symm.trans comment) with ⟨text, opens, taken⟩
  refine ⟨text, ⟨before, opens ▸ whole, start⟩, ?_⟩
  rw [written, taken]
  exact Piece.isTerminatedComment_iff text

/-- There is one text behind the opening marker of a comment. -/
theorem OpensComment.unique {text other : List Char} (opens : lexeme.OpensComment source text)
    (alsoOpens : lexeme.OpensComment source other) : text = other := by
  rcases opens with ⟨before, whole, start⟩
  rcases alsoOpens with ⟨front, divided, alsoStart⟩
  have split := Text.splitBytes_append before ('/' :: '*' :: text)
  rw [← whole, ← start, alsoStart, divided, Text.splitBytes_append] at split
  simpa using (Prod.mk.inj (Option.some.inj split)).2.symm

/-- A block comment is terminated exactly if the text after its opening has an end. -/
theorem OpensComment.isTerminatedComment_iff {text : List Char}
    (opens : lexeme.OpensComment source text)
    (member : lexeme ∈ tokenize (.ofSource source) source)
    (comment : lexeme.token = .blockComment) :
    StringLiteral.isTerminatedComment lexeme.text.toList = true ↔ ['*', '/'] <:+: text := by
  rcases exists_opensComment member comment with ⟨other, alsoOpens, closed⟩
  rwa [opens.unique alsoOpens]

/-- What is wrong with a lexeme that is not closed: the scan of a string literal that does not stop
at a closing quote, or no closing marker behind the opening marker of a comment. -/
inductive IsUnclosed (source : String) (lexeme : Lexeme) : Problem → Prop
  | string {stop : StringEnd} (string : lexeme.token = .string)
      (stops : lexeme.StopsAt source stop) (unquoted : stop ≠ .closingQuote) :
      IsUnclosed source lexeme .unterminatedString
  | comment {text : List Char} (comment : lexeme.token = .blockComment)
      (opens : lexeme.OpensComment source text) (unmarked : ¬['*', '/'] <:+: text) :
      IsUnclosed source lexeme .unterminatedComment

/-- A lexeme that is not closed, by its token and its text alone. -/
def unclosed (problem : Problem) (lexeme : Lexeme) : Bool :=
  match problem with
  | .unterminatedString =>
    lexeme.token = .string && !StringLiteral.isTerminated lexeme.text.toList
  | .unterminatedComment =>
    lexeme.token = .blockComment && !StringLiteral.isTerminatedComment lexeme.text.toList
  | _ => false

/-- A problem with the end of a lexeme is found exactly where the lexeme has no end. -/
theorem unclosed_iff (member : lexeme ∈ tokenize (.ofSource source) source) (problem : Problem) :
    lexeme.unclosed problem = true ↔ lexeme.IsUnclosed source problem := by
  constructor
  · intro unclosed
    cases problem with
    | unterminatedString =>
      simp only [Lexeme.unclosed, Bool.and_eq_true, decide_eq_true_eq, Bool.not_eq_true']
        at unclosed
      rcases exists_stopsAt member unclosed.1 with ⟨stop, stops⟩
      refine .string unclosed.1 stops fun closed => ?_
      rw [stops.isTerminated_iff.mpr closed] at unclosed
      cases unclosed.2
    | unterminatedComment =>
      simp only [Lexeme.unclosed, Bool.and_eq_true, decide_eq_true_eq, Bool.not_eq_true']
        at unclosed
      rcases exists_opensComment member unclosed.1 with ⟨text, opens, terminated⟩
      refine .comment unclosed.1 opens fun closed => ?_
      rw [terminated.mpr closed] at unclosed
      cases unclosed.2
    | _ => cases unclosed
  · rintro (⟨string, stops, unquoted⟩ | ⟨comment, opens, unmarked⟩)
    · have unterminated := Bool.eq_false_iff.mpr (mt stops.isTerminated_iff.mp unquoted)
      simp [unclosed, string, unterminated]
    · have closes := opens.isTerminatedComment_iff member comment
      have unterminated := Bool.eq_false_iff.mpr (mt closes.mp unmarked)
      simp [unclosed, comment, unterminated]

/-! ## What is reported -/

/-- Of the problems of a string literal at most one is that it is not closed, and that one is its
last. -/
theorem filter_stringProblems_unclosed {problem : Problem}
    (closing : problem ∈ [.unterminatedString, .unterminatedComment]) (index : LineIndex)
    (string : lexeme.token = .string) :
    (stringProblems index lexeme).filter (fun diagnostic => diagnostic.problem = problem) =
      if lexeme.unclosed problem then [{ range := lexeme.range, problem }] else [] := by
  have escapes : ∀ issues : List StringLiteral.EscapeIssue,
      (issues.map fun issue =>
          ({ range := index.range issue.span, problem := escapeProblem issue } : Diagnostic)).filter
        (fun diagnostic => diagnostic.problem = problem) = [] := by
    intro issues
    refine List.filter_eq_nil_iff.mpr fun diagnostic member => ?_
    rcases List.mem_map.mp member with ⟨issue, -, rfl⟩
    rw [decide_eq_true_eq]
    rintro rfl
    unfold escapeProblem at closing
    split at closing <;> simp at closing
  unfold stringProblems
  rcases List.mem_pair.mp closing with rfl | rfl
  · by_cases terminated : StringLiteral.isTerminated lexeme.text.toList = true
    · simp [escapes, unclosed, terminated]
    · simp [escapes, unclosed, terminated, string]
  · split <;> simp [escapes, unclosed, string]

/-- Of the problems of one lexeme at most one is that it is not closed. -/
theorem filter_problems_unclosed {problem : Problem}
    (closing : problem ∈ [.unterminatedString, .unterminatedComment]) (index : LineIndex)
    (lexeme : Lexeme) :
    (problems index lexeme).filter (fun diagnostic => diagnostic.problem = problem) =
      if lexeme.unclosed problem then [{ range := lexeme.range, problem }] else [] := by
  unfold problems
  cases found : lexeme.token with
  | string => exact filter_stringProblems_unclosed closing index found
  | blockComment =>
    rcases List.mem_pair.mp closing with rfl | rfl <;>
      by_cases terminated : StringLiteral.isTerminatedComment lexeme.text.toList = true <;>
        simp [unclosed, found, terminated]
  | _ => rcases List.mem_pair.mp closing with rfl | rfl <;> simp [unclosed, found]

end Lexeme

/-- The reports of missing ends are those of the lexemes without an end. -/
theorem Lexing.filter_diagnostics_unclosed {problem : Problem}
    (closing : problem ∈ [.unterminatedString, .unterminatedComment]) (index : LineIndex)
    (lexemes : List Lexeme) :
    (ofLexemes index lexemes).diagnostics.filter (fun diagnostic => diagnostic.problem = problem) =
      (lexemes.filter (Lexeme.unclosed problem)).map fun lexeme =>
        { range := lexeme.range, problem } :=
  filter_diagnostics_of_problems (Lexeme.filter_problems_unclosed closing index) lexemes

/-- A string literal is found to be terminated from its text alone if and only if the scan of the
literal stopped at a closing quote, and a block comment if and only if there is a closing marker
behind its opening one.  What is reported as not closed are exactly the other ones, each once and in
order. -/
theorem terminated_iff_closed (source : String) :
    let tokens := Lexeme.tokenize (.ofSource source) source
    (∀ lexeme ∈ tokens, lexeme.token = .string →
      (∃ stop, lexeme.StopsAt source stop) ∧
        ∀ stop, lexeme.StopsAt source stop →
          (StringLiteral.isTerminated lexeme.text.toList = true ↔ stop = .closingQuote)) ∧
      (∀ lexeme ∈ tokens, lexeme.token = .blockComment →
        (∃ text, lexeme.OpensComment source text) ∧
          ∀ text, lexeme.OpensComment source text →
            (StringLiteral.isTerminatedComment lexeme.text.toList = true ↔
              ['*', '/'] <:+: text)) ∧
      ∀ problem ∈ [Problem.unterminatedString, Problem.unterminatedComment],
        ∃ unclosed : List Lexeme, unclosed.Sublist tokens ∧
          (∀ lexeme ∈ tokens, lexeme ∈ unclosed ↔ lexeme.IsUnclosed source problem) ∧
          (Lexing.ofSource source).diagnostics.filter (fun diagnostic =>
              diagnostic.problem = problem) =
            unclosed.map fun lexeme => { range := lexeme.range, problem } := by
  intro tokens
  refine ⟨fun lexeme member string => ?_, fun lexeme member comment => ?_,
    fun problem closing => ⟨tokens.filter (Lexeme.unclosed problem), List.filter_sublist,
      fun lexeme member => ?_, Lexing.filter_diagnostics_unclosed closing _ tokens⟩⟩
  · exact ⟨Lexeme.exists_stopsAt member string, fun _ => Lexeme.StopsAt.isTerminated_iff⟩
  · rcases Lexeme.exists_opensComment member comment with ⟨text, opens, -⟩
    exact ⟨⟨text, opens⟩, fun _ alsoOpens => alsoOpens.isTerminatedComment_iff member comment⟩
  · rw [List.mem_filter, and_iff_right member]
    exact Lexeme.unclosed_iff member problem

end ScriptTree
