import Mathlib.Data.List.Chain
import ScriptTree.Proofs.Lexeme.Blanking

/-!
# A source is divided into its lexemes

The lexemes of a source take up all of it.  Each of them is a slice of the
source that is not empty, the first one begins where the source begins, each
other one where the one before it ends, and the last one ends with the source.
What no token accepts is as long as it can be, so two such lexemes are never
neighbours.

Blanks and comments leave as trivia, and the grammar sees the other lexemes.  Each
of those that are no token of the language is reported when it is read, so that
the grammar may pass over it in silence.
-/

namespace ScriptTree

/-! ## Neighbours -/

namespace Piece

/-- No two characters make an error. -/
theorem pairToken?_ne_error (first second : Char) : pairToken? first second ≠ some .error := by
  intro found
  unfold pairToken? at found
  split at found <;> cases found

/-- No symbol of one character is an error. -/
theorem singleToken?_ne_error (first : Char) : singleToken? first ≠ some .error := by
  intro found
  unfold singleToken? at found
  split at found <;> cases found

/-- A piece that no token accepts goes on up to the first character that opens something. -/
theorem opensNothing_of_symbol {first : Char} {rest : List Char}
    (found : (symbol first rest).1.token = .error) :
    singleToken? first = none ∧
      ∀ next ∈ (symbol first rest).2.head?, opensNothing next = false := by
  revert found
  fun_cases symbol first rest with
  | case1 second rest token pair =>
    rintro rfl
    exact absurd pair (pairToken?_ne_error first second)
  | case2 | case3 => rintro ⟨⟩
  | case4 second rest _ _ _ token here =>
    rintro rfl
    exact absurd here (singleToken?_ne_error first)
  | case5 second rest _ _ _ here =>
    refine fun _ => ⟨here, fun next member => ?_⟩
    have stops := List.head?_dropWhile_not opensNothing (second :: rest)
    rw [member] at stops
    simpa using stops
  | case6 =>
    intro found
    refine ⟨?_, by simp⟩
    cases here : singleToken? first with
    | none => rfl
    | some token =>
      rw [here] at found
      cases found
      exact absurd here (singleToken?_ne_error first)

/-- An error is a run of characters that open nothing, and it is as long as it can be. -/
theorem opensNothing_of_cut {first : Char} {rest : List Char}
    (found : (cut first rest).1.token = .error) :
    opensNothing first = true ∧ ∀ next ∈ (cut first rest).2.head?, opensNothing next = false := by
  revert found
  fun_cases cut first rest with
  | case1 => exact fun found => absurd found (Keyword.classify_ne _ rfl (by decide))
  | case2 | case3 | case4 => rintro ⟨⟩
  | case5 noWord noDigit noBlank noQuote =>
    intro found
    rcases opensNothing_of_symbol found with ⟨single, stops⟩
    refine ⟨?_, stops⟩
    simp [opensNothing, noWord, noDigit, noBlank, noQuote, single]

/-- Of two neighbours a token accepts at least one. -/
theorem isChain_all (text : List Char) :
    (all text).IsChain fun first second => ¬(first.token = .error ∧ second.token = .error) := by
  fun_induction all text with
  | case1 => exact .nil
  | case2 first rest ih =>
    refine List.isChain_cons.mpr ⟨?_, ih⟩
    rintro second member ⟨error, errorNext⟩
    have stops := (opensNothing_of_cut error).2
    generalize (cut first rest).2 = left at member stops
    cases left with
    | nil => simp [all] at member
    | cons next later =>
      rw [all_cons, List.head?_cons, Option.mem_some_iff] at member
      subst member
      have opens := (opensNothing_of_cut errorNext).1
      rw [stops next rfl] at opens
      cases opens

end Piece

/-! ## Slices that take up the source -/

namespace Lexeme

/-- A lexeme stands at the place of its text in the source, and both of its ends are ends of
characters. -/
def IsSliceOf (source : String) (lexeme : Lexeme) : Prop :=
  ∃ before after, source.toList = before ++ lexeme.text.toList ++ after ∧
    lexeme.range = (LineIndex.ofSource source).range
      ⟨Text.byteLength before, Text.byteLength before + Text.byteLength lexeme.text.toList⟩

/-- Lexemes that take up the bytes from `start` to `stop`: none of them is empty, and each one
starts where the one in front of it ends. -/
def Cover (start stop : Nat) : List Lexeme → Prop
  | [] => start = stop
  | lexeme :: rest =>
    lexeme.range.span.start = start ∧ start < lexeme.range.span.stop ∧
      Cover lexeme.range.span.stop stop rest

/-- A lexeme is a slice of its source. -/
theorem isSliceOf_of_mem_tokenize {source : String} {lexeme : Lexeme}
    (member : lexeme ∈ tokenize (.ofSource source) source) : lexeme.IsSliceOf source := by
  rcases exists_piece_of_mem_tokenize member with ⟨front, piece, back, whole, -, text, range⟩
  have texts := Piece.flatMap_text_all source.toList
  rw [whole, List.flatMap_append, List.flatMap_cons, ← List.append_assoc] at texts
  refine ⟨front.flatMap Piece.text, back.flatMap Piece.text, ?_, ?_⟩
  · rw [text, String.toList_ofList, texts]
  · rw [text, String.toList_ofList, range]

/-- Placed pieces cover their text without gaps. -/
theorem cover_place (index : LineIndex) (offset : Nat) {pieces : List Piece}
    (nonempty : ∀ piece ∈ pieces, piece.text ≠ []) :
    Cover offset (offset + Text.byteLength (pieces.flatMap Piece.text))
      (place index offset pieces) := by
  induction pieces generalizing offset with
  | nil => rfl
  | cons piece rest ih =>
    have positive := Text.byteLength_pos (nonempty piece List.mem_cons_self)
    refine ⟨rfl, Nat.lt_add_of_pos_right positive, ?_⟩
    rw [List.flatMap_cons, Text.byteLength_append, ← Nat.add_assoc]
    exact ih _ fun other member => nonempty other (List.mem_cons_of_mem piece member)

/-- The lexemes cover the source without gaps. -/
theorem cover_tokenize (source : String) :
    Cover 0 (Text.byteLength source.toList) (tokenize (.ofSource source) source) := by
  have nonempty : ∀ piece ∈ Piece.all source.toList, piece.text ≠ [] :=
    fun _ => Piece.text_ne_nil_of_mem_all
  have cover := cover_place (.ofSource source) 0 nonempty
  rwa [Piece.flatMap_text_all, Nat.zero_add] at cover

/-- Neighbours stay neighbours when pieces are placed. -/
theorem isChain_place (index : LineIndex) (offset : Nat) (test : Token → Token → Prop)
    {pieces : List Piece}
    (chain : pieces.IsChain fun first second => test first.token second.token) :
    (place index offset pieces).IsChain fun first second => test first.token second.token := by
  induction pieces generalizing offset with
  | nil => exact .nil
  | cons piece rest ih =>
    rw [List.isChain_cons] at chain
    refine List.isChain_cons.mpr ⟨fun next member => ?_, ih _ chain.2⟩
    cases rest with
    | nil => cases member
    | cons second later =>
      cases member
      exact chain.1 second rfl

end Lexeme

/-! ## Trivia among the tokens -/

/-- The token that is left out as trivia of a kind. -/
def TriviaKind.token : TriviaKind → Token
  | .whitespace => .whitespace
  | .lineComment => .lineComment
  | .blockComment => .blockComment

/-- Trivia as a token with its place. -/
def Trivia.toPlacedToken (trivia : Trivia) : PlacedToken :=
  ⟨trivia.kind.token, trivia.range⟩

/-- The three kinds of trivia have tokens of their own. -/
theorem TriviaKind.ofToken?_eq_some_iff {token : Token} {kind : TriviaKind} :
    ofToken? token = some kind ↔ kind.token = token := by
  cases kind <;> cases token <;> decide

theorem TriviaKind.isSome_ofToken? (token : Token) :
    (ofToken? token).isSome = token.isTrivia := by
  cases token <;> rfl

/-- Trivia is the token that it was made of. -/
theorem Lexeme.toPlacedToken_of_trivia? {lexeme : Lexeme} {trivia : Trivia}
    (found : lexeme.trivia? = some trivia) : trivia.toPlacedToken = lexeme.toPlacedToken := by
  rcases Option.map_eq_some_iff.mp found with ⟨kind, isKind, rfl⟩
  rw [Trivia.toPlacedToken, TriviaKind.ofToken?_eq_some_iff.mp isKind]

namespace Lexing

/-- Trivia stand at the places of the tokens that the grammar does not see. -/
theorem map_trivia (index : LineIndex) (lexemes : List Lexeme) :
    (ofLexemes index lexemes).trivia.map Trivia.toPlacedToken =
      (lexemes.filter fun lexeme => lexeme.token.isTrivia).map Lexeme.toPlacedToken := by
  show (lexemes.filterMap Lexeme.trivia?).map Trivia.toPlacedToken = _
  induction lexemes with
  | nil => rfl
  | cons lexeme rest ih =>
    have isTrivia : lexeme.trivia?.isSome = lexeme.token.isTrivia := by
      rw [Lexeme.trivia?, Option.isSome_map, TriviaKind.isSome_ofToken?]
    cases found : lexeme.trivia? with
    | none =>
      rw [found] at isTrivia
      rw [List.filterMap_cons_none found, ih, List.filter_cons_of_neg (by simp [← isTrivia])]
    | some trivia =>
      rw [found] at isTrivia
      rw [List.filterMap_cons_some found, List.map_cons, ih,
        List.filter_cons_of_pos (by simp [← isTrivia]), List.map_cons,
        Lexeme.toPlacedToken_of_trivia? found]

/-- The grammar's tokens and the trivia are all tokens in another order. -/
theorem perm_tokens (index : LineIndex) (lexemes : List Lexeme) :
    ((ofLexemes index lexemes).lexemes.map Lexeme.toPlacedToken ++
      (ofLexemes index lexemes).trivia.map Trivia.toPlacedToken).Perm
        (lexemes.map Lexeme.toPlacedToken) := by
  rw [map_trivia, ← List.map_append]
  refine List.Perm.map _ (List.perm_append_comm.trans ?_)
  exact List.filter_append_perm (fun lexeme => lexeme.token.isTrivia) lexemes

/-- The tokens of the grammar and the trivia, in order, are all lexemes. -/
theorem inOrder_tokens (source : String) :
    PlacedToken.inOrder ((ofSource source).lexemes.map Lexeme.toPlacedToken ++
        (ofSource source).trivia.map Trivia.toPlacedToken) =
      (Lexeme.tokenize (.ofSource source) source).map Lexeme.toPlacedToken := by
  refine PlacedToken.inOrder_eq_of_perm (perm_tokens _ _) ?_
  exact List.pairwise_map.mpr (Lexeme.pairwise_place _ 0 fun _ => Piece.text_ne_nil_of_mem_all)

/-- Trivia starts one behind the other. -/
theorem pairwise_trivia (source : String) :
    (ofSource source).trivia.Pairwise fun first second =>
      first.range.span.start < second.range.span.start := by
  have ordered : ((Lexeme.tokenize (.ofSource source) source).filter
      fun lexeme => lexeme.token.isTrivia).Pairwise Lexeme.StartsBefore :=
    (Lexeme.pairwise_place _ 0 fun _ => Piece.text_ne_nil_of_mem_all).filter _
  have placed : ((ofSource source).trivia.map Trivia.toPlacedToken).Pairwise fun first second =>
      first.range.span.start < second.range.span.start := by
    rw [ofSource, map_trivia]
    exact List.pairwise_map.mpr ordered
  exact List.Pairwise.of_map Trivia.toPlacedToken (fun _ _ before => before) placed

end Lexing

/-! ## What is reported when it is read -/

/-- A report that some characters are no token of the language. -/
def Diagnostic.isRefusal (diagnostic : Diagnostic) : Bool :=
  diagnostic.problem.code ∈ [DiagnosticCode.strayOperator, .unexpectedCharacter]

/-- Why a lexeme is no token of the language. -/
def Lexeme.refusal (lexeme : Lexeme) : Diagnostic :=
  { range := lexeme.range
    problem :=
      match lexeme.token with
      | .strayAmpersand => .strayAmpersand
      | .strayPipe => .strayPipe
      | _ => .unexpectedCharacter lexeme.text }

/-- The problems inside of strings are no refusals. -/
theorem Lexeme.filter_stringProblems (index : LineIndex) (lexeme : Lexeme) :
    (stringProblems index lexeme).filter Diagnostic.isRefusal = [] := by
  rw [List.filter_eq_nil_iff]
  intro diagnostic member
  unfold stringProblems at member
  have escapes : ∀ issue, (escapeProblem issue).code ∉
      [DiagnosticCode.strayOperator, .unexpectedCharacter] := by
    intro issue
    unfold escapeProblem
    split <;> simp [Problem.code]
  have fromEscape : diagnostic ∈ (StringLiteral.escapeIssues lexeme.text.toList
      lexeme.range.span.start).map (fun issue =>
        ({ range := index.range issue.span, problem := escapeProblem issue } : Diagnostic)) →
      ¬diagnostic.isRefusal = true := by
    intro member
    rcases List.mem_map.mp member with ⟨issue, -, rfl⟩
    simpa [Diagnostic.isRefusal] using escapes issue
  split at member
  · exact fromEscape member
  · rcases List.mem_append.mp member with escape | ending
    · exact fromEscape escape
    · rw [List.mem_singleton.mp ending]
      simp [Diagnostic.isRefusal, Problem.code]

/-- Of the problems of one lexeme at most one is that it is no token. -/
theorem Lexeme.filter_problems (index : LineIndex) (lexeme : Lexeme) :
    (problems index lexeme).filter Diagnostic.isRefusal =
      if lexeme.token.isError then [lexeme.refusal] else [] := by
  unfold problems refusal
  cases found : lexeme.token with
  | string => exact filter_stringProblems index lexeme
  | blockComment => dsimp only; split <;> rfl
  | strayAmpersand | strayPipe | error => rfl
  | _ => rfl

/-- If each lexeme of a sort has one problem of a kind, and no other lexeme has any, then these
problems are those lexemes, in order. -/
theorem Lexing.filter_diagnostics_of_problems {index : LineIndex} {kind : Diagnostic → Bool}
    {sort : Lexeme → Bool} {report : Lexeme → Diagnostic}
    (each : ∀ lexeme : Lexeme, (lexeme.problems index).filter kind =
      if sort lexeme then [report lexeme] else []) (lexemes : List Lexeme) :
    (ofLexemes index lexemes).diagnostics.filter kind = (lexemes.filter sort).map report := by
  show (lexemes.flatMap (Lexeme.problems index)).filter kind = _
  induction lexemes with
  | nil => rfl
  | cons lexeme rest ih =>
    rw [List.flatMap_cons, List.filter_append, ih, each, List.filter_cons]
    split <;> rfl

/-- The refusals among the diagnostics are those of the errors among the lexemes. -/
theorem Lexing.filter_diagnostics (index : LineIndex) (lexemes : List Lexeme) :
    (ofLexemes index lexemes).diagnostics.filter Diagnostic.isRefusal =
      (lexemes.filter fun lexeme => lexeme.token.isError).map Lexeme.refusal :=
  filter_diagnostics_of_problems (Lexeme.filter_problems index) lexemes

/-! ## The partition -/

/-- Reading divides every source into lexemes that take up all of it, from the first byte to the
last.  They are the tokens of the grammar and the trivia, merged by where they start, and what is
reported of characters that are no token is reported once for each lexeme of them, in order. -/
theorem lexing_partitions (source : String) :
    let tokens := Lexeme.tokenize (.ofSource source) source
    let lexing := Lexing.ofSource source
    Lexeme.Cover 0 (Text.byteLength source.toList) tokens ∧
      (∀ lexeme ∈ tokens, lexeme.IsSliceOf source) ∧
      (tokens.IsChain fun first second => ¬(first.token = .error ∧ second.token = .error)) ∧
      PlacedToken.inOrder (lexing.lexemes.map Lexeme.toPlacedToken ++
          lexing.trivia.map Trivia.toPlacedToken) =
        tokens.map Lexeme.toPlacedToken ∧
      (lexing.lexemes.Pairwise fun first second =>
        first.range.span.start < second.range.span.start) ∧
      (lexing.trivia.Pairwise fun first second =>
        first.range.span.start < second.range.span.start) ∧
      lexing.diagnostics.filter Diagnostic.isRefusal =
        (tokens.filter fun lexeme => lexeme.token.isError).map Lexeme.refusal := by
  refine ⟨Lexeme.cover_tokenize source, fun _ => Lexeme.isSliceOf_of_mem_tokenize, ?_,
    Lexing.inOrder_tokens source, Lexing.pairwise_lexemes source, Lexing.pairwise_trivia source,
    Lexing.filter_diagnostics _ _⟩
  exact Lexeme.isChain_place _ 0 (fun first second => ¬(first = .error ∧ second = .error))
    (Piece.isChain_all _)

end ScriptTree
