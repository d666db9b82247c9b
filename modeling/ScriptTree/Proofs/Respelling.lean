import ScriptTree.Proofs.Conservation
import ScriptTree.Proofs.Grammar.Parallel.Program
import ScriptTree.Proofs.Lexeme.Respelling

/-!
# Other spellings of keywords

A keyword means the same in each of its spellings.  Its text goes nowhere: not
into the tree, where its token says it all, nor into a message.  So a source
with some keywords spelled in another way is parsed to the same result.
-/

namespace ScriptTree

open Grammar

namespace Lexeme.Respelled

variable {lexeme other : Lexeme}

/-- Only keywords are respelled. -/
theorem eq_or_isKeyword (same : lexeme.Respelled other) :
    other = lexeme ∨ lexeme.token.isKeyword = true := by
  refine same.text.imp (fun text => ?_) id
  cases lexeme
  cases other
  cases same.placed
  cases text
  rfl

/-- The text of a keyword is not a part of its mark. -/
theorem mark_eq (same : lexeme.Respelled other) : lexeme.mark = other.mark := by
  have token : other.token = lexeme.token := congrArg PlacedToken.token same.placed
  rcases same.eq_or_isKeyword with rfl | keyword
  · rfl
  · have silent : lexeme.token.bearsText = false := by
      revert keyword
      cases lexeme.token <;> first | exact fun _ => rfl | exact nofun
    rw [mark, mark, token, silent]
    rfl

/-- Trivia is not respelled. -/
theorem trivia?_eq (same : lexeme.Respelled other) : other.trivia? = lexeme.trivia? := by
  have token : other.token = lexeme.token := congrArg PlacedToken.token same.placed
  rcases same.eq_or_isKeyword with rfl | keyword
  · rfl
  · have significant : TriviaKind.ofToken? lexeme.token = none := by
      revert keyword
      cases lexeme.token <;> first | exact fun _ => rfl | exact nofun
    rw [trivia?, trivia?, token, significant]
    rfl

/-- A keyword has no problems. -/
theorem problems_eq (same : lexeme.Respelled other) (index : LineIndex) :
    other.problems index = lexeme.problems index := by
  have token : other.token = lexeme.token := congrArg PlacedToken.token same.placed
  rcases same.eq_or_isKeyword with rfl | keyword
  · rfl
  · unfold problems
    rw [token]
    revert keyword
    cases lexeme.token <;> first | exact fun _ => rfl | exact nofun

end Lexeme.Respelled

namespace Lexing

variable {lexemes others : List Lexeme}

/-- Respelled lexemes match the old ones, place by place. -/
theorem forall₂_lexemes (respelled : List.Forall₂ Lexeme.Respelled lexemes others)
    (index : LineIndex) :
    List.Forall₂ Comparison.inPlace.Matches (ofLexemes index others).lexemes
      (ofLexemes index lexemes).lexemes := by
  have kept : List.Forall₂ Lexeme.Respelled (ofLexemes index lexemes).lexemes
      (ofLexemes index others).lexemes := by
    refine List.rel_filter (fun lexeme other same => ?_) respelled
    have token : other.token = lexeme.token := congrArg PlacedToken.token same.placed
    show (!lexeme.token.isTrivia) = true ↔ (!other.token.isTrivia) = true
    rw [token]
  exact kept.flip.imp fun other lexeme same =>
    ⟨same.mark_eq, (congrArg PlacedToken.range same.placed).symm⟩

/-- Respelling keeps the trivia. -/
theorem trivia_eq (respelled : List.Forall₂ Lexeme.Respelled lexemes others)
    (index : LineIndex) : (ofLexemes index others).trivia = (ofLexemes index lexemes).trivia := by
  show others.filterMap Lexeme.trivia? = lexemes.filterMap Lexeme.trivia?
  induction respelled with
  | nil => rfl
  | cons same _ ih => rw [List.filterMap_cons, List.filterMap_cons, same.trivia?_eq, ih]

/-- Respelling keeps the diagnostics of the lexing. -/
theorem diagnostics_eq (respelled : List.Forall₂ Lexeme.Respelled lexemes others)
    (index : LineIndex) :
    (ofLexemes index others).diagnostics = (ofLexemes index lexemes).diagnostics := by
  show others.flatMap (Lexeme.problems index) = lexemes.flatMap (Lexeme.problems index)
  induction respelled with
  | nil => rfl
  | cons same _ ih => rw [List.flatMap_cons, List.flatMap_cons, same.problems_eq, ih]

end Lexing

/-- A source in which keywords are replaced by other spellings of them has the same tokens in the
same places, and it is parsed to the same result. -/
theorem parse_respelled {source : String} {texts : List String}
    (spelled : List.Forall₂ Lexeme.IsSpelledBy (Lexeme.tokenize (.ofSource source) source) texts)
    (options : ParseOptions) :
    (Lexeme.tokenize (.ofSource (.join texts)) (.join texts)).map Lexeme.toPlacedToken =
        (Lexeme.tokenize (.ofSource source) source).map Lexeme.toPlacedToken ∧
      parse (.join texts) options = parse source options := by
  rcases Piece.all_respelled (Lexeme.forall₂_isSpelledBy spelled) with ⟨pieces, blurred⟩
  rw [← String.toList_join] at pieces blurred
  have index : LineIndex.ofSource (.join texts) = .ofSource source := by
    apply LineIndex.ofSource_congr
    rw [← LineIndex.startsFrom_blur, blurred, LineIndex.startsFrom_blur]
  have length : Text.byteLength (String.join texts).toList = Text.byteLength source.toList := by
    rw [← Text.byteLength_blur, blurred, Text.byteLength_blur]
  have respelled : List.Forall₂ Lexeme.Respelled (Lexeme.tokenize (.ofSource source) source)
      (Lexeme.tokenize (.ofSource (.join texts)) (.join texts)) := by
    rw [index]
    exact Lexeme.respelled_place _ 0 pieces
  constructor
  · exact (List.forall₂_eq_eq_eq ▸ List.forall₂_map_left_iff.mpr
      (List.forall₂_map_right_iff.mpr (respelled.flip.imp fun _ _ same => same.placed)))
  · have matched := Lexing.forall₂_lexemes respelled (.ofSource source)
    have whole : LineIndex.wholeRange (.join texts) (.ofSource source) =
        LineIndex.wholeRange source (.ofSource source) := by
      rw [LineIndex.wholeRange, length, LineIndex.wholeRange]
    rw [index] at respelled matched
    simp only [parse, index, whole, length, Lexing.trivia_eq respelled,
      Lexing.diagnostics_eq respelled, matched.length_eq, program_eq_of_matches matched]

/-- A source with errors some of whose keywords are written in capitals. -/
theorem parse_respelled_small :
    parse "FUNC Int f(VAR) \x7bIF x \x7d retUrn" =
      parse "func int f(var) \x7bif x \x7d retUrn" := by
  have spelled : List.Forall₂ Lexeme.IsSpelledBy
      (Lexeme.tokenize (.ofSource "func int f(var) \x7bif x \x7d retUrn")
        "func int f(var) \x7bif x \x7d retUrn")
      ["FUNC", " ", "Int", " ", "f", "(", "VAR", ")", " ", "\x7b", "IF", " ", "x", " ", "\x7d", " ",
        "retUrn"] := by
    decide +kernel
  exact (parse_respelled spelled {}).2

end ScriptTree
