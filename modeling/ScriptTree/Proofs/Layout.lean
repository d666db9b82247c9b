import ScriptTree.Proofs.Acceptance
import ScriptTree.Proofs.Grammar.Parallel.Program

/-!
# Layout

Blanks, comments and line breaks are no part of a tree.  Where a parse goes on
after something that is missing, it looks whether the next token is on a later
line.  So line breaks matter there, and nowhere else: not to a source without
errors, and not to one whose tokens are on later lines than their neighbours in
the same places.
-/

namespace ScriptTree

open Grammar

namespace Lexeme

/-- What a lexeme is, wherever it stands. -/
def wording (lexeme : Lexeme) : Token × String :=
  (lexeme.token, lexeme.text)

/-- For each two neighbours whether the later one starts on a later line than the other ends. -/
def lineBreaks (lexemes : List Lexeme) : List Bool :=
  List.zipWith (fun before lexeme => decide (before.range.stop.line < lexeme.range.start.line))
    lexemes lexemes.tail

/-- The line breaks of lexemes, told one by one. -/
theorem breaks_cons (line : Nat) (lexeme : Lexeme) (rest : List Lexeme) :
    breaks line (lexeme :: rest) =
      decide (line < lexeme.range.start.line) :: lineBreaks (lexeme :: rest) := by
  induction rest generalizing line lexeme with
  | nil => rfl
  | cons next rest ih => rw [breaks, ih]; rfl

/-- Lexemes of the same wording leave the same mark. -/
theorem mark_eq_of_wording {first second : Lexeme} (same : first.wording = second.wording) :
    first.mark = second.mark := by
  have token : first.token = second.token := congrArg Prod.fst same
  have text : first.text = second.text := congrArg Prod.snd same
  rw [mark, mark, token, text]

end Lexeme

namespace Grammar

/-- What the grammar makes of a source. -/
def Reading.ofSource (source : String) : Reading :=
  Grammar.program (Lexing.ofSource source).lexemes (LineIndex.wholeRange source (.ofSource source))

/-- Lexemes of the same wordings match, wherever they are. -/
theorem forall₂_anywhere {mindsLines : Bool} {first second : List Lexeme}
    (same : first.map Lexeme.wording = second.map Lexeme.wording) :
    List.Forall₂ (Comparison.anywhere mindsLines).Matches second first := by
  induction first generalizing second with
  | nil => rw [List.map_eq_nil_iff.mp same.symm]; exact .nil
  | cons lexeme rest ih =>
    cases second with
    | nil => cases same
    | cons other others =>
      rw [List.map_cons, List.map_cons, List.cons.injEq] at same
      exact .cons ⟨Lexeme.mark_eq_of_wording same.1, rfl⟩ (ih same.2)

/-- From their first token on, lexemes with the same line breaks are divided alike. -/
theorem breaks_here {first second : List Lexeme}
    (same : first.map Lexeme.wording = second.map Lexeme.wording)
    (lines : Lexeme.lineBreaks first = Lexeme.lineBreaks second) :
    Lexeme.breaks (State.ofLexemes first).here.start.line first =
      Lexeme.breaks (State.ofLexemes second).here.start.line second := by
  cases first with
  | nil => rw [List.map_eq_nil_iff.mp same.symm]
  | cons lexeme rest =>
    cases second with
    | nil => cases same
    | cons other others =>
      rw [Lexeme.breaks_cons, Lexeme.breaks_cons, lines]
      simp [State.here, State.ofLexemes]

/-- Lexemes of the same wording are read alike where the same neighbours are on different lines,
or where nothing is reported. -/
theorem Derivation.relaid {first second : List Lexeme} {items : List Declaration} {final : State}
    (reads : Reads .declarations (.ofLexemes first) items final)
    (same : first.map Lexeme.wording = second.map Lexeme.wording) (mindsLines : Bool)
    (lines : mindsLines = true → Lexeme.lineBreaks first = Lexeme.lineBreaks second)
    (quiet : mindsLines = true ∨ (State.ofLexemes first).Sound ∧ final.Clean) :
    ∃ others after, Reads .declarations (.ofLexemes second) others after ∧
      items.map (Declaration.mapRanges fun _ => default) =
        others.map (Declaration.mapRanges fun _ => default) ∧
      final.diagnostics.map Diagnostic.problem = after.diagnostics.map Diagnostic.problem := by
  -- The place in front of the first token is of no account, so it may be on the line of that token.
  rcases reads.declarations_at_anchor rfl (State.ofLexemes first).here with ⟨place, readsHere⟩
  have begun : (Comparison.anywhere mindsLines).Parallel
      { State.ofLexemes first with anchor := (State.ofLexemes first).here }
      { State.ofLexemes second with anchor := (State.ofLexemes second).here } :=
    .of_matches (List.append_nil second).symm (forall₂_anywhere same) rfl rfl
      (fun minds => breaks_here same (lines minds) ▸ List.prefix_rfl) (quiet.imp id And.left)
  have admits : (Comparison.anywhere mindsLines).Admits { final with anchor := place } :=
    ⟨.inl rfl, quiet.imp id fun wellFormed _ =>
      ⟨wellFormed.2.normal, wellFormed.2.unnoted, wellFormed.2.unreported⟩⟩
  rcases begun.follows readsHere admits with ⟨others, after, readsOther, parallel, alike⟩
  rcases readsOther.declarations_at_anchor rfl (State.ofLexemes second).anchor
    with ⟨placeOther, readsSecond⟩
  refine ⟨others, _, readsSecond, alike, ?_⟩
  have reported := congrArg (List.map Diagnostic.problem) parallel.diagnostics
  rw [List.map_map, List.map_map] at reported
  exact reported

end Grammar

/-- Sources whose significant tokens are the same one by one have the same tree, ranges apart, and
the same syntactic diagnostics, places apart, if the same tokens are on a later line than the one
before them.  If one of the sources has no errors, they have the same tree whatever is on which
line, and the grammar reports nothing. -/
theorem parse_relaid {first second : String}
    (same : (Lexing.ofSource first).lexemes.map Lexeme.wording =
      (Lexing.ofSource second).lexemes.map Lexeme.wording) :
    (Lexeme.lineBreaks (Lexing.ofSource first).lexemes =
        Lexeme.lineBreaks (Lexing.ofSource second).lexemes →
      Snapshot.ofNode false (parse first).root = Snapshot.ofNode false (parse second).root ∧
      (Reading.ofSource first).diagnostics.map Diagnostic.problem =
        (Reading.ofSource second).diagnostics.map Diagnostic.problem) ∧
    ((parse first).hasErrors = false →
      Snapshot.ofNode false (parse first).root = Snapshot.ofNode false (parse second).root ∧
      (Reading.ofSource second).diagnostics = []) := by
  have snapshots : ∀ {others : List Declaration} {after : State},
      Reads .declarations (.ofLexemes (Lexing.ofSource second).lexemes) others after →
      (parse first).program.declarations.map (Declaration.mapRanges fun _ => default) =
        others.map (Declaration.mapRanges fun _ => default) →
      Snapshot.ofNode false (parse first).root = Snapshot.ofNode false (parse second).root ∧
        (Reading.ofSource second).diagnostics = after.diagnostics := by
    intro others after reads alike
    have found := reads.program_eq (LineIndex.wholeRange second (.ofSource second))
    refine ⟨?_, congrArg Reading.diagnostics found⟩
    have program : (parse second).program = ⟨others, _⟩ := congrArg Reading.program found
    rw [ParseResult.root, ParseResult.root, program,
      ← Program.snapshot_mapRanges .const (parse first).program default, alike,
      Program.snapshot_mapRanges .const ⟨others, _⟩]
  constructor
  · intro lines
    rcases exists_reads_parse first {} with ⟨final, reads, -⟩
    rcases reads.relaid same true (fun _ => lines) (.inl rfl)
      with ⟨others, after, readsOther, alike, reported⟩
    rcases snapshots readsOther alike with ⟨snapshot, diagnostics⟩
    refine ⟨snapshot, ?_⟩
    rw [diagnostics, ← reported]
    exact congrArg (fun reading : Reading => reading.diagnostics.map Diagnostic.problem)
      (reads.program_eq _)
  · intro errorless
    rcases exists_clean_reads_of_strict (ParseResult.strict_eq_ok errorless)
      with ⟨final, reads, -, sound, clean⟩
    rcases reads.relaid same false (absurd · Bool.false_ne_true) (.inr ⟨sound, clean⟩)
      with ⟨others, after, readsOther, alike, reported⟩
    rcases snapshots readsOther alike with ⟨snapshot, diagnostics⟩
    refine ⟨snapshot, ?_⟩
    rw [clean.unreported] at reported
    rw [diagnostics]
    exact List.map_eq_nil_iff.mp reported.symm

/-- A comment inside of a broken parameter list, and a source without errors on one line. -/
theorem parse_relaid_small :
    (Snapshot.ofNode false (parse "func int f(var \x7b x = 1 2; \x7d").root =
        Snapshot.ofNode false (parse "func  int f(/* no type */ var \x7b x = 1 2;\x7d").root ∧
      (Reading.ofSource "func int f(var \x7b x = 1 2; \x7d").diagnostics.map Diagnostic.problem =
        (Reading.ofSource "func  int f(/* no type */ var \x7b x = 1 2;\x7d").diagnostics.map
          Diagnostic.problem) ∧
    Snapshot.ofNode false (parse "func int f()\n\x7b\n  return 1;\n\x7d\n").root =
        Snapshot.ofNode false (parse "func int f() \x7breturn//one\n1;\x7d").root ∧
      (Reading.ofSource "func int f() \x7breturn//one\n1;\x7d").diagnostics = [] :=
  ⟨(parse_relaid (by decide +kernel)).1 (by decide +kernel),
    (parse_relaid (by decide +kernel)).2 (by decide +kernel)⟩

end ScriptTree
