import ScriptTree.Proofs.Acceptance
import ScriptTree.Proofs.Grammar.Granting
import ScriptTree.Proofs.Lexeme.Blanking
import ScriptTree.Proofs.Node.Terminators

/-!
# A source without one semicolon

Where a semicolon that ends a statement or a variable is replaced by a blank, the
parse says so in one diagnostic, and the tree stays the same but for ranges.
The token behind it must let the parse go on: it starts or closes something, or
it is on a later line, and it does not go on with what comes before.
-/

namespace ScriptTree

open Grammar

variable {source : String} {passed later : List Lexeme} {before semicolon next : Lexeme}

/-- Lexemes at different places have different ranges. -/
theorem ne_of_startsBefore {first second : Lexeme} (earlier : first.StartsBefore second) :
    first.range ≠ second.range := by
  intro same
  rw [Lexeme.StartsBefore, same] at earlier
  exact Nat.lt_irrefl _ earlier

/-- In the tree of a source, the node that owns a semicolon is all that owns it. -/
theorem every_endsAt_of_mem {granted : Prop} {node : Node}
    (member : node ∈ (parse source).root.descendants) (terminated : node.kind.isTerminated = true)
    (owned : semicolon.toPlacedToken ∈ node.tokens) (isSemicolon : semicolon.token = .semicolon)
    (bare : node.isBareReturn = true → granted) :
    Node.Every (Node.EndsAt semicolon.range granted) (parse source).root.children := by
  have perm := (parse source).program.held_perm
  rw [placed_slots_parse source {}] at perm
  have once : (parse source).root.held.Nodup := by
    refine (List.nodup_append.mp (perm.nodup_iff.mpr ?_)).1
    refine (pairwise_significantTokens source).imp fun earlier same => ?_
    rw [same] at earlier
    exact Nat.lt_irrefl _ earlier
  intro other below among
  have memberOther : other ∈ (parse source).root.descendants := by
    rw [Node.descendants_eq]
    exact List.mem_cons_of_mem _ below
  have same : semicolon.toPlacedToken = ⟨.semicolon, semicolon.range⟩ := by
    rw [← isSemicolon]
  rw [← same] at among
  rw [← Node.eq_of_mem_tokens once member memberOther owned among]
  exact ⟨terminated, bare⟩

/-- The parse of a source without errors, and of its lexemes without a semicolon. -/
theorem reads_without_semicolon (errorless : (parse source).hasErrors = false)
    (divided : (Lexing.ofSource source).lexemes = passed ++ before :: semicolon :: next :: later)
    (isSemicolon : semicolon.token = .semicolon)
    (spares : Node.Every (Node.EndsAt semicolon.range (startsExpression next.token = false))
      (parse source).root.children)
    (granted : next.token ∈
        [.identifier, .kwIf, .kwReturn, .kwVar, .kwConst, .lBrace, .rBrace] ∨
      before.range.stop.line < next.range.start.line)
    (severed : next.token ∉ [.lParen, .plus, .minus]) :
    ∃ final, Reads .declarations (.ofLexemes (passed ++ before :: next :: later))
        ((parse source).program.without semicolon.range).declarations final ∧
      final.diagnostics =
        [{ range := before.range.after
           problem := .unmet (.tokens [.semicolon]) (some next.token) }] := by
  rcases exists_clean_reads_of_strict (ParseResult.strict_eq_ok errorless)
    with ⟨final, reads, ends, sound, clean⟩
  rcases reads.written ends sound clean with ⟨written, complete⟩
  have ordered := Lexing.pairwise_lexemes source
  rw [divided] at reads sound written ordered
  rw [List.append_cons] at written ordered
  rcases List.pairwise_append.mp ordered with ⟨-, orderedRest, startsEarlier⟩
  have startsLater := (List.pairwise_cons.mp orderedRest).1
  have harmless : Omission.IsHarmless ⟨before, semicolon, next, later⟩ :=
    { isSemicolon, granted, severed
      follows := Program.followsSemicolon_next complete written isSemicolon
      elsewhere := fun lexeme behind => (ne_of_startsBefore (startsLater lexeme behind)).symm }
  have lacks := Lacks.ofLexemes ⟨before, semicolon, next, later⟩ passed fun lexeme front =>
    ne_of_startsBefore (startsEarlier lexeme front semicolon List.mem_cons_self)
  rw [ParseResult.children_root] at spares
  rcases lacks.rereads_declarations harmless reads rfl sound clean ⟨nofun, spares⟩
    with ⟨after, rereads, lacksLast⟩
  refine ⟨after, rereads, ?_⟩
  cases lacksLast with
  | ahead rest =>
    rw [ends] at rest
    cases (List.append_eq_nil_iff.mp rest.symm).2
  | behind _ _ _ reported => exact reported

/-- Replacing a semicolon that ends a statement or a variable by a blank costs one diagnostic, at
the end of the token before it, and leaves the tree as it is.  The token behind it must be one that
the parse goes on with, as most tokens on a later line are, and it must not go on with what is in
front of it. -/
theorem parse_without_semicolon (errorless : (parse source).hasErrors = false)
    (divided : (Lexing.ofSource source).lexemes = passed ++ before :: semicolon :: next :: later)
    (isSemicolon : semicolon.token = .semicolon) {node : Node}
    (member : node ∈ (parse source).root.descendants) (terminated : node.kind.isTerminated = true)
    (owned : semicolon.toPlacedToken ∈ node.tokens)
    (granted : next.token ∈
        [.identifier, .kwIf, .kwReturn, .kwVar, .kwConst, .lBrace, .rBrace] ∨
      before.range.stop.line < next.range.start.line)
    (severed : next.token ∉ [.lParen, .plus, .minus])
    (bare : node.isBareReturn = true → startsExpression next.token = false) :
    ∃ front back, source.toList = front ++ ';' :: back ∧
      Text.byteLength front = semicolon.range.span.start ∧
      (parse (String.ofList (front ++ ' ' :: back))).errors =
        [{ range := before.range.after
           problem := .unmet (.tokens [.semicolon]) (some next.token) }] ∧
      Snapshot.ofNode false (parse (String.ofList (front ++ ' ' :: back))).root =
        Snapshot.ofNode false (parse source).root := by
  have spares := every_endsAt_of_mem member terminated owned isSemicolon bare
  rcases reads_without_semicolon errorless divided isSemicolon spares granted severed
    with ⟨final, reads, reported⟩
  rw [List.append_cons] at divided
  rcases Lexing.exists_blank divided isSemicolon
    with ⟨front, back, whole, offset, lexemes, diagnostics⟩
  rw [List.append_assoc, List.singleton_append] at lexemes
  rw [← lexemes] at reads
  refine ⟨front, back, whole, offset, ?_, ?_⟩
  · have fine := (no_error_of_strict (ParseResult.strict_eq_ok errorless)).2
    have perm := (diagnostics_parse_perm reads).filter Diagnostic.isError
    have unwarned : ((Lexing.ofSource source).diagnostics).filter Diagnostic.isError = [] :=
      List.filter_eq_nil_iff.mpr fun diagnostic among =>
        Bool.eq_false_iff.mp (fine diagnostic (List.mem_append_left _ among))
    rw [diagnostics, reported, List.filter_append, unwarned, List.nil_append] at perm
    exact List.perm_singleton.mp perm
  · have found : (parse (String.ofList (front ++ ' ' :: back))).program =
        ⟨((parse source).program.without semicolon.range).declarations,
          LineIndex.wholeRange _ (.ofSource _)⟩ :=
      congrArg Reading.program (reads.program_eq _)
    rw [ParseResult.root, ParseResult.root, found]
    exact Program.snapshot_without ..

/-- The semicolon of a branch without braces. -/
theorem parse_without_semicolon_branch :
    ∃ front back, "func void f() { if (x) y = 1; z(); }".toList = front ++ ';' :: back ∧
      Text.byteLength front = 28 ∧
      (parse (String.ofList (front ++ ' ' :: back))).errors =
        [{ range := .emptyAt 28 ⟨0, 28⟩
           problem := .unmet (.tokens [.semicolon]) (some .identifier) }] ∧
      Snapshot.ofNode false (parse (String.ofList (front ++ ' ' :: back))).root =
        Snapshot.ofNode false (parse "func void f() { if (x) y = 1; z(); }").root := by
  have errorless : (parse "func void f() { if (x) y = 1; z(); }").hasErrors = false := by
    decide +kernel
  have divided : (Lexing.ofSource "func void f() { if (x) y = 1; z(); }").lexemes =
      (Lexing.ofSource "func void f() { if (x) y = 1; z(); }").lexemes.take 12 ++
        ⟨⟨.number, ⟨⟨27, 28⟩, ⟨0, 27⟩, ⟨0, 28⟩⟩⟩, "1"⟩ ::
        ⟨⟨.semicolon, ⟨⟨28, 29⟩, ⟨0, 28⟩, ⟨0, 29⟩⟩⟩, ";"⟩ ::
        ⟨⟨.identifier, ⟨⟨30, 31⟩, ⟨0, 30⟩, ⟨0, 31⟩⟩⟩, "z"⟩ ::
        (Lexing.ofSource "func void f() { if (x) y = 1; z(); }").lexemes.drop 15 := by
    decide +kernel
  have owner : (parse "func void f() { if (x) y = 1; z(); }").root.descendants.any
      (fun node => node.kind.isTerminated && !node.isBareReturn &&
        decide (⟨.semicolon, ⟨⟨28, 29⟩, ⟨0, 28⟩, ⟨0, 29⟩⟩⟩ ∈ node.tokens)) = true := by
    decide +kernel
  simp only [List.any_eq_true, Bool.and_eq_true, Bool.not_eq_true', decide_eq_true_eq] at owner
  rcases owner with ⟨node, member, ⟨terminated, valued⟩, owned⟩
  refine parse_without_semicolon errorless divided rfl member terminated owned
    (.inl (by decide)) (by decide) fun bare => ?_
  rw [valued] at bare
  cases bare

end ScriptTree
