import ScriptTree.Parse.Alone
import ScriptTree.Proofs.Conservation
import ScriptTree.Proofs.Grammar.Alone.Program
import ScriptTree.Proofs.Node.Unplaced

/-!
# Declarations parsed from their own text

A top-level node has lexemes of its own, and its range is theirs.  The text under
that range has the same lexemes, and they are read as that node again, places
apart.  This holds of declarations and of errors between them, and whether the
source is well-formed or not.
-/

namespace ScriptTree

/-- A parse of a whole source begins settled. -/
theorem settled_ofSource (source : String) :
    (Grammar.State.ofLexemes (Lexing.ofSource source).lexemes).Settled where
  spelled := spelled_ofSource source
  anchored := Range.isEmpty_emptyAt 0 ⟨0, 0⟩

/-- Lexemes that a declaration has for itself are the lexemes of its own text. -/
theorem Grammar.OwnLexemes.forall₂_slice {source : String} {declaration : Declaration}
    {own : List Lexeme}
    (found : OwnLexemes declaration (.ofLexemes (Lexing.ofSource source).lexemes) own) :
    ∃ lines, List.Forall₂ (Lexeme.IsBelow lines) own
      (Lexing.ofSource (declaration.toNode.text source)).lexemes := by
  rcases found.within with ⟨before, after, within⟩
  have row := Lexing.inRow_lexemes source
  change (Lexing.ofSource source).lexemes = before ++ own ++ after at within
  rw [within, List.map_append, List.map_append] at row
  rcases found.covers (by rw [found.placed]; exact row.left.right) with ⟨-, covers⟩
  have stretched : PlacedToken.stretch? (own.map Lexeme.toPlacedToken) =
      some declaration.range := by
    cases stretch : PlacedToken.stretch? (own.map Lexeme.toPlacedToken) with
    | none =>
      rw [PlacedToken.stretch?_eq_none_iff, List.map_eq_nil_iff] at stretch
      exact absurd stretch found.nonempty
    | some whole => rw [covers whole (by rw [found.placed, stretch])]
  exact Lexing.forall₂_lexemes_slice within stretched

/-- Every top-level node of a source is all that its own text is parsed as, ranges apart. -/
theorem exists_parsedAlone {source : String} {declaration : Declaration}
    (member : declaration ∈ (parse source).program.declarations) :
    ∃ alone, (declaration.parsedAlone source).program.declarations = [alone] ∧
      Snapshot.ofNode false alone.toNode = Snapshot.ofNode false declaration.toNode := by
  rcases exists_reads_parse source {} with ⟨_, reads, _⟩
  rcases reads.exists_ownLexemes rfl (settled_ofSource source) declaration member with ⟨own, found⟩
  rcases found.forall₂_slice with ⟨lines, similar⟩
  rcases found.standsAlone similar with ⟨alone, _, readsAlone, alike⟩
  refine ⟨alone, ?_, Declaration.snapshot_congr alike⟩
  exact congrArg (·.program.declarations)
    (readsAlone.program_eq (LineIndex.wholeRange _ (.ofSource (declaration.toNode.text source))))

/-- An error between declarations that are broken too. -/
theorem exists_parsedAlone_error :
    ∃ declaration ∈ (parse "func (var int a\nfunc int f() \x7b x = 1").program.declarations,
      declaration.toNode.isError = true ∧
      ∃ alone, (declaration.parsedAlone
          "func (var int a\nfunc int f() \x7b x = 1").program.declarations = [alone] ∧
        Snapshot.ofNode false alone.toNode = Snapshot.ofNode false declaration.toNode := by
  have present : (parse "func (var int a\nfunc int f() \x7b x = 1").program.declarations.any
      (fun declaration => declaration.toNode.isError) = true := by
    decide +kernel
  rcases List.any_eq_true.mp present with ⟨declaration, member, error⟩
  exact ⟨declaration, member, error, exists_parsedAlone member⟩

end ScriptTree
