import ScriptTree.Proofs.Faults
import ScriptTree.Proofs.Grammar.Expectations
import ScriptTree.Proofs.Sorting

/-!
# Expectations in their order

The indices at which the grammar reports what it expects in vain rise strictly,
and so do the places in the source.  Therefore there is at most one such report
for each token and one for the end, and sorting leaves them as they were made.
-/

namespace ScriptTree

namespace Lexing.Orderly

variable {lexing : Lexing} (orderly : lexing.Orderly)

include orderly

/-- Every lexeme holds at least one byte. -/
theorem start_lt_stop {index : Nat} {lexeme : Lexeme}
    (found : lexing.lexemes[index]? = some lexeme) :
    lexeme.range.span.start < lexeme.range.span.stop :=
  orderly.wide lexeme (List.mem_of_getElem? found)

/-- A lexeme ends before a later one starts. -/
theorem stop_le_start {low high : Nat} {left right : Lexeme} (less : low < high)
    (foundLeft : lexing.lexemes[low]? = some left)
    (foundRight : lexing.lexemes[high]? = some right) :
    left.range.span.stop ≤ right.range.span.start := by
  rcases List.getElem?_eq_some_iff.mp foundLeft with ⟨boundLeft, rfl⟩
  rcases List.getElem?_eq_some_iff.mp foundRight with ⟨boundRight, rfl⟩
  have ordered := List.pairwise_map.mp orderly.follow.pairwise_precedes
  exact List.pairwise_iff_getElem.mp ordered low high boundLeft boundRight less

end Lexing.Orderly

/-! ## Reports that stand at indices -/

namespace Diagnostic

variable {lexing : Lexing} {early late : Nat} {first second : Diagnostic}

/-- What stands at an index does not start behind the lexeme there. -/
theorem StandsAt.start_le (orderly : lexing.Orderly) (stands : StandsAt lexing.lexemes early first)
    {lexeme : Lexeme} (found : lexing.lexemes[early]? = some lexeme) :
    first.range.span.start ≤ lexeme.range.span.start := by
  rcases stands.marks with ⟨here, foundHere, range⟩ | ⟨before, last, behind, foundLast, range⟩
  · rw [found] at foundHere
    cases foundHere
    rw [range]
  · rw [range]
    exact orderly.stop_le_start (behind ▸ Nat.lt_succ_self before) foundLast found

/-- What stands at an index does not start in front of the end of any lexeme before it. -/
theorem StandsAt.stop_le (orderly : lexing.Orderly) (stands : StandsAt lexing.lexemes late second)
    {lexeme : Lexeme} (found : lexing.lexemes[early]? = some lexeme) (less : early < late) :
    lexeme.range.span.stop ≤ second.range.span.start := by
  rcases stands.marks with ⟨here, foundHere, range⟩ | ⟨before, last, behind, foundLast, range⟩
  · rw [range]
    exact orderly.stop_le_start less found foundHere
  · rw [range]
    rcases Nat.lt_or_eq_of_le (Nat.le_of_lt_succ (behind ▸ less)) with inner | rfl
    · exact Nat.le_trans (orderly.stop_le_start inner found foundLast)
        (Nat.le_of_lt (orderly.start_lt_stop foundLast))
    · rw [found] at foundLast
      cases foundLast
      exact Nat.le_refl _

/-- Between lexemes that follow each other, a report at a later index starts later. -/
theorem StandsAt.start_lt (orderly : lexing.Orderly) (earlier : StandsAt lexing.lexemes early first)
    (later : StandsAt lexing.lexemes late second) (less : early < late) :
    first.range.span.start < second.range.span.start := by
  obtain ⟨lexeme, found⟩ : ∃ lexeme, lexing.lexemes[early]? = some lexeme :=
    ⟨_, List.getElem?_eq_getElem (Nat.lt_of_lt_of_le less later.inside)⟩
  calc first.range.span.start
    _ ≤ lexeme.range.span.start := earlier.start_le orderly found
    _ < lexeme.range.span.stop := orderly.start_lt_stop found
    _ ≤ second.range.span.start := later.stop_le orderly found less

/-- Reports at later and later lexemes start at later and later offsets. -/
theorem pairwise_start_lt (orderly : lexing.Orderly) {indices : List Nat}
    {diagnostics : List Diagnostic} (rising : indices.Pairwise (· < ·))
    (standing : List.Forall₂ (StandsAt lexing.lexemes) indices diagnostics) :
    diagnostics.Pairwise fun first second =>
      first.range.span.start < second.range.span.start := by
  rw [List.forall₂_iff_get] at standing
  rw [List.pairwise_iff_getElem] at rising ⊢
  rcases standing with ⟨length, standing⟩
  intro i j boundI boundJ less
  exact (standing i (length ▸ boundI) boundI).start_lt orderly
    (standing j (length ▸ boundJ) boundJ) (rising i j _ _ less)

/-- There are at most as many rising indices as there are lexemes, and one more. -/
theorem length_le_of_standing {lexemes : List Lexeme} {indices : List Nat}
    {diagnostics : List Diagnostic} (rising : indices.Pairwise (· < ·))
    (standing : List.Forall₂ (StandsAt lexemes) indices diagnostics) :
    diagnostics.length ≤ lexemes.length + 1 := by
  have bounded : indices ⊆ List.range (lexemes.length + 1) := by
    intro index member
    rcases List.mem_iff_getElem.mp member with ⟨i, bound, rfl⟩
    rw [List.forall₂_iff_get] at standing
    exact List.mem_range.mpr
      (Nat.lt_succ_of_le (standing.2 i bound (standing.1 ▸ bound)).inside)
  have distinct : indices.Nodup := rising.imp Nat.ne_of_lt
  have count := (distinct.subperm bounded).length_le
  rwa [standing.length_eq, List.length_range] at count

end Diagnostic

/-- What the grammar expects in vain while it reads a source, in the order of the reports. -/
def expectations (source : String) : List Diagnostic :=
  (Grammar.program (Lexing.ofSource source).lexemes
    (LineIndex.wholeRange source (.ofSource source))).diagnostics.filter Diagnostic.isExpectation

/-- Whatever the source, what was expected in vain is reported at most once for each token and once
for the end: the reports stand at indices that rise strictly, each names the token at its index and
never one that was reported when it was read, and their places rise strictly as well.  They are
kept in the order in which they were made. -/
theorem expectations_rise (source : String) :
    (∃ indices : List Nat, indices.Pairwise (· < ·) ∧
      List.Forall₂ (Diagnostic.StandsAt (Lexing.ofSource source).lexemes) indices
        (expectations source)) ∧
      ((expectations source).Pairwise fun first second =>
        first.range.span.start < second.range.span.start) ∧
      (expectations source).length ≤ (Lexing.ofSource source).lexemes.length + 1 ∧
      (parse source).diagnostics.filter Diagnostic.isExpectation = expectations source := by
  rcases exists_reads_parse source {} with ⟨final, reads, -⟩
  have same : expectations source = final.expectations := by
    rw [expectations, reads.program_eq]
    rfl
  have numbered := reads.numbered_declarations rfl (Grammar.State.numbered_ofLexemes _)
  rcases numbered.exists_indices with ⟨indices, rising, standing, -⟩
  rw [same]
  have starts := Diagnostic.pairwise_start_lt (Lexing.orderly_ofSource source) rising standing
  refine ⟨⟨indices, rising, standing⟩, starts, Diagnostic.length_le_of_standing rising standing, ?_⟩
  have lexical : (Lexing.ofSource source).diagnostics.filter Diagnostic.isExpectation = [] := by
    rw [List.filter_eq_nil_iff]
    intro diagnostic member expects
    have lexical := Lexing.isLexical_of_mem member
    rw [of_decide_eq_true expects] at lexical
    cases lexical
  have whole : ((Lexing.ofSource source).diagnostics ++ final.diagnostics).filter
      Diagnostic.isExpectation = final.expectations := by
    rw [List.filter_append, lexical, List.nil_append]
    rfl
  rw [diagnostics_parse reads, Diagnostic.filter_sorted, whole]
  rw [whole]
  exact starts.imp Nat.le_of_lt

end ScriptTree
