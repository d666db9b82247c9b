import ScriptTree.Parse

/-!
# Diagnostics in their order

The diagnostics of a parse are sorted by where they start, and diagnostics that
start at the same place stay as they are.  So those among them that were in this
order before are in the same order afterwards.
-/

namespace ScriptTree

namespace Diagnostic

theorem trans_start (first second third : Diagnostic)
    (early : decide (first.range.span.start ≤ second.range.span.start) = true)
    (late : decide (second.range.span.start ≤ third.range.span.start) = true) :
    decide (first.range.span.start ≤ third.range.span.start) = true := by
  rw [decide_eq_true_eq] at early late ⊢
  exact Nat.le_trans early late

theorem total_start (first second : Diagnostic) :
    (decide (first.range.span.start ≤ second.range.span.start) ||
      decide (second.range.span.start ≤ first.range.span.start)) = true := by
  simp only [Bool.or_eq_true, decide_eq_true_eq]
  exact Nat.le_total _ _

/-- A diagnostic that starts in front of the given one. -/
def startsBefore (diagnostic other : Diagnostic) : Bool :=
  other.range.span.start < diagnostic.range.span.start

/-- A diagnostic in front of all others is sorted in front of them. -/
theorem filter_startsBefore {diagnostic : Diagnostic} {back : List Diagnostic}
    (behind : ∀ other ∈ back, diagnostic.startsBefore other = false) :
    back.filter diagnostic.startsBefore = [] ∧
      back.filter (fun other => !diagnostic.startsBefore other) = back :=
  ⟨List.filter_eq_nil_iff.mpr fun other member => Bool.eq_false_iff.mp (behind other member),
    List.filter_eq_self.mpr fun other member => by rw [behind other member]; rfl⟩

/-- A diagnostic is put behind those that start in front of it, and in front of all others. -/
theorem sorted_cons (diagnostic : Diagnostic) (rest : List Diagnostic) :
    sorted (diagnostic :: rest) =
      (sorted rest).filter diagnostic.startsBefore ++
        diagnostic :: (sorted rest).filter fun other => !diagnostic.startsBefore other := by
  rcases List.mergeSort_cons trans_start total_start diagnostic rest with
    ⟨front, back, whole, parts, ahead⟩
  have before : ∀ other ∈ front, diagnostic.startsBefore other = true := by
    intro other member
    simpa [startsBefore] using ahead other member
  have behind : ∀ other ∈ back, diagnostic.startsBefore other = false := by
    have ordered := List.pairwise_mergeSort trans_start total_start (diagnostic :: rest)
    rw [whole] at ordered
    intro other member
    simpa [startsBefore] using
      List.rel_of_pairwise_cons (List.pairwise_append.mp ordered).2.1 member
  have none : front.filter (fun other => !diagnostic.startsBefore other) = [] :=
    List.filter_eq_nil_iff.mpr fun other member => by simp [before other member]
  rcases filter_startsBefore behind with ⟨unmoved, same⟩
  rw [sorted, whole, sorted, parts, List.filter_append, List.filter_append, unmoved, same, none,
    List.filter_eq_self.mpr before, List.append_nil, List.nil_append]

/-- Sorting drops nothing and adds nothing. -/
theorem mem_sorted {diagnostic : Diagnostic} {diagnostics : List Diagnostic} :
    diagnostic ∈ sorted diagnostics ↔ diagnostic ∈ diagnostics :=
  List.mem_mergeSort

theorem sorted_perm (diagnostics : List Diagnostic) : (sorted diagnostics).Perm diagnostics :=
  List.mergeSort_perm ..

/-- Diagnostics that all come before others are sorted apart. -/
theorem sorted_append {first second : List Diagnostic}
    (before : ∀ diagnostic ∈ first, ∀ other ∈ second,
      diagnostic.range.span.start ≤ other.range.span.start) :
    sorted (first ++ second) = sorted first ++ sorted second := by
  induction first with
  | nil => rw [List.nil_append, sorted, sorted, List.mergeSort_nil, List.nil_append]
  | cons diagnostic rest ih =>
    have behind : ∀ other ∈ sorted second, diagnostic.startsBefore other = false := by
      intro other member
      simpa [startsBefore] using
        before diagnostic List.mem_cons_self other (mem_sorted.mp member)
    rcases filter_startsBefore behind with ⟨unmoved, same⟩
    rw [List.cons_append, sorted_cons, sorted_cons,
      ih fun other member => before other (List.mem_cons_of_mem _ member), List.filter_append,
      List.filter_append, unmoved, same, List.append_nil, List.append_assoc, List.cons_append]

/-- Diagnostics that start one after the other are not moved against each other. -/
theorem filter_sorted {test : Diagnostic → Bool} {diagnostics : List Diagnostic}
    (ordered : (diagnostics.filter test).Pairwise fun first second =>
      first.range.span.start ≤ second.range.span.start) :
    (sorted diagnostics).filter test = diagnostics.filter test := by
  have inOrder : (diagnostics.filter test).Pairwise fun first second =>
      decide (first.range.span.start ≤ second.range.span.start) = true :=
    ordered.imp fun le => decide_eq_true le
  have kept : (diagnostics.filter test).Sublist (sorted diagnostics) :=
    List.sublist_mergeSort trans_start total_start inOrder List.filter_sublist
  have among := kept.filter test
  rw [List.filter_filter] at among
  simp only [Bool.and_self] at among
  exact (among.eq_of_length ((sorted_perm diagnostics).filter test).length_eq.symm).symm

end Diagnostic

end ScriptTree
