import ScriptTree.Proofs.Conservation
import ScriptTree.Proofs.Grammar.Braces

/-!
# Bodies and their braces

In a well-braced source each block and each class body that owns an opening
brace ends in a closing brace.  It is the brace that matches if and only if no
array initializer inside of the body was given up: one that was given up leaves
its own brace open, and the body takes the closing brace that was meant for it.
All other errors leave bodies as they are.
-/

namespace ScriptTree

namespace Node

/-- No brace is open in a tree exactly if no node of it leaves its brace open. -/
theorem openCount_eq_zero_iff {node : Node} :
    openCount [node] = 0 ↔ ∀ inner ∈ node.descendants, inner.leavesOpen = false := by
  simp [openCount, List.countP_eq_zero]

/-- Where each token occurs once, the last token of a body matches its opening brace if and only if
no array initializer inside of the body was given up. -/
theorem Reaches.encloses_iff {tokens : List PlacedToken} {node : Node}
    (reaches : node.Reaches tokens) (distinct : tokens.Nodup) (body : node.isBody = true)
    {opening : PlacedToken} (owned : opening ∈ node.tokens) (opens : opening.token = .lBrace) :
    ∃ closing, node.tokens.getLast? = some closing ∧ closing.token = .rBrace ∧
      ((∃ between, Encloses tokens opening between closing) ↔
        ∀ inner ∈ node.descendants, inner.leavesOpen = false) := by
  rcases reaches body opening owned opens with
    ⟨before, between, closing, after, whole, last, closes, walks⟩
  refine ⟨closing, last, closes, ?_⟩
  rw [← openCount_eq_zero_iff]
  constructor
  · rintro ⟨found, encloses⟩
    rw [whole] at distinct encloses
    have balanced := encloses.balanced
    rw [encloses.eq_between distinct, walks] at balanced
    exact Option.some.inj balanced
  · intro none
    rw [none] at walks
    exact ⟨between, opens, closes, ⟨before, after, whole⟩, walks⟩

end Node

/-- All bodies of a well-braced source reach to closing braces. -/
theorem allReach_parse {source : String} (braced : WellBraced (significantTokens source))
    (options : ParseOptions) :
    Node.AllReach (significantTokens source) [(parse source options).root] := by
  rcases exists_reads_parse source options with ⟨final, reads, -⟩
  have inner := reads.allReach braced (spelled_ofSource source) rfl List.suffix_rfl
  rw [Node.allReach_singleton, ParseResult.children_root]
  exact ⟨Node.reaches_of_not_isBody rfl, inner⟩

/-- No token of a source comes twice, for all of them are at different places. -/
theorem nodup_significantTokens (source : String) : (significantTokens source).Nodup :=
  (pairwise_significantTokens source).imp fun before same => by
    rw [same] at before
    exact Nat.lt_irrefl _ before

/-- In a well-braced source a body that owns an opening brace ends in a closing brace, and the two
match if and only if no array initializer inside of the body was given up. -/
theorem encloses_iff_of_wellBraced {source : String}
    (braced : WellBraced (significantTokens source)) (options : ParseOptions) {node : Node}
    (member : node ∈ (parse source options).root.descendants) (body : node.isBody = true)
    {opening : PlacedToken} (owned : opening ∈ node.tokens) (opens : opening.token = .lBrace) :
    ∃ closing, node.tokens.getLast? = some closing ∧ closing.token = .rBrace ∧
      ((∃ between, Encloses (significantTokens source) opening between closing) ↔
        ∀ inner ∈ node.descendants, inner.leavesOpen = false) := by
  have reaches := allReach_parse braced options node (by simpa using member)
  exact reaches.encloses_iff (nodup_significantTokens source) body owned opens

/-- A block in which a statement is skipped together with its braces. -/
theorem encloses_iff_of_wellBraced_skipped :
    WellBraced (significantTokens "func int f() \x7b a b \x7b c; \x7d d; \x7d") ∧
      ∃ node ∈ (parse "func int f() \x7b a b \x7b c; \x7d d; \x7d").root.descendants,
        node.isBody = true ∧ ∃ opening ∈ node.tokens, opening.token = .lBrace ∧
          ∃ closing, node.tokens.getLast? = some closing ∧ closing.token = .rBrace ∧
            ((∃ between, Encloses (significantTokens "func int f() \x7b a b \x7b c; \x7d d; \x7d")
                opening between closing) ↔
              ∀ inner ∈ node.descendants, inner.leavesOpen = false) := by
  have braced : WellBraced (significantTokens "func int f() \x7b a b \x7b c; \x7d d; \x7d") := by
    decide +kernel
  have present : (parse "func int f() \x7b a b \x7b c; \x7d d; \x7d").root.descendants.any
      (fun node => node.isBody && node.tokens.any (·.token = .lBrace)) = true := by
    decide +kernel
  simp only [List.any_eq_true, Bool.and_eq_true, decide_eq_true_eq] at present
  rcases present with ⟨node, member, body, opening, owned, opens⟩
  exact ⟨braced, node, member, body, opening, owned, opens,
    encloses_iff_of_wellBraced braced {} member body owned opens⟩

/-- A class body takes the closing brace of an initializer that was given up inside of it. -/
theorem not_encloses_of_initializer :
    WellBraced (significantTokens "class C\x7bvar int a=\x7b1 2\x7d;\x7d") ∧
      ¬∀ node ∈ (parse "class C\x7bvar int a=\x7b1 2\x7d;\x7d").root.descendants,
        node.isBody = true → ∀ opening ∈ node.tokens, opening.token = .lBrace →
          ∃ closing between, node.tokens.getLast? = some closing ∧
            Encloses (significantTokens "class C\x7bvar int a=\x7b1 2\x7d;\x7d") opening between
              closing := by
  have braced : WellBraced (significantTokens "class C\x7bvar int a=\x7b1 2\x7d;\x7d") := by
    decide +kernel
  have present : (parse "class C\x7bvar int a=\x7b1 2\x7d;\x7d").root.descendants.any
      (fun node => (node.isBody && node.tokens.any (·.token = .lBrace)) &&
        node.descendants.any Node.leavesOpen) = true := by
    decide +kernel
  refine ⟨braced, ?_⟩
  intro matched
  simp only [List.any_eq_true, Bool.and_eq_true, decide_eq_true_eq] at present
  rcases present with ⟨node, member, ⟨body, opening, owned, opens⟩, inner, within, givenUp⟩
  rcases matched node member body opening owned opens with ⟨closing, between, last, encloses⟩
  have reaches := allReach_parse braced {} node (by simpa using member)
  rcases reaches.encloses_iff (nodup_significantTokens _) body owned opens with
    ⟨found, lastFound, -, closed⟩
  rw [last] at lastFound
  cases lastFound
  rw [closed.mp ⟨between, encloses⟩ inner within] at givenUp
  cases givenUp

end ScriptTree
