import ScriptTree.Proofs.Grammar.Alone.Declaration
import ScriptTree.Proofs.Grammar.Coverage

/-!
# Every declaration stands alone

The lexemes of a declaration, read alone, are one declaration, the same one
places apart.  So are the lexemes of an error node at the top level: the first
of them starts no declaration, and a skip from there does not stop before the
last one.
-/

namespace ScriptTree.Grammar

/-- A declaration is all that some lexemes are read as, on whatever lines they are, places
apart. -/
def StandsAlone (declaration : Declaration) (own : List Lexeme) : Prop :=
  ∀ ⦃lines : Nat⦄ ⦃above : List Lexeme⦄, List.Forall₂ (Lexeme.IsBelow lines) own above →
    ∃ alone final, Reads .declarations (.ofLexemes above) [alone] final ∧
      alone.unplaced = declaration.unplaced

variable {state next : State}

/-! ## Declarations with a keyword -/

theorem Taking.at_anchor {α : Type} {recognize : Token → Option α} {value : α} {lexeme : Lexeme}
    (taken : Takes state recognize value lexeme next) (anchor : Range) :
    Takes { state with anchor } recognize value lexeme next where
  permitted := taken.normal
  recognized := taken.recognized
  front := taken.front
  moved := taken.moved

/-- What is read of a declaration does not depend on where the token before it ends. -/
theorem Derivation.at_anchor {declaration : Declaration}
    (reads : Reads .declaration state (some declaration) next) (anchor : Range) :
    Reads .declaration { state with anchor } (some declaration) next := by
  cases reads with
  | declarationInstance taken readsName readsParent readsBody =>
    exact .declarationInstance (taken.at_anchor anchor) readsName readsParent readsBody
  | declarationPrototype taken readsName opens readsParent closes readsBody =>
    exact .declarationPrototype (taken.at_anchor anchor) readsName opens readsParent closes
      readsBody
  | declarationFunction taken readsType readsName readsParameters readsBody =>
    exact .declarationFunction (taken.at_anchor anchor) readsType readsName readsParameters
      readsBody
  | declarationNamelessClass taken readsName recovering =>
    exact .declarationNamelessClass (taken.at_anchor anchor) readsName recovering
  | declarationUnfinishedClass taken readsName normal readsBody missing =>
    exact .declarationUnfinishedClass (taken.at_anchor anchor) readsName normal readsBody missing
  | declarationClass taken readsName normal readsBody written readsSemicolon =>
    exact .declarationClass (taken.at_anchor anchor) readsName normal readsBody written
      readsSemicolon
  | declarationVariable readsDeclaration =>
    cases readsDeclaration with
    | variableDeclaration taken readsType readsName readsSize readsInitializer ends =>
      exact .declarationVariable (.variableDeclaration (taken.at_anchor anchor) readsType
        readsName readsSize readsInitializer ends)

/-- A declaration that is read takes a token at least. -/
theorem Derivation.fewer_declaration {declaration : Declaration}
    (reads : Reads .declaration state (some declaration) next) :
    next.rest.length < state.rest.length := by
  cases reads with
  | declarationVariable readsDeclaration => exact readsDeclaration.fewer_variableDeclaration
  | declarationInstance taken readsName readsParent readsBody =>
    exact Nat.lt_of_le_of_lt (readsBody.length_rest_le.trans
      (readsParent.length_rest_le.trans readsName.length_rest_le)) taken.fewer
  | declarationPrototype taken readsName opens readsParent closes readsBody =>
    have header := readsParent.length_rest_le.trans
      (opens.length_rest_le.trans readsName.length_rest_le)
    exact Nat.lt_of_le_of_lt
      (readsBody.length_rest_le.trans (closes.length_rest_le.trans header)) taken.fewer
  | declarationFunction taken readsType readsName readsParameters readsBody =>
    have header := readsParameters.length_rest_le.trans
      (readsName.length_rest_le.trans readsType.length_rest_le)
    exact Nat.lt_of_le_of_lt (readsBody.length_rest_le.trans header) taken.fewer
  | declarationNamelessClass taken readsName =>
    exact Nat.lt_of_le_of_lt readsName.length_rest_le taken.fewer
  | declarationUnfinishedClass taken readsName _ readsBody =>
    exact Nat.lt_of_le_of_lt (readsBody.length_rest_le.trans readsName.length_rest_le) taken.fewer
  | declarationClass taken readsName _ readsBody _ readsSemicolon =>
    have body := readsBody.length_rest_le.trans readsName.length_rest_le
    exact Nat.lt_of_le_of_lt (readsSemicolon.length_rest_le.trans body) taken.fewer

/-- The lexemes a declaration was read from are read alone as that declaration. -/
theorem Derivation.standsAlone {declaration : Declaration} {own : List Lexeme}
    (reads : Reads .declaration state (some declaration) next) (normal : state.recovering = false)
    (whole : state.rest = own ++ next.rest) : StandsAlone declaration own := by
  intro lines above similar
  have echo : Echo lines next.rest { state with anchor := .emptyAt 0 ⟨lines, 0⟩ }
      (.ofLexemes above) :=
    { rest := ⟨own, whole, similar⟩
      mode := fun _ => normal.symm
      line := fun _ => rfl }
  have fewer := reads.fewer_declaration
  have begun : state.rest ≠ next.rest := by
    intro same
    rw [same] at fewer
    exact absurd fewer (Nat.lt_irrefl _)
  rcases (reads.at_anchor _).repeats_declaration echo List.suffix_rfl begun with
    ⟨item, after, readsAlone, alike, echoAfter⟩
  have ended : after.rest = [] := by
    have length := echoAfter.length_rest
    exact List.length_eq_zero_iff.mp (Nat.right_eq_add.mp length)
  cases item with
  | none => cases alike
  | some alone =>
    have progress := readsAlone.fewer_declaration
    rcases resumes_of_empty .topLevel progress ended with ⟨final, resumes, nothing⟩
    refine ⟨alone, final, ?_, by simpa [Production.unplaced] using alike⟩
    exact .declarationsNext (List.ne_nil_of_length_pos (Nat.zero_lt_of_lt progress)) readsAlone
      resumes (.declarationsEnd nothing)

/-! ## Errors between declarations -/

/-- A skip outside of all declarations stops where a declaration may start. -/
theorem stopsAt_topLevel_iff {token : Token} :
    SyncLevel.topLevel.stopsAt 0 token = true ↔ DeclarationStart.ofToken? token ≠ none := by
  cases token <;>
    simp [SyncLevel.stopsAt, SyncLevel.isBoundary, Token.isTopLevelOnly,
      Token.isDeclarationKeyword, DeclarationStart.ofToken?]

/-- What a skip takes at the top level is skipped again when it is read alone. -/
theorem standsAlone_skipped {own tail : List Lexeme} {node : ErrorNode}
    (skipped : SyncLevel.topLevel.skip 0 (own ++ tail) = (own, tail))
    (made : ErrorNode.ofTokens? (own.map Lexeme.toPlacedToken) = some node) :
    StandsAlone (.error node) own := by
  intro lines above similar
  have divided : DividesAlike (Lexeme.IsBelow lines) tail (own, tail)
      (SyncLevel.topLevel.skip 0 above) := by
    rw [← skipped]
    exact SyncLevel.topLevel.skip_alike (fun _ _ same => same.token) 0 similar
      (.inl (by simp [skipped]))
  have nothing : (SyncLevel.topLevel.skip 0 above).2 = [] := by
    rcases divided.2 with ⟨left, whole, rest⟩
    rw [List.self_eq_append_left.mp whole, List.forall₂_nil_left_iff] at rest
    exact rest
  have all : (SyncLevel.topLevel.skip 0 above).1 = above := by
    have whole := SyncLevel.topLevel.skip_append 0 above
    rw [nothing, List.append_nil] at whole
    exact whole
  have alike := unplaced_ofTokens? similar
  rw [made] at alike
  rcases Option.map_eq_some_iff.mp alike with ⟨alone, madeAlone, same⟩
  cases above with
  | nil => cases madeAlone
  | cons first rest =>
    have declined : Declines (.ofLexemes (first :: rest)) DeclarationStart.ofToken? := by
      intro _ lexeme member
      cases member
      by_contra keyword
      rw [SyncLevel.skip_eq_nil_iff.mpr (stopsAt_topLevel_iff.mpr keyword)] at all
      cases all
    have rejected := Derivation.declarationRejected declined
    have synchronized :
        ((State.ofLexemes (first :: rest)).reject "declaration").synchronize .topLevel =
          (some alone, ((State.ofLexemes (first :: rest)).reject "declaration").passOver
            (first :: rest) []) := by
      rw [State.synchronize, State.rest_reject, ← madeAlone]
      simp only [State.ofLexemes]
      rw [all, nothing]
    have resumes : Resumes .topLevel (.ofLexemes (first :: rest))
        ((State.ofLexemes (first :: rest)).reject "declaration") _ _ :=
      .synchronized (.inr ⟨by simp, by rw [synchronized]; rfl⟩)
    rw [synchronized] at resumes
    refine ⟨.error alone, _,
      .declarationsNext (List.cons_ne_nil _ _) rejected resumes (.declarationsEnd rfl), ?_⟩
    rw [Declaration.unplaced, same]
    rfl

/-! ## Programs -/

/-- A declaration covers some lexemes of a state, and alone they are read as that declaration. -/
structure OwnLexemes (declaration : Declaration) (state : State) (own : List Lexeme) : Prop where
  within : ∃ before after, state.rest = before ++ own ++ after
  placed : Slot.placed declaration.slots = own.map Lexeme.toPlacedToken
  nonempty : own ≠ []
  covers : declaration.range.Covers declaration.slots
  standsAlone : StandsAlone declaration own

theorem OwnLexemes.of_suffix {declaration : Declaration} {state later : State}
    {own : List Lexeme} (found : OwnLexemes declaration later own)
    (suffix : later.rest <:+ state.rest) : OwnLexemes declaration state own :=
  { found with
    within := by
      rcases suffix with ⟨passed, whole⟩
      rcases found.within with ⟨before, after, divided⟩
      exact ⟨passed ++ before, after, by rw [← whole, divided]; simp⟩ }

/-- What was read of a declaration are lexemes of its own. -/
theorem Derivation.ownLexemes_declaration {declaration : Declaration}
    (reads : Reads .declaration state (some declaration) next) (normal : state.recovering = false)
    (settled : state.Settled) : ∃ own, OwnLexemes declaration state own := by
  rcases reads.rest_suffix with ⟨own, whole⟩
  have placed := reads.placed settled.spelled
  rw [State.placed, State.placed, ← whole, List.map_append] at placed
  have fewer := reads.fewer_declaration
  exact
    ⟨own,
      { within := ⟨[], next.rest, whole.symm⟩
        placed := (List.append_cancel_right placed).symm
        nonempty := by
          rintro rfl
          rw [← whole, List.nil_append] at fewer
          exact absurd fewer (Nat.lt_irrefl _)
        covers := reads.covers_declaration settled
        standsAlone := reads.standsAlone normal whole.symm }⟩

/-- Where no declaration is read, the first lexeme does not stop a skip. -/
theorem Derivation.not_stuck {item : Option Declaration} {lexeme : Lexeme} {rest : List Lexeme}
    (reads : Reads .declaration state item next) (normal : state.recovering = false)
    (idle : ¬next.rest.length < state.rest.length) (front : next.rest = lexeme :: rest) :
    (next.synchronize .topLevel).1 ≠ none := by
  intro stuck
  cases item with
  | some declaration => exact idle reads.fewer_declaration
  | none =>
    cases reads with
    | declarationRejected declined =>
      rw [State.rest_reject] at front
      have nothing : (SyncLevel.topLevel.skip 0 (lexeme :: rest)).1 = [] := by
        have none := (state.reject "declaration").skipped_synchronize .topLevel
        rw [stuck, State.rest_reject, front] at none
        exact List.map_eq_nil_iff.mp none.symm
      have keyword := stopsAt_topLevel_iff.mp (SyncLevel.skip_eq_nil_iff.mp nothing)
      exact keyword (declined normal lexeme (by rw [front]; rfl))

/-- What was skipped for an error node are lexemes of its own. -/
theorem Resumes.ownLexemes {start state next : State} {item : Option Declaration}
    {node : ErrorNode} (readsItem : Reads .declaration start item state)
    (resumes : Resumes .topLevel start state (some node) next)
    (normal : start.recovering = false) :
    ∃ own, OwnLexemes (.error node) state own := by
  have covers := resumes.covers rfl
  generalize found : some node = skipped at resumes
  cases resumes with
  | onward => cases found
  | synchronized =>
    have whole := SyncLevel.topLevel.skip_append 0 state.rest
    refine ⟨(SyncLevel.topLevel.skip 0 state.rest).1, ?_⟩
    exact
      { within := ⟨[], (SyncLevel.topLevel.skip 0 state.rest).2, whole.symm⟩
        placed := by
          have tokens := state.skipped_synchronize .topLevel
          rw [← found] at tokens
          rw [Declaration.slots, ErrorNode.placed_slots]
          exact tokens
        nonempty := by
          intro nothing
          simp [State.synchronize, nothing, ErrorNode.ofTokens?] at found
        covers := covers
        standsAlone := by
          have again : SyncLevel.topLevel.skip 0 ((SyncLevel.topLevel.skip 0 state.rest).1 ++
              (SyncLevel.topLevel.skip 0 state.rest).2) =
              ((SyncLevel.topLevel.skip 0 state.rest).1,
                (SyncLevel.topLevel.skip 0 state.rest).2) := by
            rw [whole]
          exact standsAlone_skipped again found.symm }
  | skippedOne idle stuck front => exact absurd stuck (readsItem.not_stuck normal idle front)

/-- The declarations among what a production yields. -/
def Production.declared : (production : Production) → production.Value → List Declaration
  | .declarations, items => items
  | _, _ => []

/-- Every declaration of a program has lexemes of its own. -/
theorem Derivation.exists_ownLexemes {production : Production} {state next : State}
    {value : production.Value} (reads : Reads production state value next)
    (normal : state.recovering = false) (settled : state.Settled) :
    ∀ declaration ∈ production.declared value, ∃ own, OwnLexemes declaration state own := by
  induction reads with
  | @declarationsNext _ item _ skipped _ _ _ _ readsItem resumes _ _ later =>
    intro declaration member
    have settledItem := readsItem.settled settled
    rcases List.mem_append.mp member with here | after
    · rcases List.mem_append.mp here with read | error
      · rw [Option.mem_toList] at read
        subst read
        exact readsItem.ownLexemes_declaration normal settled
      · rcases skipped with _ | node
        · cases error
        · rw [List.mem_singleton.mp error]
          rcases resumes.ownLexemes readsItem normal with ⟨own, found⟩
          exact ⟨own, found.of_suffix readsItem.rest_suffix⟩
    · rcases later resumes.normal (resumes.settled settledItem) declaration after with
        ⟨own, found⟩
      exact ⟨own, found.of_suffix (resumes.moves.rest_suffix.trans readsItem.rest_suffix)⟩
  | _ => simp [Production.declared]

end ScriptTree.Grammar
