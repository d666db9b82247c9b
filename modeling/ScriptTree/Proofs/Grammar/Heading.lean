import ScriptTree.Proofs.Grammar.Alone.Program
import ScriptTree.Proofs.Grammar.Avoidance

/-!
# The keywords that head declarations

An instance, a prototype, a function or a class is headed by its keyword.  Such a
keyword is taken by nothing else: whatever is read inside of a declaration, or
skipped after one, avoids it.  So the keywords that a list of declarations takes
head its declarations, in order.
-/

namespace ScriptTree

/-- The keyword of a declaration that cannot be nested, at its place. -/
def Declaration.heading? : Declaration → Option PlacedToken
  | .instanceDeclaration declaration => some ⟨.kwInstance, declaration.keyword⟩
  | .prototypeDeclaration declaration => some ⟨.kwPrototype, declaration.keyword⟩
  | .functionDeclaration declaration => some ⟨.kwFunc, declaration.keyword⟩
  | .classDeclaration declaration => some ⟨.kwClass, declaration.keyword⟩
  | .variableDeclaration _ | .error _ => none

namespace Grammar

/-- The keywords that are not taken yet and head declarations. -/
def State.headings (state : State) : List PlacedToken :=
  state.placed.filter fun placed => placed.token.isTopLevelOnly

variable {state next : State}

/-! ## Inside of a declaration -/

/-- Whether a production is read inside of a declaration. -/
def Production.isInner : Production → Bool
  | .declaration | .declarations => false
  | .optional own | .expected own => !own.isTopLevelOnly
  | _ => true

/-- An inner production takes no token that only the top level knows. -/
theorem Production.avoids_of_isInner {production : Production} (inner : production.isInner = true)
    {token : Token} (topLevel : token.isTopLevelOnly = true) :
    production.avoids token = true := by
  cases production with
  | optional own | expected own =>
    rw [avoids, bne_iff_ne]
    rintro rfl
    simp [isInner, topLevel] at inner
  | closingBrace =>
    rw [avoids, bne_iff_ne]
    rintro rfl
    cases topLevel
  | declaration | declarations => cases inner
  | _ => first | exact topLevel | exact Token.isStructural_of_isTopLevelOnly topLevel

/-- The headings ahead do not change where plain tokens are taken. -/
theorem State.headings_of_append (taken : List Lexeme) (whole : state.rest = taken ++ next.rest)
    (plain : ∀ lexeme ∈ taken, lexeme.token.isTopLevelOnly = false) :
    state.headings = next.headings := by
  have none : (taken.map Lexeme.toPlacedToken).filter (·.token.isTopLevelOnly) = [] := by
    rw [List.filter_eq_nil_iff]
    intro placed member
    rcases List.mem_map.mp member with ⟨lexeme, among, rfl⟩
    exact Bool.eq_false_iff.mp (plain lexeme among)
  rw [headings, headings, placed, whole, List.map_append, List.filter_append, none,
    List.nil_append, placed]

/-- Nothing inside of a declaration takes a keyword that heads one. -/
theorem Derivation.headings {production : Production} {value : production.Value}
    (reads : Reads production state value next) (inner : production.isInner = true) :
    state.headings = next.headings := by
  rcases reads.exists_taken with ⟨taken, whole, avoided⟩
  apply State.headings_of_append taken whole
  intro lexeme member
  cases topLevel : lexeme.token.isTopLevelOnly with
  | false => rfl
  | true =>
    have refused := avoided lexeme member (Token.isStructural_of_isTopLevelOnly topLevel)
    rw [Production.avoids_of_isInner inner topLevel] at refused
    cases refused

/-- A keyword of the top level is the first of the headings ahead. -/
theorem Taking.headings {start : DeclarationStart} {keyword : Lexeme}
    (taken : Takes state DeclarationStart.ofToken? start keyword next)
    (topLevel : start.token.isTopLevelOnly = true) :
    state.headings = ⟨start.token, keyword.range⟩ :: next.headings := by
  rw [State.headings, taken.placed_start]
  exact List.filter_cons_of_pos topLevel

/-! ## Declarations -/

/-- A declaration takes its own keyword and no other that heads a declaration. -/
theorem Derivation.headings_declaration {item : Option Declaration}
    (reads : Reads .declaration state item next) :
    state.headings = (item.bind Declaration.heading?).toList ++ next.headings := by
  cases reads with
  | declarationInstance taken readsName readsParent readsBody =>
    rw [taken.headings rfl, readsName.headings rfl, readsParent.headings rfl,
      readsBody.headings rfl]
    rfl
  | declarationPrototype taken readsName opens readsParent closes readsBody =>
    rw [taken.headings rfl, readsName.headings rfl, opens.headings rfl, readsParent.headings rfl,
      closes.headings rfl, readsBody.headings rfl]
    rfl
  | declarationFunction taken readsType readsName readsParameters readsBody =>
    rw [taken.headings rfl, readsType.headings rfl, readsName.headings rfl,
      readsParameters.headings rfl, readsBody.headings rfl]
    rfl
  | declarationNamelessClass taken readsName =>
    rw [taken.headings rfl, readsName.headings rfl]
    rfl
  | declarationUnfinishedClass taken readsName _ readsBody =>
    rw [taken.headings rfl, readsName.headings rfl, readsBody.headings rfl]
    rfl
  | declarationClass taken readsName _ readsBody _ readsSemicolon =>
    rw [taken.headings rfl, readsName.headings rfl, readsBody.headings rfl,
      readsSemicolon.headings rfl]
    rfl
  | declarationVariable readsDeclaration =>
    exact readsDeclaration.headings rfl
  | declarationRejected =>
    exact State.headings_of_append [] (State.rest_reject state "declaration").symm nofun

/-- What is skipped between declarations holds no keyword that heads one. -/
theorem Resumes.headings {start : State} {item : Option Declaration} {skipped : Option ErrorNode}
    (resumes : Resumes .topLevel start state skipped next)
    (reads : Reads .declaration start item state) (normal : start.recovering = false) :
    state.headings = next.headings := by
  cases resumes with
  | onward => rfl
  | synchronized =>
    exact State.headings_of_append _ (SyncLevel.skip_append .topLevel 0 state.rest).symm
      fun _ => SyncLevel.isTopLevelOnly_of_mem_skip
  | skippedOne idle stuck front => exact absurd stuck (reads.not_stuck normal idle front)

/-- What a production takes from one state to the next, where it yields declarations: each keyword
that it takes heads one of them. -/
def Production.TakesHeadings :
    (production : Production) → State → production.Value → State → Prop
  | .declarations, state, items, next =>
    state.recovering = false →
      state.headings = items.filterMap Declaration.heading? ++ next.headings
  | _, _, _, _ => True

/-- Each keyword of the top level that a production takes heads a declaration that it yields. -/
theorem Derivation.takesHeadings {production : Production} {value : production.Value}
    (reads : Reads production state value next) : production.TakesHeadings state value next := by
  induction reads with
  | declarationsEnd => exact fun _ => rfl
  | @declarationsNext _ item _ skipped _ _ _ _ readsItem resumes _ _ later =>
    intro normal
    have own : (item.toList ++ (skipped.map Declaration.error).toList).filterMap
        Declaration.heading? = (item.bind Declaration.heading?).toList := by
      cases item <;> cases skipped <;> simp [Declaration.heading?, List.filterMap_cons]
      all_goals split <;> simp_all
    rw [readsItem.headings_declaration, resumes.headings readsItem normal,
      later resumes.normal, List.filterMap_append, own, List.append_assoc]
  | _ => trivial

end Grammar

end ScriptTree
