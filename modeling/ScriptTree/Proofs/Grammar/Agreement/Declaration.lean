import ScriptTree.Proofs.Grammar.Agreement.Step

/-!
# The functions of declarations follow the rules
-/

namespace ScriptTree.Grammar

/-- A class item that starts with an identifier is an assignment, unless its target makes the parse
recover. -/
theorem classItem_of_identifier {state : State} (opens : state.isAt .identifier = true) :
    (classItem state).outcome =
      (match expression state with
        | ⟨target, afterTarget, _⟩ =>
          if afterTarget.recovering then
            (some (.abandoned target), afterTarget)
          else
            (some (.member (.assignmentStatement (assignment target afterTarget).value)),
              (assignment target afterTarget).next)) := by
  have noKind : Declining State.Any state VariableKind.ofToken? := by
    apply declines_of_peek
    intro token found
    simp only [State.isAt, found, decide_eq_true_eq, Option.some.injEq] at opens
    rw [opens]
    rfl
  rw [classItem, declining_any_iff.mp noKind]
  dsimp only
  rw [if_pos opens]
  split <;> rfl

/-! ## Declarations by their keyword -/

section

variable {permits : State → Prop} {state next : State} {lexeme : Lexeme}

theorem declaration_of_instance
    (taken : Taking permits state DeclarationStart.ofToken? .instanceKeyword lexeme next) :
    (declaration state).outcome =
      (some (.instanceDeclaration (instanceDeclaration lexeme.range next).value),
        (instanceDeclaration lexeme.range next).next) := by
  rw [declaration, taken.take?_eq]
  rfl

theorem declaration_of_prototype
    (taken : Taking permits state DeclarationStart.ofToken? .prototypeKeyword lexeme next) :
    (declaration state).outcome =
      (some (.prototypeDeclaration (prototypeDeclaration lexeme.range next).value),
        (prototypeDeclaration lexeme.range next).next) := by
  rw [declaration, taken.take?_eq]
  rfl

theorem declaration_of_function
    (taken : Taking permits state DeclarationStart.ofToken? .functionKeyword lexeme next) :
    (declaration state).outcome =
      (some (.functionDeclaration (functionDeclaration lexeme.range next).value),
        (functionDeclaration lexeme.range next).next) := by
  rw [declaration, taken.take?_eq]
  rfl

theorem declaration_of_class
    (taken : Taking permits state DeclarationStart.ofToken? .classKeyword lexeme next) :
    (declaration state).outcome =
      (some (.classDeclaration (classDeclaration lexeme.range next).value),
        (classDeclaration lexeme.range next).next) := by
  rw [declaration, taken.take?_eq]
  rfl

theorem variableKind_of_start {token : Token} {kind : VariableKind}
    (started : DeclarationStart.ofToken? token = some (.variableKeyword kind)) :
    VariableKind.ofToken? token = some kind := by
  cases token <;> cases started <;> rfl

theorem declaration_of_variable {kind : VariableKind}
    (taken : Taking permits state VariableKind.ofToken? kind lexeme next) :
    (declaration state).outcome =
      (some (.variableDeclaration (variableDeclaration kind lexeme.range next).value),
        (variableDeclaration kind lexeme.range next).next) := by
  have found := VariableKind.ofToken?_eq_some_iff.mp taken.recognized
  have started :
      Taking permits state DeclarationStart.ofToken? (.variableKeyword kind) lexeme next :=
    { taken with recognized := by rw [← found]; cases kind <;> rfl }
  rw [declaration, started.take?_eq]
  rfl

end

/-! ## Declarations and their parts -/

theorem computes_parentClause :
    Production.parentClause.Inherits State.Any Computes := by
  intro state value next reads parts
  cases parts with
  | parentAbsent declined =>
    simp only [Computes]
    rw [parentClause, unlessRecovering?_eq_none declined]
    rfl
  | parentWritten taken _ _ _ name _ closes =>
    obtain ⟨_, name⟩ := Step.eq_of_outcome name
    obtain ⟨_, closes⟩ := Step.eq_of_outcome closes
    simp only [Computes]
    rw [parentClause, taken.unlessRecovering?_eq]
    dsimp only
    rw [name]
    dsimp only
    rw [closes]
    rfl

theorem computes_instanceBody (hasParent : Bool) :
    (Production.instanceBody hasParent).Inherits State.Any Computes := by
  intro state value next reads parts
  cases parts with
  | instanceIdle recovering =>
    simp only [Computes]
    rw [instanceBody, if_pos recovering]
    rfl
  | instanceBlock normal opens _ _ _ body _ semicolon =>
    obtain ⟨_, body⟩ := Step.eq_of_outcome body
    obtain ⟨_, semicolon⟩ := Step.eq_of_outcome semicolon
    simp only [Computes]
    rw [instanceBody, if_neg (by simp [normal]), if_pos opens, body]
    dsimp only
    rw [semicolon]
    rfl
  | @instanceForward hasParent state semicolon next taken =>
    have front : state.recovering = false ∧ state.isAt .semicolon = true := by
      have normal := taken.normal
      have found := taken.isAt
      cases hasParent <;> simp_all [State.isAt, State.peek, State.reportMissing]
    have noBlock : state.isAt .lBrace = false := by
      have found := front.2
      simp only [State.isAt, decide_eq_true_eq] at found
      simp [State.isAt, found]
    simp only [Computes]
    rw [instanceBody, if_neg (by simp [front]), if_neg (by simp [noBlock]), if_pos front.2]
    dsimp only
    rw [taken.eat_eq]
    rfl
  | instanceBare normal noBlock noSemicolon =>
    simp only [Computes]
    rw [instanceBody, if_neg (by simp [normal]), if_neg (by simp [noBlock]),
      if_neg (by simp [noSemicolon])]
    rfl

theorem computes_declarationBody :
    Production.declarationBody.Inherits State.Any Computes := by
  intro state value next reads parts
  cases parts with
  | bodyIdle recovering =>
    simp only [Computes]
    rw [declarationBody, if_pos recovering]
    rfl
  | bodyMissing normal _ missing _ body =>
    obtain ⟨_, body⟩ := Step.eq_of_outcome body
    simp only [Computes]
    rw [declarationBody, if_neg (by simp [normal]), body]
    dsimp only
    rw [if_pos missing]
    rfl
  | bodyWritten normal _ written _ _ body _ semicolon =>
    obtain ⟨_, body⟩ := Step.eq_of_outcome body
    obtain ⟨_, semicolon⟩ := Step.eq_of_outcome semicolon
    simp only [Computes]
    rw [declarationBody, if_neg (by simp [normal]), body]
    dsimp only
    rw [if_neg (by simp [written]), semicolon]
    rfl

theorem computes_qualifier :
    Production.qualifier.Inherits State.Any Computes := by
  intro state value next reads parts
  cases parts with
  | qualifierAbsent declined =>
    simp only [Computes]
    rw [qualifier, declining_any_iff.mp declined]
    rfl
  | qualifierWritten taken =>
    simp only [Computes]
    rw [qualifier, taken.take?_eq]
    rfl

theorem computes_parameter :
    Production.parameter.Inherits State.Any Computes := by
  intro state value next reads parts
  cases parts with
  | parameter _ _ _ _ qualifier _ type _ name =>
    obtain ⟨_, qualifier⟩ := Step.eq_of_outcome qualifier
    obtain ⟨_, type⟩ := Step.eq_of_outcome type
    obtain ⟨_, name⟩ := Step.eq_of_outcome name
    simp only [Computes]
    rw [Grammar.parameter, qualifier]
    dsimp only
    rw [type]
    dsimp only
    rw [name]
    rfl

theorem computes_parameters :
    Production.parameters.Inherits State.Any Computes := by
  intro state value next reads parts
  cases parts with
  | parametersLast _ declined _ _ item _ closes =>
    obtain ⟨_, item⟩ := Step.eq_of_outcome item
    simp only [Computes]
    rw [parameters, item]
    dsimp only
    rw [unlessRecovering?_eq_none declined]
    exact ⟨rfl, closes⟩
  | parametersTrailing _ taken closes _ item =>
    obtain ⟨_, item⟩ := Step.eq_of_outcome item
    simp only [Computes]
    rw [parameters, item]
    dsimp only
    rw [taken.unlessRecovering?_eq]
    dsimp only
    rw [if_pos (by simpa [State.isAt, State.peek] using closes.isAt)]
    exact ⟨rfl, closes.computes_closing⟩
  | parametersNext _ taken goesOn _ _ item _ rest =>
    obtain ⟨_, item⟩ := Step.eq_of_outcome item
    simp only [Computes]
    rw [parameters, item]
    dsimp only
    rw [taken.unlessRecovering?_eq]
    dsimp only
    rw [if_neg (by simp [goesOn])]
    obtain ⟨rfl, closes⟩ := rest
    exact ⟨rfl, closes⟩

theorem computes_parameterList :
    Production.parameterList.Inherits State.Any Computes := by
  intro state value next reads parts
  cases parts with
  | parameterListIdle recovering =>
    simp only [Computes]
    rw [parameterList, if_pos recovering]
    rfl
  | parameterListMissing missed =>
    simp only [Computes]
    rw [parameterList, if_neg (by simp [missed.normal]), missed.take?_eq]
    rfl
  | parameterListEmpty taken closes =>
    simp only [Computes]
    rw [parameterList, if_neg (by simp [taken.normal]), taken.take?_eq]
    dsimp only
    rw [if_pos closes.isAt, closes.unlessRecovering_expect_eq]
    rfl
  | parameterListFilled taken filled _ _ items =>
    obtain ⟨sameItems, closes⟩ := items
    subst sameItems
    obtain ⟨_, closes⟩ := Step.eq_of_outcome closes
    simp only [Computes]
    rw [parameterList, if_neg (by simp [taken.normal]), taken.take?_eq]
    dsimp only
    rw [if_neg (by simp [filled]), closes]
    rfl

theorem computes_classItem :
    Production.classItem.Inherits State.Any Computes := by
  intro state value next reads parts
  cases parts with
  | classVariable _ _ declaration =>
    obtain ⟨kind, keyword, afterKeyword, taken, declaration⟩ := declaration
    obtain ⟨_, declaration⟩ := Step.eq_of_outcome declaration
    simp only [Computes]
    rw [classItem, taken.take?_eq]
    dsimp only
    rw [declaration]
    rfl
  | classAbandoned opens _ recovering _ target =>
    obtain ⟨_, target⟩ := Step.eq_of_outcome target
    change expression _ = _ at target
    simp only [Computes]
    rw [classItem_of_identifier opens, target]
    dsimp only
    rw [if_pos recovering]
  | classAssignment opens _ normal _ _ target _ tail =>
    obtain ⟨_, target⟩ := Step.eq_of_outcome target
    obtain ⟨_, tail⟩ := Step.eq_of_outcome (tail _ _ rfl)
    change expression _ = _ at target
    simp only [Computes]
    rw [classItem_of_identifier opens, target]
    dsimp only
    rw [if_neg (by simp [normal]), tail]
  | classRejected noKind noTarget =>
    simp only [Computes]
    rw [classItem, declining_any_iff.mp noKind]
    dsimp only
    rw [if_neg (by simp [noTarget])]
    rfl

theorem computes_classItems :
    Production.classItems.Inherits State.Any Computes := by
  intro state value next reads parts
  cases parts with
  | classItemsEnd ends =>
    simp only [Computes]
    rw [classItems, dif_pos ends]
    rfl
  | classItemsNext goesOn _ resumes _ _ item _ rest =>
    obtain ⟨fewer, item⟩ := Step.eq_of_outcome item
    obtain ⟨_, rest⟩ := Step.eq_of_outcome rest
    have nonempty := rest_ne_nil_of_endsList_eq_false (by simpa using goesOn)
    obtain ⟨_, resumed⟩ := Subtype.eq_of_val_eq (resumes.resync_eq fewer nonempty)
    simp only [Computes]
    rw [classItems, dif_neg (by simp [goesOn]), item]
    dsimp only
    rw [resumed]
    dsimp only
    rw [rest]
    rfl

theorem computes_classBody :
    Production.classBody.Inherits State.Any Computes := by
  intro state value next reads parts
  cases parts with
  | classBodyMissing declined =>
    simp only [Computes]
    rw [classBody, declining_any_iff.mp declined]
    rfl
  | classBodyWritten taken _ _ _ items _ closes =>
    obtain ⟨_, items⟩ := Step.eq_of_outcome items
    obtain ⟨_, closes⟩ := Step.eq_of_outcome closes
    simp only [Computes]
    rw [classBody, taken.take?_eq]
    dsimp only
    rw [items]
    dsimp only
    rw [closes]
    rfl

theorem computes_declaration :
    Production.declaration.Inherits State.Any Computes := by
  intro state value next reads parts
  cases parts with
  | declarationInstance taken _ _ _ _ name _ parent _ body =>
    obtain ⟨_, name⟩ := Step.eq_of_outcome name
    obtain ⟨_, parent⟩ := Step.eq_of_outcome parent
    obtain ⟨_, body⟩ := Step.eq_of_outcome body
    simp only [Computes]
    rw [declaration_of_instance taken, instanceDeclaration, name]
    dsimp only
    rw [parent]
    dsimp only
    rw [body]
  | declarationPrototype taken _ _ _ _ _ _ name _ opens _ parent _ closes _ body =>
    obtain ⟨_, name⟩ := Step.eq_of_outcome name
    obtain ⟨_, opens⟩ := Step.eq_of_outcome opens
    obtain ⟨_, parent⟩ := Step.eq_of_outcome parent
    obtain ⟨_, closes⟩ := Step.eq_of_outcome closes
    obtain ⟨_, body⟩ := Step.eq_of_outcome body
    simp only [Computes]
    rw [declaration_of_prototype taken, prototypeDeclaration, name]
    dsimp only
    rw [opens]
    dsimp only
    rw [parent]
    dsimp only
    rw [closes]
    dsimp only
    rw [body]
  | declarationFunction taken _ _ _ _ _ type _ name _ parameters _ body =>
    obtain ⟨_, type⟩ := Step.eq_of_outcome type
    obtain ⟨_, name⟩ := Step.eq_of_outcome name
    obtain ⟨_, parameters⟩ := Step.eq_of_outcome parameters
    obtain ⟨_, body⟩ := Step.eq_of_outcome body
    simp only [Computes]
    rw [declaration_of_function taken, functionDeclaration, type]
    dsimp only
    rw [name]
    dsimp only
    rw [parameters]
    dsimp only
    rw [body]
  | declarationNamelessClass taken _ recovering _ name =>
    obtain ⟨_, name⟩ := Step.eq_of_outcome name
    simp only [Computes]
    rw [declaration_of_class taken, classDeclaration, name]
    dsimp only
    rw [if_pos recovering]
  | declarationUnfinishedClass taken _ normal _ missing _ name _ body =>
    obtain ⟨_, name⟩ := Step.eq_of_outcome name
    obtain ⟨_, body⟩ := Step.eq_of_outcome body
    simp only [Computes]
    rw [declaration_of_class taken, classDeclaration, name]
    dsimp only
    rw [if_neg (by simp [normal]), body]
    dsimp only
    rw [if_pos missing]
  | declarationClass taken _ normal _ written _ _ name _ body _ semicolon =>
    obtain ⟨_, name⟩ := Step.eq_of_outcome name
    obtain ⟨_, body⟩ := Step.eq_of_outcome body
    obtain ⟨_, semicolon⟩ := Step.eq_of_outcome semicolon
    simp only [Computes]
    rw [declaration_of_class taken, classDeclaration, name]
    dsimp only
    rw [if_neg (by simp [normal]), body]
    dsimp only
    rw [if_neg (by simp [written]), semicolon]
  | declarationVariable _ _ declaration =>
    obtain ⟨kind, keyword, afterKeyword, taken, declaration⟩ := declaration
    obtain ⟨_, declaration⟩ := Step.eq_of_outcome declaration
    simp only [Computes]
    rw [declaration_of_variable taken, declaration]
  | declarationRejected declined =>
    simp only [Computes]
    rw [declaration, declining_any_iff.mp declined]
    rfl

theorem computes_declarations :
    Production.declarations.Inherits State.Any Computes := by
  intro state value next reads parts
  cases parts with
  | declarationsEnd ends =>
    simp only [Computes]
    rw [declarations, dif_pos ends]
    rfl
  | declarationsNext goesOn _ resumes _ _ item _ rest =>
    obtain ⟨fewer, item⟩ := Step.eq_of_outcome item
    obtain ⟨_, rest⟩ := Step.eq_of_outcome rest
    obtain ⟨_, resumed⟩ := Subtype.eq_of_val_eq (resumes.resync_eq fewer goesOn)
    simp only [Computes]
    rw [declarations, dif_neg goesOn, item]
    dsimp only
    rw [resumed]
    dsimp only
    rw [rest]
    rfl

end ScriptTree.Grammar
