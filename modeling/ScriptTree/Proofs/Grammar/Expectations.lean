import Mathlib.Data.List.Forall2
import ScriptTree.Proofs.Grammar.Reports

/-!
# One expectation at a lexeme

What the grammar expects in vain is reported at the index of the state.  The
index never falls, and a report is left out where one was noted at the same
index.  So the reports that are made stand at indices that rise strictly, and
each says what it found at its index.
-/

namespace ScriptTree

/-- The range of the lexeme with an index, or the empty range after the lexeme before it. -/
def Lexeme.Marks (lexemes : List Lexeme) (index : Nat) (range : Range) : Prop :=
  (∃ lexeme, lexemes[index]? = some lexeme ∧ range = lexeme.range) ∨
    ∃ before lexeme, before + 1 = index ∧ lexemes[before]? = some lexeme ∧
      range = lexeme.range.after

namespace Diagnostic

/-- Whether a diagnostic says that something was expected and not found. -/
def isExpectation (diagnostic : Diagnostic) : Bool :=
  diagnostic.problem.code = .expectedToken

/-- A diagnostic about the lexeme with an index, or about the end of the lexemes: it names the
token found there, which is not one that was reported when it was read, and its range is that of
this lexeme or the empty one after the lexeme before it. -/
structure StandsAt (lexemes : List Lexeme) (index : Nat) (diagnostic : Diagnostic) : Prop where
  inside : index ≤ lexemes.length
  found : diagnostic.problem.found = lexemes[index]?.map fun lexeme => lexeme.token
  readable : diagnostic.problem.found.any Token.isError = false
  marks : Lexeme.Marks lexemes index diagnostic.range

end Diagnostic

namespace Grammar

variable {lexemes : List Lexeme} {state next : State}

namespace State.Traced

theorem index_le (traced : state.Traced lexemes) : state.index ≤ lexemes.length := by
  rcases traced.exists_passed with ⟨passed, rfl, length, -⟩
  rw [← length, List.length_append]
  exact Nat.le_add_right ..

theorem getElem?_index (traced : state.Traced lexemes) :
    lexemes[state.index]? = state.rest.head? := by
  rcases traced.exists_passed with ⟨passed, rfl, length, -⟩
  rw [← length, List.getElem?_append_right (Nat.le_refl _), Nat.sub_self, List.head?_eq_getElem?]

theorem marks_anchor (traced : state.Traced lexemes) (begun : 0 < state.index) :
    Lexeme.Marks lexemes state.index state.anchor := by
  rcases traced.exists_last begun with ⟨before, last, whole, length, anchor⟩
  refine .inr ⟨before.length, last, by simpa using length, ?_, anchor⟩
  rw [whole]
  simp

theorem marks_here (traced : state.Traced lexemes) (place : 0 < state.index ∨ state.rest ≠ []) :
    Lexeme.Marks lexemes state.index state.here := by
  unfold State.here
  cases front : state.rest.head? with
  | some lexeme => exact .inl ⟨lexeme, traced.getElem?_index.trans front, rfl⟩
  | none =>
    rcases place with begun | nonempty
    · exact traced.marks_anchor begun
    · exact absurd (List.head?_eq_none_iff.mp front) nonempty

end State.Traced

/-- What was expected in vain so far. -/
def State.expectations (state : State) : List Diagnostic :=
  state.diagnostics.filter Diagnostic.isExpectation

/-- The expectations so far stand at rising indices, none behind the place noted last. -/
structure State.Numbered (lexemes : List Lexeme) (state : State) : Prop where
  traced : state.Traced lexemes
  exists_indices : ∃ indices : List Nat, indices.Pairwise (· < ·) ∧
    List.Forall₂ (Diagnostic.StandsAt lexemes) indices state.expectations ∧
      ∀ index ∈ indices, ∃ place ∈ state.noted, index ≤ place

/-- A parse with numbered expectations that has passed a lexeme. -/
structure State.Underway (lexemes : List Lexeme) (state : State) : Prop where
  numbered : state.Numbered lexemes
  begun : 0 < state.index

theorem State.numbered_ofLexemes (lexemes : List Lexeme) :
    (State.ofLexemes lexemes).Numbered lexemes where
  traced := ⟨⟨[], rfl, rfl, by rintro _ ⟨⟩⟩, by rintro _ ⟨⟩⟩
  exists_indices := ⟨[], .nil, .nil, by rintro _ ⟨⟩⟩

namespace State.Numbered

/-- What neither reports nor notes anything keeps the expectations numbered. -/
theorem congr (numbered : state.Numbered lexemes) (move : Move state next)
    (expectations : next.expectations = state.expectations) (noted : next.noted = state.noted) :
    next.Numbered lexemes where
  traced := move.traced numbered.traced
  exists_indices := by
    rw [expectations, noted]
    exact numbered.exists_indices

/-- A report at the index of the state is left out, or it is the first one there. -/
theorem report (numbered : state.Numbered lexemes) {range : Range}
    (marks : Lexeme.Marks lexemes state.index range) (expected : Expectation) :
    (state.report range expected).Numbered lexemes := by
  have traced := numbered.traced
  refine ⟨Move.traced .report traced, ?_⟩
  rcases numbered.exists_indices with ⟨indices, rising, standing, behind⟩
  have reached : ∀ index ∈ indices, index ≤ state.index := by
    intro index member
    rcases behind index member with ⟨place, noted, le⟩
    exact Nat.le_trans le (traced.noted_le place noted)
  dsimp only [State.expectations, State.report]
  split
  · exact ⟨indices, rising, standing, fun index member => ⟨_, rfl, reached index member⟩⟩
  · rename_i loud
    simp only [Bool.or_eq_true, decide_eq_true_eq, not_or, Bool.not_eq_true] at loud
    have fresh : ∀ index ∈ indices, index < state.index := by
      intro index member
      rcases behind index member with ⟨place, noted, le⟩
      refine Nat.lt_of_le_of_lt le (Nat.lt_of_le_of_ne (traced.noted_le place noted) ?_)
      rintro rfl
      exact loud.1.2 noted
    have stands : Diagnostic.StandsAt lexemes state.index
        { range, problem := .unmet expected state.peek } :=
      { inside := traced.index_le
        found := congrArg (Option.map _) traced.getElem?_index.symm
        readable := loud.2
        marks := marks }
    refine ⟨indices ++ [state.index], ?_, ?_, ?_⟩
    · simpa [List.pairwise_append] using ⟨rising, fresh⟩
    · rw [List.filter_append]
      exact List.rel_append standing (.cons stands .nil)
    · intro index member
      rcases List.mem_append.mp member with earlier | latest
      · exact ⟨_, rfl, reached index earlier⟩
      · exact ⟨_, rfl, Nat.le_of_eq (List.mem_singleton.mp latest)⟩

theorem recover (numbered : state.Numbered lexemes) :
    { state with recovering := true }.Numbered lexemes where
  traced := ⟨numbered.traced.exists_passed, numbered.traced.noted_le⟩
  exists_indices := numbered.exists_indices

theorem reject (numbered : state.Numbered lexemes) (place : 0 < state.index ∨ state.rest ≠ [])
    (production : String) : (state.reject production).Numbered lexemes :=
  (numbered.report (numbered.traced.marks_here place) (.production production)).recover

end State.Numbered

namespace State.Underway

theorem reportMissing (underway : state.Underway lexemes) (token : Token) :
    (state.reportMissing token).Underway lexemes where
  numbered := underway.numbered.report (underway.numbered.traced.marks_anchor underway.begun) _
  begun := by simpa [State.reportMissing] using underway.begun

theorem fail (underway : state.Underway lexemes) (expected : Expectation) :
    (state.fail expected).Underway lexemes := by
  have traced := underway.numbered.traced
  refine ⟨?_, by simpa using underway.begun⟩
  unfold State.fail
  split
  · exact underway.numbered.report (traced.marks_anchor underway.begun) expected
  · exact (underway.numbered.report (traced.marks_here (.inl underway.begun)) expected).recover

theorem reject (underway : state.Underway lexemes) (production : String) :
    (state.reject production).Underway lexemes where
  numbered := underway.numbered.reject (.inl underway.begun) production
  begun := by simpa using underway.begun

theorem checkTarget (underway : state.Underway lexemes) (target : Expression) :
    (state.checkTarget target).Underway lexemes := by
  unfold State.checkTarget
  split
  · exact underway
  · refine ⟨underway.numbered.congr .rejectTarget ?_ rfl, underway.begun⟩
    exact (List.filter_append ..).trans (List.append_nil _)

end State.Underway

/-- Whoever takes a lexeme has passed one. -/
theorem Taking.underway {α : Type} {recognize : Token → Option α} {value : α} {lexeme : Lexeme}
    (taken : Takes state recognize value lexeme next) (numbered : state.Numbered lexemes) :
    next.Underway lexemes := by
  rw [taken.moved]
  exact ⟨numbered.congr (.take taken.normal taken.front) rfl rfl, Nat.succ_pos _⟩

theorem Resumes.numbered {level : SyncLevel} {start : State} {skipped : Option ErrorNode}
    (resumes : Resumes level start state skipped next) (numbered : state.Numbered lexemes) :
    next.Numbered lexemes := by
  cases resumes with
  | onward => exact numbered
  | synchronized =>
    exact numbered.congr (.passOver (SyncLevel.skip_append _ 0 state.rest).symm) rfl rfl
  | skippedOne _ _ front => exact numbered.congr (.passOver front) rfl rfl

theorem Resumes.underway {level : SyncLevel} {start : State} {skipped : Option ErrorNode}
    (resumes : Resumes level start state skipped next) (underway : state.Underway lexemes) :
    next.Underway lexemes := by
  refine ⟨resumes.numbered underway.numbered, ?_⟩
  cases resumes with
  | onward => exact underway.begun
  | synchronized | skippedOne => exact Nat.add_pos_left underway.begun _

/-- A production that is begun underway reports what it expects at rising indices. -/
theorem Derivation.underway {production : Production} {value : production.Value}
    (reads : Reads production state value next) (underway : state.Underway lexemes) :
    next.Underway lexemes :=
  reads.keeps
    { take := fun taken underway => taken.underway underway.numbered
      fail := fun expected underway => underway.fail expected
      reportMissing := fun token underway => underway.reportMissing token }
    (fun _ =>
      { reject := fun production underway => underway.reject production
        checkTarget := fun _ _ underway => underway.checkTarget _
        resume := fun resumes underway => resumes.underway underway })
    underway

/-- A declaration takes its keyword before it expects anything. -/
theorem Derivation.numbered_declaration {value : Option Declaration}
    (reads : Reads .declaration state value next) (nonempty : state.rest ≠ [])
    (numbered : state.Numbered lexemes) : next.Numbered lexemes := by
  cases reads with
  | declarationInstance taken name parent body =>
    have header := parent.underway (name.underway (taken.underway numbered))
    exact (body.underway header).numbered
  | declarationPrototype taken name opening parent closing body =>
    have named := opening.underway (name.underway (taken.underway numbered))
    have header := closing.underway (parent.underway named)
    exact (body.underway header).numbered
  | declarationFunction taken type name parameters body =>
    have named := name.underway (type.underway (taken.underway numbered))
    exact (body.underway (parameters.underway named)).numbered
  | declarationNamelessClass taken name =>
    exact (name.underway (taken.underway numbered)).numbered
  | declarationUnfinishedClass taken name _ body =>
    exact (body.underway (name.underway (taken.underway numbered))).numbered
  | declarationClass taken name _ body _ semicolon =>
    have header := body.underway (name.underway (taken.underway numbered))
    exact (semicolon.underway header).numbered
  | declarationVariable declaration =>
    cases declaration with
    | variableDeclaration taken type name size initializer ends =>
      have named := name.underway (type.underway (taken.underway numbered))
      have parts := initializer.underway (size.underway named)
      exact (ends.underway parts).numbered
  | declarationRejected => exact numbered.reject (.inr nonempty) _

/-- A program reports what it expects at rising indices. -/
theorem Derivation.numbered_declarations {production : Production} {value : production.Value}
    (reads : Reads production state value next) (program : production = .declarations)
    (numbered : state.Numbered lexemes) : next.Numbered lexemes := by
  induction reads with
  | declarationsEnd => exact numbered
  | declarationsNext goesOn readsItem resumes _ _ later =>
    exact later rfl (resumes.numbered (readsItem.numbered_declaration goesOn numbered))
  | _ => cases program

end Grammar

end ScriptTree
