import ScriptTree.Proofs.Grammar.Acceptance
import ScriptTree.Proofs.Syntax.Unplaced
import ScriptTree.Proofs.Syntax.WellFormed

/-!
# Lexemes that spell slots

Some lexemes spell a row of slots if they are, one by one, what the slots are
written as.  What follows them decides whether a production stops where the
slots end: it must not start with a token that the production would take along.
-/

namespace ScriptTree.Grammar

open Slot

/-- The lexemes begin with what the slots are written as, and go on with `tail`. -/
def Spells (slots : List Slot) (lexemes tail : List Lexeme) : Prop :=
  ∃ front, lexemes = front ++ tail ∧ front.map Lexeme.mark = Slot.marks slots

/-- The lexemes do not begin with a token that is recognized. -/
def Avoids {α : Type} (recognize : Token → Option α) (lexemes : List Lexeme) : Prop :=
  ∀ lexeme ∈ lexemes.head?, recognize lexeme.token = none

section

variable {lexemes tail : List Lexeme}

theorem spells_nil : Spells [] lexemes tail ↔ lexemes = tail := by
  constructor
  · rintro ⟨front, rfl, written⟩
    rw [List.map_eq_nil_iff.mp written, List.nil_append]
  · rintro rfl
    exact ⟨[], rfl, rfl⟩

theorem spells_append {first second : List Slot} :
    Spells (first ++ second) lexemes tail ↔
      ∃ middle, Spells first lexemes middle ∧ Spells second middle tail := by
  constructor
  · rintro ⟨front, rfl, written⟩
    rw [marks_append, List.map_eq_append_iff] at written
    rcases written with ⟨start, rest, rfl, writtenFirst, writtenSecond⟩
    exact ⟨rest ++ tail, ⟨start, List.append_assoc .., writtenFirst⟩, rest, rfl, writtenSecond⟩
  · rintro ⟨_, ⟨start, rfl, writtenFirst⟩, rest, rfl, writtenSecond⟩
    refine ⟨start ++ rest, (List.append_assoc ..).symm, ?_⟩
    rw [List.map_append, marks_append, writtenFirst, writtenSecond]

theorem spells_singleton {slot : Slot} :
    Spells [slot] lexemes tail ↔ ∃ lexeme, lexemes = lexeme :: tail ∧ lexeme.mark = slot.mark := by
  constructor
  · rintro ⟨front, rfl, written⟩
    rcases List.map_eq_singleton_iff.mp written with ⟨lexeme, rfl, same⟩
    exact ⟨lexeme, rfl, same⟩
  · rintro ⟨lexeme, rfl, same⟩
    exact ⟨[lexeme], rfl, congrArg (fun mark => [mark]) same⟩

/-- A required token is spelled by one lexeme. -/
theorem Spells.required {token : Token} {place : Option Range}
    (spells : Spells (Slot.required token place) lexemes tail) :
    ∃ lexeme, lexemes = lexeme :: tail ∧ lexeme.token = token := by
  rcases spells_singleton.mp spells with ⟨lexeme, front, same⟩
  exact ⟨lexeme, front, Lexeme.token_eq_of_mark_eq same⟩

/-- The first lexeme has the first token of the slots. -/
theorem Spells.exists_head {slots : List Slot} {token : Token}
    (spells : Spells slots lexemes tail) (found : firstToken? slots = some token) :
    ∃ lexeme ∈ lexemes.head?, lexeme.token = token := by
  rcases spells with ⟨front, rfl, written⟩
  cases slots with
  | nil => cases found
  | cons slot rest =>
    rcases List.map_eq_cons_iff.mp written with ⟨lexeme, more, rfl, same, -⟩
    exact ⟨lexeme, rfl, (Lexeme.token_eq_of_mark_eq same).trans (Option.some.inj found)⟩

/-- What begins with the slots avoids whatever refuses their first token. -/
theorem Spells.avoids {α : Type} {slots : List Slot} {token : Token}
    (spells : Spells slots lexemes tail) (found : firstToken? slots = some token)
    {recognize : Token → Option α} (refused : recognize token = none) :
    Avoids recognize lexemes := by
  rcases spells.exists_head found with ⟨lexeme, first, rfl⟩
  intro other member
  cases Option.mem_unique first member
  exact refused

theorem Spells.length_lt {slots : List Slot} (spells : Spells slots lexemes tail)
    (nonempty : slots ≠ []) : tail.length < lexemes.length := by
  rcases spells with ⟨front, rfl, written⟩
  have positive : front ≠ [] := by
    rintro rfl
    exact nonempty (List.map_eq_nil_iff.mp written.symm)
  rw [List.length_append]
  exact Nat.lt_add_of_pos_left (List.length_pos_iff.mpr positive)

end

/-! ## Clean states -/

/-- Nothing is wrong so far, and these lexemes come next. -/
structure State.Faces (state : State) (lexemes : List Lexeme) : Prop where
  clean : state.Clean
  rest : state.rest = lexemes

section

variable {state : State} {lexemes tail : List Lexeme} {lexeme : Lexeme}

theorem State.Faces.peek_eq {slots : List Slot} {token : Token} (faces : state.Faces lexemes)
    (spells : Spells slots lexemes tail) (found : firstToken? slots = some token) :
    state.peek = some token := by
  rcases spells.exists_head found with ⟨lexeme, first, rfl⟩
  rw [State.peek, faces.rest, first]
  rfl

theorem State.Faces.isAt_eq_false {slots : List Slot} {token other : Token}
    (faces : state.Faces lexemes) (spells : Spells slots lexemes tail)
    (found : firstToken? slots = some token) (different : token ≠ other) :
    state.isAt other = false := by
  rw [State.isAt, faces.peek_eq spells found]
  exact decide_eq_false fun same => different (Option.some.inj same)

theorem State.Faces.isAt_eq_true {slots : List Slot} {token : Token} (faces : state.Faces lexemes)
    (spells : Spells slots lexemes tail) (found : firstToken? slots = some token) :
    state.isAt token = true := by
  rw [State.isAt, faces.peek_eq spells found]
  exact decide_eq_true rfl

theorem State.Faces.any_peek {slots : List Slot} {token : Token} {test : Token → Bool}
    (faces : state.Faces lexemes) (spells : Spells slots lexemes tail)
    (found : firstToken? slots = some token) : state.peek.any test = test token := by
  rw [faces.peek_eq spells found]
  rfl

/-- A recognized lexeme is taken, and the next ones are faced. -/
theorem State.Faces.takes {α : Type} {recognize : Token → Option α} {value : α}
    (faces : state.Faces (lexeme :: tail)) (recognized : recognize lexeme.token = some value) :
    ∃ next, Takes state recognize value lexeme next ∧ next.Faces tail := by
  rcases faces with ⟨clean, front⟩
  refine ⟨state.advance lexeme tail, ⟨clean.normal, recognized, front, rfl⟩, ?_, rfl⟩
  exact ⟨clean.normal, clean.unnoted, clean.unreported⟩

/-- A required token is taken by whatever recognizes it. -/
theorem State.Faces.takes_required {α : Type} {recognize : Token → Option α} {value : α}
    {token : Token} {place : Option Range} (faces : state.Faces lexemes)
    (spells : Spells (required token place) lexemes tail)
    (recognized : recognize token = some value) :
    ∃ lexeme next, Takes state recognize value lexeme next ∧ lexeme.token = token ∧
      next.Faces tail := by
  rcases spells.required with ⟨lexeme, rfl, found⟩
  rw [← found] at recognized
  rcases faces.takes recognized with ⟨next, taken, facesNext⟩
  exact ⟨lexeme, next, taken, found, facesNext⟩

theorem State.Faces.takes_only {token : Token} {place : Option Range}
    (faces : state.Faces lexemes) (spells : Spells (required token place) lexemes tail) :
    ∃ lexeme next, Takes state (State.only token) () lexeme next ∧ lexeme.token = token ∧
      next.Faces tail :=
  faces.takes_required spells (only_eq_some_iff.mpr rfl)

theorem State.Faces.declines {α : Type} {recognize : Token → Option α}
    (faces : state.Faces lexemes) (avoids : Avoids recognize lexemes) :
    Declines state recognize := by
  intro _ lexeme member
  rw [faces.rest] at member
  exact avoids lexeme member

end

/-! ## Single tokens -/

/-- The production reads the front of what is faced as something alike, and faces the tail. -/
def ReadsBack (production : Production) (state : State) (alike : production.Value → Prop)
    (tail : List Lexeme) : Prop :=
  ∃ value next, Reads production state value next ∧ alike value ∧ next.Faces tail

section

variable {state : State} {lexemes tail : List Lexeme}

theorem readsBack_expected {token : Token} {place : Option Range} (faces : state.Faces lexemes)
    (spells : Spells (required token place) lexemes tail) (present : place.isSome = true) :
    ReadsBack (.expected token) state (fun found => unplaced? found = unplaced? place) tail := by
  rcases faces.takes_only spells with ⟨lexeme, next, taken, -, facesNext⟩
  exact ⟨_, next, .expectedTaken taken, (unplaced?_of_isSome present).symm, facesNext⟩

theorem readsBack_closingBrace {place : Option Range} (faces : state.Faces lexemes)
    (spells : Spells (required .rBrace place) lexemes tail) (present : place.isSome = true) :
    ReadsBack .closingBrace state (fun found => unplaced? found = unplaced? place) tail := by
  rcases faces.takes_only spells with ⟨lexeme, next, taken, -, facesNext⟩
  exact ⟨_, next, .closingBraceTaken taken, (unplaced?_of_isSome present).symm, facesNext⟩

theorem readsBack_terminator {place : Option Range} (faces : state.Faces lexemes)
    (spells : Spells (required .semicolon place) lexemes tail) (present : place.isSome = true) :
    ReadsBack .terminator state (fun found => unplaced? found = unplaced? place) tail := by
  rcases faces.takes_only spells with ⟨lexeme, next, taken, -, facesNext⟩
  exact ⟨_, next, .terminatorTaken taken, (unplaced?_of_isSome present).symm, facesNext⟩

/-- An allowed token is taken where it is written; where it is not, it must not follow. -/
theorem readsBack_optional {token : Token} {place : Option Range} (faces : state.Faces lexemes)
    (spells : Spells (allowed token place) lexemes tail)
    (avoids : Avoids (State.only token) tail) :
    ReadsBack (.optional token) state (fun found => unplaced? found = unplaced? place) tail := by
  cases place with
  | none =>
    cases spells_nil.mp spells
    exact ⟨none, state, .optionalAbsent (faces.declines avoids), rfl, faces⟩
  | some range =>
    rcases faces.takes_only spells with ⟨lexeme, next, taken, -, facesNext⟩
    exact ⟨_, next, .optionalTaken taken, rfl, facesNext⟩

theorem readsBack_directName {identifier : Identifier} (faces : state.Faces lexemes)
    (spells : Spells identifier.slots lexemes tail) :
    ReadsBack .directName state (fun found => found.unplaced = identifier.unplaced) tail := by
  rcases spells_singleton.mp spells with ⟨lexeme, rfl, same⟩
  have found : lexeme.token = .identifier := Lexeme.token_eq_of_mark_eq same
  have text : lexeme.text = identifier.name := Lexeme.text_eq_of_mark_eq same rfl
  rcases faces.takes (only_eq_some_iff.mpr found) with ⟨next, taken, facesNext⟩
  refine ⟨_, next, .nameTaken taken, ?_, facesNext⟩
  rw [text]
  rfl

theorem readsBack_identifier {identifier : Identifier} (faces : state.Faces lexemes)
    (spells : Spells identifier.slots lexemes tail) :
    ReadsBack .identifier state (fun found => found.unplaced = identifier.unplaced) tail := by
  rcases readsBack_directName faces spells with ⟨name, next, reads, alike, facesNext⟩
  exact ⟨name, next, reads.identifier_of_directName faces.clean.normal, alike, facesNext⟩

theorem readsBack_typeReference {reference : TypeReference} (faces : state.Faces lexemes)
    (spells : Spells reference.slots lexemes tail) (complete : reference.isComplete = true) :
    ReadsBack .typeReference state (fun found => found.unplaced = reference.unplaced) tail := by
  obtain ⟨type, range⟩ := reference
  cases type with
  | missing => cases complete
  | named name =>
    rcases spells_singleton.mp spells with ⟨lexeme, rfl, same⟩
    have found : lexeme.token = .identifier := Lexeme.token_eq_of_mark_eq same
    have text : lexeme.text = name := Lexeme.text_eq_of_mark_eq same rfl
    rcases faces.takes (recognizeType_eq_some_iff.mpr (.inr found)) with ⟨next, taken, facesNext⟩
    refine ⟨_, next, .typeTaken taken, ?_, facesNext⟩
    rw [found, text]
    rfl
  | _ =>
    rcases spells.required with ⟨lexeme, rfl, found⟩
    have builtin : lexeme.token.isTypeKeyword = true := by rw [found]; rfl
    rcases faces.takes (recognizeType_eq_some_iff.mpr (.inl builtin)) with
      ⟨next, taken, facesNext⟩
    refine ⟨_, next, .typeTaken taken, ?_, facesNext⟩
    rw [found]
    rfl

end

end ScriptTree.Grammar
