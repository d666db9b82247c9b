import Mathlib.Data.List.Nodup
import ScriptTree.Lexeme

/-!
# Matching braces

Some tokens open braces and close them.  A brace matches another one if the
tokens between them close what they open.  Where all braces of a source are
matched, something follows as long as a brace is open; and where no declaration
that cannot be nested starts inside of braces, what follows starts none.
-/

namespace ScriptTree

/-- How many braces are open after some tokens, if `count` are open before; nothing where a brace is
closed that is not open. -/
def openBraces (count : Nat) : List PlacedToken → Option Nat
  | [] => some count
  | placed :: rest =>
    if placed.token = .lBrace then openBraces (count + 1) rest
    else if placed.token = .rBrace then
      if count = 0 then none else openBraces (count - 1) rest
    else openBraces count rest

section

variable {count : Nat} {placed : PlacedToken} {rest : List PlacedToken}

/-- An opening brace opens one more. -/
theorem openBraces_opening (opens : placed.token = .lBrace) :
    openBraces count (placed :: rest) = openBraces (count + 1) rest :=
  if_pos opens

/-- A closing brace closes one that is open. -/
theorem openBraces_closing (closes : placed.token = .rBrace) :
    openBraces (count + 1) (placed :: rest) = openBraces count rest := by
  rw [openBraces, if_neg (by simp [closes]), if_pos closes, if_neg (Nat.succ_ne_zero count),
    Nat.add_sub_cancel]

/-- A closing brace needs an open one. -/
theorem openBraces_zero_closing (closes : placed.token = .rBrace) :
    openBraces 0 (placed :: rest) = none := by
  rw [openBraces, if_neg (by simp [closes]), if_pos closes, if_pos rfl]

theorem openBraces_other (noOpening : placed.token ≠ .lBrace) (noClosing : placed.token ≠ .rBrace) :
    openBraces count (placed :: rest) = openBraces count rest :=
  (if_neg noOpening).trans (if_neg noClosing)

end

/-- Braces are counted through one stretch of tokens after the other. -/
theorem openBraces_append (count : Nat) (first second : List PlacedToken) :
    openBraces count (first ++ second) =
      (openBraces count first).bind fun left => openBraces left second := by
  induction first generalizing count with
  | nil => rfl
  | cons placed rest ih =>
    rw [List.cons_append, openBraces, openBraces, ih, ih, ih]
    split
    · rfl
    · split
      · split <;> rfl
      · rfl

/-- Braces that are open before stay open. -/
theorem openBraces_add {count left : Nat} {tokens : List PlacedToken}
    (walks : openBraces count tokens = some left) (more : Nat) :
    openBraces (count + more) tokens = some (left + more) := by
  induction tokens generalizing count with
  | nil =>
    cases walks
    rfl
  | cons placed rest ih =>
    by_cases opens : placed.token = .lBrace
    · rw [openBraces_opening opens] at walks ⊢
      rw [Nat.add_right_comm]
      exact ih walks
    by_cases closes : placed.token = .rBrace
    · cases count with
      | zero =>
        rw [openBraces_zero_closing closes] at walks
        cases walks
      | succ count =>
        rw [openBraces_closing closes] at walks
        rw [Nat.add_right_comm, openBraces_closing closes]
        exact ih walks
    · rw [openBraces_other opens closes] at walks ⊢
      exact ih walks

/-- What needs no open brace leaves all that are open. -/
theorem openBraces_of_zero {left : Nat} {tokens : List PlacedToken}
    (walks : openBraces 0 tokens = some left) (count : Nat) :
    openBraces count tokens = some (left + count) := by
  have further := openBraces_add walks count
  rwa [Nat.zero_add] at further

/-- Tokens that are no braces leave all that are open. -/
theorem openBraces_of_plain {tokens : List PlacedToken}
    (plain : ∀ placed ∈ tokens, placed.token ≠ .lBrace ∧ placed.token ≠ .rBrace) (count : Nat) :
    openBraces count tokens = some count := by
  induction tokens with
  | nil => rfl
  | cons placed rest ih =>
    have first := plain placed List.mem_cons_self
    rw [openBraces_other first.1 first.2]
    exact ih fun later member => plain later (List.mem_cons_of_mem _ member)

/-! ## Braces that match -/

/-- An opening brace and the closing brace that matches it, with the tokens between them. -/
structure Encloses (tokens : List PlacedToken) (opening : PlacedToken)
    (between : List PlacedToken) (closing : PlacedToken) : Prop where
  opens : opening.token = .lBrace
  closes : closing.token = .rBrace
  whole : ∃ before after, tokens = before ++ opening :: (between ++ closing :: after)
  balanced : openBraces 0 between = some 0

/-- Around a token that occurs once, tokens are split in one way. -/
theorem split_eq_of_nodup {before rest early late : List PlacedToken} {placed : PlacedToken}
    (distinct : (before ++ placed :: rest).Nodup)
    (same : before ++ placed :: rest = early ++ placed :: late) : before = early ∧ rest = late := by
  have fresh := (List.nodup_cons.mp (List.nodup_middle.mp distinct)).1
  rw [List.mem_append, not_or] at fresh
  have parts := (List.append_cons_inj_of_notMem fresh.1 fresh.2).mp same
  exact ⟨parts.1, parts.2.2⟩

/-- Where each token occurs once, two braces match by the tokens between them and no others. -/
theorem Encloses.eq_between {before between found after : List PlacedToken}
    {opening closing : PlacedToken}
    (distinct : (before ++ opening :: (between ++ closing :: after)).Nodup)
    (encloses : Encloses (before ++ opening :: (between ++ closing :: after)) opening found
      closing) : found = between := by
  rcases encloses.whole with ⟨early, late, same⟩
  have inner := (split_eq_of_nodup distinct same).2
  have distinctInner := (List.nodup_append.mp distinct).2.1.of_cons
  exact (split_eq_of_nodup distinctInner inner).1.symm

/-- Inside of an open brace there is a place where `depth` braces fewer are open. -/
theorem exists_closing {outer depth : Nat} {tokens : List PlacedToken}
    (walks : openBraces (depth + outer + 1) tokens = some 0) :
    ∃ between closing after, tokens = between ++ closing :: after ∧ closing.token = .rBrace ∧
      openBraces depth between = some 0 := by
  induction tokens generalizing depth with
  | nil => cases walks
  | cons placed rest ih =>
    by_cases opens : placed.token = .lBrace
    · rw [openBraces_opening opens, Nat.add_right_comm depth outer 1] at walks
      rcases ih walks with ⟨between, closing, after, rfl, found, balanced⟩
      exact ⟨placed :: between, closing, after, rfl, found, by rwa [openBraces_opening opens]⟩
    by_cases closes : placed.token = .rBrace
    · cases depth with
      | zero => exact ⟨[], placed, rest, rfl, closes, rfl⟩
      | succ depth =>
        rw [openBraces_closing closes, Nat.add_right_comm] at walks
        rcases ih walks with ⟨between, closing, after, rfl, found, balanced⟩
        exact ⟨placed :: between, closing, after, rfl, found, by rwa [openBraces_closing closes]⟩
    · rw [openBraces_other opens closes] at walks
      rcases ih walks with ⟨between, closing, after, rfl, found, balanced⟩
      exact ⟨placed :: between, closing, after, rfl, found, by
        rwa [openBraces_other opens closes]⟩

/-- After some tokens either an opening brace among them is still open, or no more braces are open
than before, and all those that stay open stay so throughout. -/
theorem exists_opening_or_le {start left : Nat} {tokens : List PlacedToken}
    (walks : openBraces start tokens = some left) :
    (∃ before opening between, tokens = before ++ opening :: between ∧
      opening.token = .lBrace ∧ openBraces 0 between = some 0) ∨
      left ≤ start ∧ openBraces (start - left) tokens = some 0 := by
  induction tokens generalizing start with
  | nil =>
    cases walks
    exact .inr ⟨Nat.le_refl _, by rw [Nat.sub_self]; rfl⟩
  | cons placed rest ih =>
    by_cases opens : placed.token = .lBrace
    · rw [openBraces_opening opens] at walks
      rcases ih walks with ⟨before, opening, between, rfl, found⟩ | ⟨le, kept⟩
      · exact .inl ⟨placed :: before, opening, between, rfl, found⟩
      rcases Nat.lt_or_ge start left with lt | ge
      · have same : left = start + 1 := Nat.le_antisymm le lt
        rw [same, Nat.sub_self] at kept
        exact .inl ⟨[], placed, rest, rfl, opens, kept⟩
      · rw [Nat.succ_sub ge] at kept
        exact .inr ⟨ge, by rwa [openBraces_opening opens]⟩
    by_cases closes : placed.token = .rBrace
    · cases start with
      | zero =>
        rw [openBraces_zero_closing closes] at walks
        cases walks
      | succ start =>
        rw [openBraces_closing closes] at walks
        rcases ih walks with ⟨before, opening, between, rfl, found⟩ | ⟨le, kept⟩
        · exact .inl ⟨placed :: before, opening, between, rfl, found⟩
        · refine .inr ⟨Nat.le_succ_of_le le, ?_⟩
          rwa [Nat.succ_sub le, openBraces_closing closes]
    · rw [openBraces_other opens closes] at walks
      rcases ih walks with ⟨before, opening, between, rfl, found⟩ | ⟨le, kept⟩
      · exact .inl ⟨placed :: before, opening, between, rfl, found⟩
      · exact .inr ⟨le, by rwa [openBraces_other opens closes]⟩

/-- Where a brace is open, one of those that were opened last is not closed. -/
theorem exists_opening {count : Nat} {tokens : List PlacedToken}
    (walks : openBraces 0 tokens = some (count + 1)) :
    ∃ before opening between, tokens = before ++ opening :: between ∧
      opening.token = .lBrace ∧ openBraces 0 between = some 0 := by
  rcases exists_opening_or_le walks with found | ⟨le, -⟩
  · exact found
  · cases le

/-! ## Well-braced tokens -/

/-- All braces are matched, and between two that match there is no keyword of a declaration that
cannot be nested. -/
structure WellBraced (tokens : List PlacedToken) : Prop where
  balanced : openBraces 0 tokens = some 0
  sheltered : ∀ {opening between closing}, Encloses tokens opening between closing →
    ∀ placed ∈ between, placed.token.isTopLevelOnly = false

namespace WellBraced

variable {tokens passed rest : List PlacedToken}

/-- At any place among well-braced tokens, those behind it close what those before it opened. -/
theorem exists_count (braced : WellBraced tokens) (whole : tokens = passed ++ rest) :
    ∃ count, openBraces 0 passed = some count ∧ openBraces count rest = some 0 := by
  have balanced := braced.balanced
  rw [whole, openBraces_append] at balanced
  exact Option.bind_eq_some_iff.mp balanced

/-- As long as a brace is open, a token follows that starts no declaration which cannot be
nested. -/
theorem exists_next (braced : WellBraced tokens) (whole : tokens = passed ++ rest) {count : Nat}
    (walks : openBraces 0 passed = some (count + 1)) :
    ∃ next later, rest = next :: later ∧ next.token.isTopLevelOnly = false := by
  rcases exists_opening walks with ⟨before, opening, early, rfl, opens, balancedEarly⟩
  rcases braced.exists_count whole with ⟨_, found, closed⟩
  rw [walks] at found
  cases found
  rw [← Nat.zero_add count] at closed
  rcases exists_closing closed with ⟨late, closing, after, rfl, closes, balancedLate⟩
  have encloses : Encloses tokens opening (early ++ late) closing :=
    { opens
      closes
      whole := ⟨before, after, by rw [whole]; simp⟩
      balanced := by rw [openBraces_append, balancedEarly]; exact balancedLate }
  cases late with
  | nil => exact ⟨closing, after, rfl, by rw [closes]; rfl⟩
  | cons next later =>
    refine ⟨next, later ++ closing :: after, rfl, ?_⟩
    exact braced.sheltered encloses next (by simp)

end WellBraced

/-- Tokens are well-braced if no brace is open in front of a keyword that cannot be nested. -/
theorem wellBraced_iff {tokens : List PlacedToken} :
    WellBraced tokens ↔ openBraces 0 tokens = some 0 ∧
      ∀ (index : Nat) (within : index < tokens.length),
        tokens[index].token.isTopLevelOnly = true →
          openBraces 0 (tokens.take index) = some 0 := by
  constructor
  · intro braced
    refine ⟨braced.balanced, ?_⟩
    intro index within topLevel
    have whole := (List.take_append_drop index tokens).symm
    rcases braced.exists_count whole with ⟨_ | count, walks, -⟩
    · exact walks
    · rcases braced.exists_next whole walks with ⟨next, later, front, nested⟩
      rw [List.drop_eq_getElem_cons within] at front
      injection front with same
      rw [same, nested] at topLevel
      cases topLevel
  · rintro ⟨balanced, outside⟩
    refine ⟨balanced, ?_⟩
    intro opening between closing encloses placed member
    rcases encloses.whole with ⟨before, after, whole⟩
    rcases List.append_of_mem member with ⟨early, late, rfl⟩
    rw [Bool.eq_false_iff]
    intro topLevel
    have reached : ∀ passed rest, tokens = passed ++ placed :: rest →
        openBraces 0 passed = some 0 := by
      rintro passed rest rfl
      simpa [topLevel] using outside passed.length (by simp)
    have walks := reached (before ++ opening :: early) (late ++ closing :: after) (by simp [whole])
    have inner := encloses.balanced
    rw [openBraces_append] at inner
    rcases Option.bind_eq_some_iff.mp inner with ⟨deeper, walksEarly, -⟩
    rw [openBraces_append] at walks
    rcases Option.bind_eq_some_iff.mp walks with ⟨outer, -, walksOpening⟩
    rw [openBraces_opening encloses.opens, openBraces_of_zero walksEarly] at walksOpening
    cases walksOpening

instance (tokens : List PlacedToken) : Decidable (WellBraced tokens) :=
  decidable_of_iff' _ wellBraced_iff

end ScriptTree
