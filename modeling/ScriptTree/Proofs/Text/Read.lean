import ScriptTree.Text.Read

/-!
# Outcomes of readers

A reader returns a bound together with what it read, for the recursion that is built on it.  The
outcome is the part that a reader is asked for: the value, and what is left of the input.
-/

namespace ScriptTree

variable {σ α : Type} {input : List σ} {value : α} {rest : List σ}

/-- What was read and what is left, without the bound on it. -/
def Read.outcome? (read : Option (Read input α)) : Option (α × List σ) :=
  read.map fun read => (read.value, read.rest)

/-- What was read and what is left, without the bound on it. -/
def Scan.outcome? (scan : Option (Scan input α)) : Option (α × List σ) :=
  scan.map fun scan => (scan.value, scan.rest)

namespace Read

/-- What a reading comes to, without the bound it carries on the rest. -/
theorem outcome?_eq_some_iff {read : Option (Read input α)} :
    outcome? read = some (value, rest) ↔ ∃ shorter, read = some ⟨value, rest, shorter⟩ := by
  cases read with
  | none => simp [outcome?]
  | some found =>
    rcases found with ⟨other, left, shorter⟩
    simp only [outcome?, Option.map_some, Option.some.injEq, Prod.mk.injEq]
    constructor
    · rintro ⟨rfl, rfl⟩
      exact ⟨shorter, rfl⟩
    · rintro ⟨_, same⟩
      cases same
      exact ⟨rfl, rfl⟩

end Read

/-- What a scan comes to, without the bound it carries on the rest. -/
theorem Scan.outcome?_eq_some_iff {scan : Option (Scan input α)} :
    outcome? scan = some (value, rest) ↔ ∃ bound, scan = some ⟨value, rest, bound⟩ := by
  cases scan with
  | none => simp [outcome?]
  | some found =>
    rcases found with ⟨other, left, bound⟩
    simp only [outcome?, Option.map_some, Option.some.injEq, Prod.mk.injEq]
    constructor
    · rintro ⟨rfl, rfl⟩
      exact ⟨bound, rfl⟩
    · rintro ⟨_, same⟩
      cases same
      exact ⟨rfl, rfl⟩

end ScriptTree
