/-!
# Reading from the front

A reader of a part of a text yields what follows that part, which is shorter
than the text.  Readers that call each other rest their recursion on this.
-/

namespace ScriptTree

/-- A value read from the front of `input`, and the rest of it. -/
structure Read {σ : Type} (input : List σ) (α : Type) where
  value : α
  rest : List σ
  shorter : rest.length < input.length

namespace Read

/-- What is read, with its value changed. -/
def map {σ α β : Type} {input : List σ} (f : α → β) (read : Read input α) : Read input β :=
  ⟨f read.value, read.rest, read.shorter⟩

/-- What was read from the rest of a longer text. -/
def within {σ α : Type} {input inner : List σ} (read : Read inner α)
    (bound : inner.length ≤ input.length) : Read input α :=
  ⟨read.value, read.rest, Nat.lt_of_lt_of_le read.shorter bound⟩

/-- What was read after the first part of a text. -/
def after {σ α : Type} {first : σ} {rest : List σ} (value : α) (left : List σ)
    (bound : left.length ≤ rest.length) : Read (first :: rest) α :=
  ⟨value, left, Nat.lt_succ_of_le bound⟩

end Read

/-- A value read from the front of `input`, or from nothing of it, and the rest of it. -/
structure Scan {σ : Type} (input : List σ) (α : Type) where
  value : α
  rest : List σ
  bound : rest.length ≤ input.length

/-- A value read is one that may be read from nothing. -/
def Read.toScan {σ α : Type} {input : List σ} (read : Read input α) : Scan input α :=
  ⟨read.value, read.rest, Nat.le_of_lt read.shorter⟩

end ScriptTree
