/-!
# Reading integers

Integers are written in ASCII digits, with a sign in front where one is
allowed.  A reader refuses what its width cannot hold.
-/

namespace ScriptTree.Number

/-- One or more ASCII digits. -/
def natural? (text : List Char) : Option Nat :=
  if text.isEmpty || !text.all Char.isDigit then none else some (Nat.ofDigitChars 10 text 0)

/-- The decimal digits of a number are read as that number. -/
theorem natural?_toDigits (value : Nat) :
    natural? (Nat.toDigits 10 value) = some value := by
  have digits : (Nat.toDigits 10 value).all Char.isDigit := by
    rw [List.all_eq_true]
    intro digit member
    exact Nat.isDigit_of_mem_toDigits (by decide) (by decide) member
  have nonempty : (Nat.toDigits 10 value).isEmpty = false := by
    simp [Nat.toDigits_ne_nil]
  simp [natural?, digits, nonempty, Nat.ofDigitChars_toDigits]

/-- The text after a plus sign at the front, or all of it. -/
def dropPlus : List Char → List Char
  | '+' :: rest => rest
  | text => text

/-- A number below `2 ^ 64`, with an optional plus sign. -/
def unsigned64? (text : List Char) : Option Nat :=
  (natural? (dropPlus text)).filter (· < Nat.pow 2 64)

/-- A number between `-2 ^ 63` and `2 ^ 63 - 1`, with an optional sign. -/
def signed64? : List Char → Option Int
  | '-' :: digits =>
    ((natural? digits).filter (· ≤ Nat.pow 2 63)).map fun value => -(value : Int)
  | text => ((natural? (dropPlus text)).filter (· < Nat.pow 2 63)).map fun value => (value : Int)

end ScriptTree.Number
