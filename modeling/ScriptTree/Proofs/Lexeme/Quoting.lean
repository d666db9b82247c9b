import Mathlib.Data.List.Basic
import ScriptTree.Lexeme.StringLiteral
import ScriptTree.Proofs.Lexeme.Cutting

/-!
# The closing quote of a string literal

Whether a literal is terminated is decided by counting the backslashes in front of
its last quote; where it ends is decided by walking through it, escape by escape.
Each escape on the way takes no backslash from the end of the literal or two of
them, so a literal that is terminated is one that ends in its closing quote, and
then it ends there whatever follows.
-/

namespace ScriptTree.Piece

/-- The text after an opening quote ends in a quote of its own, with an even number of backslashes
in front of it. -/
def EndsQuoted (taken : List Char) : Prop :=
  ∃ inner, taken = inner ++ ['"'] ∧ (inner.reverse.takeWhile (· = '\\')).length % 2 = 0

/-- A literal is terminated if and only if it ends so. -/
theorem isTerminated_iff_endsQuoted {taken : List Char} :
    StringLiteral.isTerminated ('"' :: taken) = true ↔ EndsQuoted taken := by
  constructor
  · intro terminated
    simp only [StringLiteral.isTerminated, Bool.and_eq_true, decide_eq_true_eq, List.tail_cons]
      at terminated
    rcases terminated with ⟨⟨long, last⟩, even⟩
    rcases List.eq_nil_or_concat' taken with rfl | ⟨inner, final, rfl⟩
    · exact absurd long (by decide)
    · rw [List.getLast?_cons, List.getLast?_append] at last
      refine ⟨inner, by simpa using last, by simpa using even⟩
  · rintro ⟨inner, rfl, even⟩
    have quote : Text.byteLength ['"'] = 1 := rfl
    have long : 2 ≤ Text.byteLength ('"' :: (inner ++ ['"'])) := by
      rw [← List.singleton_append, Text.byteLength_append, Text.byteLength_append, quote]
      omega
    simp [StringLiteral.isTerminated, long, even, List.getLast?_cons]

/-- A run does not reach over a character that it does not accept. -/
theorem takeWhile_concat_of_neg {accepts : Char → Bool} {last : Char}
    (refused : accepts last = false) (front : List Char) :
    (front ++ [last]).takeWhile accepts = front.takeWhile accepts := by
  rw [List.takeWhile_append, List.takeWhile_cons, refused]
  split
  · rename_i all
    rw [(List.takeWhile_prefix accepts).eq_of_length all]
    exact List.append_nil front
  · rfl

/-- A character that opens no escape does not count. -/
theorem endsQuoted_plain_iff {character : Char} {taken : List Char} (plain : character ≠ '\\')
    (quote : character ≠ '"') : EndsQuoted (character :: taken) ↔ EndsQuoted taken := by
  have refused : decide (character = '\\') = false := decide_eq_false plain
  constructor
  · rintro ⟨_ | ⟨first, inner⟩, whole, even⟩
    · rw [List.nil_append, List.cons.injEq] at whole
      exact absurd whole.1 quote
    · rw [List.cons_append, List.cons.injEq] at whole
      rcases whole with ⟨rfl, rfl⟩
      refine ⟨inner, rfl, ?_⟩
      rwa [List.reverse_cons, takeWhile_concat_of_neg refused] at even
  · rintro ⟨inner, rfl, even⟩
    refine ⟨character :: inner, rfl, ?_⟩
    rwa [List.reverse_cons, takeWhile_concat_of_neg refused]

/-- An escape in front of a text puts no backslash in front of its last quote, or two of them. -/
theorem length_takeWhile_escape (escaped : Char) (inner : List Char) :
    (('\\' :: escaped :: inner).reverse.takeWhile (· = '\\')).length % 2 =
      (inner.reverse.takeWhile (· = '\\')).length % 2 := by
  rw [List.reverse_cons, List.reverse_cons, List.append_assoc, List.takeWhile_append]
  split
  · rename_i all
    by_cases slash : escaped = '\\'
    · simp [slash, all]
    · simp [slash, all]
  · rfl

/-- An escape does not count. -/
theorem endsQuoted_escape_iff {escaped : Char} {taken : List Char} :
    EndsQuoted ('\\' :: escaped :: taken) ↔ EndsQuoted taken := by
  constructor
  · rintro ⟨_ | ⟨first, _ | ⟨second, inner⟩⟩, whole, even⟩
    · simp at whole
    · -- The quote is escaped, by the one backslash in front of it.
      simp only [List.cons_append, List.nil_append, List.cons.injEq] at whole
      rcases whole with ⟨rfl, rfl, rfl⟩
      cases even
    · simp only [List.cons_append, List.cons.injEq] at whole
      rcases whole with ⟨rfl, rfl, rfl⟩
      exact ⟨inner, rfl, (length_takeWhile_escape ..).symm.trans even⟩
  · rintro ⟨inner, rfl, even⟩
    exact ⟨'\\' :: escaped :: inner, rfl, (length_takeWhile_escape ..).trans even⟩

/-- A literal that ends in its closing quote is cut there, whatever follows. -/
theorem stringTail_closed (text more : List Char) (closed : EndsQuoted (stringTail text).1) :
    stringTail (text ++ more) = ((stringTail text).1, (stringTail text).2 ++ more) := by
  fun_induction stringTail text with
  | case1 =>
    rcases closed with ⟨inner, whole, -⟩
    simp at whole
  | case2 => rfl
  | case3 escaped rest breaks =>
    rcases closed with ⟨inner, whole, -⟩
    have last := congrArg List.getLast? whole
    simp at last
  | case4 escaped rest plain ih =>
    have inside := ih (endsQuoted_escape_iff.mp closed)
    rw [List.cons_append, List.cons_append, stringTail, if_neg plain, inside]
  | case5 character rest quote slash breaks =>
    rcases closed with ⟨inner, whole, -⟩
    simp at whole
  | case6 character rest quote slash plain ih =>
    by_cases backslash : character = '\\'
    · subst backslash
      cases rest with
      | nil =>
        rcases closed with ⟨inner, whole, -⟩
        have last := congrArg List.getLast? whole
        simp [stringTail] at last
      | cons escaped rest => exact absurd rfl (slash escaped rest rfl)
    · rw [List.cons_append, stringTail_cons quote backslash, if_neg plain,
        ih ((endsQuoted_plain_iff backslash quote).mp closed)]

end ScriptTree.Piece
