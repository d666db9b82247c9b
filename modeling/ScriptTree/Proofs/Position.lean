import Mathlib.Algebra.Group.Nat.Defs
import ScriptTree.Lookup

/-!
# Positions as text

A position is read from two coordinates with a colon between them.  The first colon
divides them, so another one is part of the column.  White space around a coordinate
does not count, a plus sign may stand in front of its digits, and the number has to
be below `2 ^ 64`, with as many zeros in front as there are.  Of the parts that are
no coordinate the line is named first.
-/

namespace ScriptTree

/-! ## White space at the ends -/

namespace Text

/-- Trimming takes nothing but white space off the two ends. -/
theorem exists_eq_append_trim (text : List Char) :
    ∃ front back, text = front ++ trim text ++ back ∧
      (∀ character ∈ front, isWhiteSpace character = true) ∧
        ∀ character ∈ back, isWhiteSpace character = true := by
  have blank (text : List Char) :
      ∀ character ∈ text.takeWhile isWhiteSpace, isWhiteSpace character = true :=
    List.all_eq_true.mp List.all_takeWhile
  have inner := List.takeWhile_append_dropWhile (p := isWhiteSpace) (l := text)
  have outer := List.takeWhile_append_dropWhile (p := isWhiteSpace)
    (l := (text.dropWhile isWhiteSpace).reverse)
  refine ⟨text.takeWhile isWhiteSpace,
    ((text.dropWhile isWhiteSpace).reverse.takeWhile isWhiteSpace).reverse, ?_, blank text, ?_⟩
  · rw [trim, List.append_assoc, ← List.reverse_append, outer, List.reverse_reverse, inner]
  · intro character member
    exact blank _ character (List.mem_reverse.mp member)

/-- Blanks are dropped up to the first character that is none. -/
theorem dropWhile_solid {core : List Char} (some : core ≠ [])
    (solid : ∀ character ∈ core, isWhiteSpace character = false) (more : List Char) :
    (core ++ more).dropWhile isWhiteSpace = core ++ more := by
  rcases List.exists_cons_of_ne_nil some with ⟨first, rest, rfl⟩
  rw [List.cons_append, List.dropWhile_cons_of_neg]
  simp [solid first List.mem_cons_self]

/-- Trimming takes all white space off the two ends. -/
theorem trim_of_blank {front core back : List Char}
    (blankFront : ∀ character ∈ front, isWhiteSpace character = true) (some : core ≠ [])
    (solid : ∀ character ∈ core, isWhiteSpace character = false)
    (blankBack : ∀ character ∈ back, isWhiteSpace character = true) :
    trim (front ++ core ++ back) = core := by
  have backward : core.reverse ≠ [] := by simpa using some
  have solidBackward : ∀ character ∈ core.reverse, isWhiteSpace character = false :=
    fun character member => solid character (List.mem_reverse.mp member)
  have blankBackward : ∀ character ∈ back.reverse, isWhiteSpace character = true :=
    fun character member => blankBack character (List.mem_reverse.mp member)
  have cut := dropWhile_solid backward solidBackward []
  rw [List.append_nil] at cut
  rw [trim, List.append_assoc, List.dropWhile_append_of_pos blankFront,
    dropWhile_solid some solid, List.reverse_append, List.dropWhile_append_of_pos blankBackward,
    cut, List.reverse_reverse]

end Text

/-! ## Numbers -/

namespace Number

/-- A number is read from decimal digits, at least one, and from nothing else. -/
theorem natural?_eq_some_iff {text : List Char} {value : Nat} :
    natural? text = some value ↔
      text ≠ [] ∧ (∀ digit ∈ text, digit.isDigit = true) ∧ Nat.ofDigitChars 10 text 0 = value := by
  by_cases empty : text = []
  · simp [natural?, empty]
  · by_cases decimal : ∀ digit ∈ text, digit.isDigit = true
    · have all : text.all Char.isDigit = true := List.all_eq_true.mpr decimal
      simpa [natural?, empty, all] using fun _ => decimal
    · have other : text.all Char.isDigit = false :=
        Bool.eq_false_iff.mpr (mt List.all_eq_true.mp decimal)
      simp [natural?, other, decimal]

/-- Digits without a sign are left as they are. -/
theorem dropPlus_of_isDigit {digits : List Char}
    (decimal : ∀ digit ∈ digits, digit.isDigit = true) : dropPlus digits = digits := by
  fun_cases dropPlus digits with
  | case1 rest => cases decimal '+' List.mem_cons_self
  | case2 => rfl

/-- A number below `2 ^ 64` is read from its digits and a plus sign that may be in front. -/
theorem unsigned64?_eq_some_iff {text : List Char} {value : Nat} :
    unsigned64? text = some value ↔
      ∃ sign digits, text = sign ++ digits ∧ (sign = [] ∨ sign = ['+']) ∧ digits ≠ [] ∧
        (∀ digit ∈ digits, digit.isDigit = true) ∧ Nat.ofDigitChars 10 digits 0 = value ∧
          value < 2 ^ 64 := by
  rw [unsigned64?, Option.filter_eq_some_iff, natural?_eq_some_iff, decide_eq_true_eq]
  constructor
  · rintro ⟨⟨some, decimal, same⟩, small⟩
    revert some decimal same
    fun_cases dropPlus text with
    | case1 rest =>
      exact fun some decimal same => ⟨['+'], rest, rfl, .inr rfl, some, decimal, same, small⟩
    | case2 =>
      exact fun some decimal same => ⟨[], text, rfl, .inl rfl, some, decimal, same, small⟩
  · rintro ⟨sign, digits, rfl, rfl | rfl, some, decimal, same, small⟩
    · rw [List.nil_append, dropPlus_of_isDigit decimal]
      exact ⟨⟨some, decimal, same⟩, small⟩
    · exact ⟨⟨some, decimal, same⟩, small⟩

end Number

namespace Position

/-- A number below `2 ^ 64` as it may be written: ASCII digits, behind a plus sign if there is one,
with white space around them. -/
inductive IsCoordinate : List Char → Nat → Prop
  | written {front sign digits back : List Char}
      (blankFront : ∀ character ∈ front, Text.isWhiteSpace character = true)
      (signed : sign = [] ∨ sign = ['+']) (some : digits ≠ [])
      (decimal : ∀ digit ∈ digits, digit.isDigit = true)
      (small : Nat.ofDigitChars 10 digits 0 < 2 ^ 64)
      (blankBack : ∀ character ∈ back, Text.isWhiteSpace character = true) :
      IsCoordinate (front ++ (sign ++ digits) ++ back) (Nat.ofDigitChars 10 digits 0)

/-- A digit is no blank. -/
theorem isWhiteSpace_of_isDigit {digit : Char} (decimal : digit.isDigit = true) :
    Text.isWhiteSpace digit = false := by
  simp only [Char.isDigit, Bool.and_eq_true, decide_eq_true_eq, ge_iff_le,
    UInt32.le_iff_toNat_le] at decimal
  have low : 48 ≤ digit.toNat := decimal.1
  have high : digit.toNat ≤ 57 := decimal.2
  simp only [Text.isWhiteSpace, Bool.or_eq_false_iff, Bool.and_eq_false_iff,
    decide_eq_false_iff_not]
  omega

/-- A line or a column is read from the texts that spell one, and from nothing else. -/
theorem coordinate?_eq_some_iff {part : List Char} {value : Nat} :
    coordinate? part = some value ↔ IsCoordinate part value := by
  rw [coordinate?, Number.unsigned64?_eq_some_iff]
  constructor
  · rintro ⟨sign, digits, trimmed, signed, some, decimal, rfl, small⟩
    rcases Text.exists_eq_append_trim part with ⟨front, back, whole, blankFront, blankBack⟩
    rw [trimmed] at whole
    exact whole ▸ .written blankFront signed some decimal small blankBack
  · rintro ⟨blankFront, signed, some, decimal, small, blankBack⟩
    refine ⟨_, _, Text.trim_of_blank blankFront (by simp [some]) ?_ blankBack, signed, some,
      decimal, rfl, small⟩
    rcases signed with rfl | rfl
    · exact fun digit member => isWhiteSpace_of_isDigit (decimal digit member)
    · exact List.forall_mem_cons.mpr
        ⟨rfl, fun digit member => isWhiteSpace_of_isDigit (decimal digit member)⟩

/-! ## The first colon -/

/-- The parts of a text before and after its first colon. -/
structure IsDivided (text : List Char) (line column : List Char) : Prop where
  whole : text = line ++ ':' :: column
  first : ':' ∉ line

/-- A text is divided at its first colon. -/
theorem splitColon?_eq_some_iff {text line column : List Char} :
    splitColon? text = some (line, column) ↔ IsDivided text line column := by
  constructor
  · intro found
    fun_induction splitColon? text generalizing line column with
    | case1 => cases found
    | case2 rest =>
      cases found
      exact ⟨rfl, List.not_mem_nil⟩
    | case3 character rest other ih =>
      rcases Option.map_eq_some_iff.mp found with ⟨⟨front, behind⟩, split, same⟩
      cases same
      rcases ih split with ⟨rfl, free⟩
      refine ⟨rfl, fun member => ?_⟩
      rcases List.mem_cons.mp member with same | later
      · exact other same.symm
      · exact free later
  · rintro ⟨rfl, free⟩
    induction line with
    | nil => rfl
    | cons character line ih =>
      rw [List.mem_cons, not_or] at free
      rw [List.cons_append, splitColon?, ih free.2]
      · rfl
      · exact fun same => free.1 same.symm

/-- A text without a colon is not divided. -/
theorem splitColon?_eq_none_iff {text : List Char} : splitColon? text = none ↔ ':' ∉ text := by
  fun_induction splitColon? text with
  | case1 => simp
  | case2 rest => simp
  | case3 character rest other ih =>
    rw [Option.map_eq_none_iff, ih, List.mem_cons, not_or]
    exact (and_iff_right fun same => other same.symm).symm

/-! ## Reading -/

/-- What a text is read as: a position, or what is missing in it. -/
inductive Reads (text : List Char) : Except LookupError Position → Prop
  | position {line column : List Char} {lineNumber columnNumber : Nat}
      (divided : IsDivided text line column) (isLine : IsCoordinate line lineNumber)
      (isColumn : IsCoordinate column columnNumber) :
      Reads text (.ok ⟨lineNumber, columnNumber⟩)
  | missingColon (none : ':' ∉ text) : Reads text (.error .missingColon)
  | badLine {line column : List Char} (divided : IsDivided text line column)
      (noLine : ∀ number, ¬IsCoordinate line number) :
      Reads text (.error (.badLine (String.ofList line)))
  | badColumn {line column : List Char} {lineNumber : Nat} (divided : IsDivided text line column)
      (isLine : IsCoordinate line lineNumber) (noColumn : ∀ number, ¬IsCoordinate column number) :
      Reads text (.error (.badColumn (String.ofList column)))

/-- What spells no number is not read. -/
theorem coordinate?_eq_none_iff {part : List Char} :
    coordinate? part = none ↔ ∀ number, ¬IsCoordinate part number := by
  simp only [← coordinate?_eq_some_iff, Option.eq_none_iff_forall_ne_some, ne_eq]

/-- Reading a position gives the outcome that the text has by the rules. -/
theorem reads_read (text : String) : Reads text.toList (read text) := by
  unfold read
  split
  · rename_i none
    exact .missingColon (splitColon?_eq_none_iff.mp none)
  · rename_i line column found
    have divided := splitColon?_eq_some_iff.mp found
    split
    · rename_i none
      exact .badLine divided (coordinate?_eq_none_iff.mp none)
    · rename_i lineNumber isLine
      split
      · rename_i none
        exact .badColumn divided (coordinate?_eq_some_iff.mp isLine)
          (coordinate?_eq_none_iff.mp none)
      · rename_i columnNumber isColumn
        exact .position divided (coordinate?_eq_some_iff.mp isLine)
          (coordinate?_eq_some_iff.mp isColumn)

/-- There is one outcome by the rules, and it is the one that reading gives. -/
theorem read_eq_iff {text : String} {outcome : Except LookupError Position} :
    read text = outcome ↔ Reads text.toList outcome := by
  constructor
  · rintro rfl
    exact reads_read text
  · intro reads
    rw [read]
    cases reads with
    | position divided isLine isColumn =>
      simp only [splitColon?_eq_some_iff.mpr divided, coordinate?_eq_some_iff.mpr isLine,
        coordinate?_eq_some_iff.mpr isColumn]
    | missingColon none => simp only [splitColon?_eq_none_iff.mpr none]
    | badLine divided noLine =>
      simp only [splitColon?_eq_some_iff.mpr divided, coordinate?_eq_none_iff.mpr noLine]
    | badColumn divided isLine noColumn =>
      simp only [splitColon?_eq_some_iff.mpr divided, coordinate?_eq_some_iff.mpr isLine,
        coordinate?_eq_none_iff.mpr noColumn]

/-! ## Printing -/

/-- The digits of a small number spell it. -/
theorem isCoordinate_toDigits {number : Nat} (small : number < 2 ^ 64) :
    IsCoordinate (Nat.toDigits 10 number) number := by
  rcases Number.natural?_eq_some_iff.mp (Number.natural?_toDigits number) with
    ⟨some, decimal, value⟩
  have written := @IsCoordinate.written [] [] (Nat.toDigits 10 number) []
    (List.forall_mem_nil _) (.inl rfl) some decimal (value.symm ▸ small) (List.forall_mem_nil _)
  rwa [value, List.append_nil, List.nil_append] at written

/-- A displayed position is divided into its line and its column. -/
theorem isDivided_display (position : Position) :
    IsDivided position.display.toList (Nat.toDigits 10 position.line)
      (Nat.toDigits 10 position.column) where
  whole := by
    simp [display, Nat.toString_eq_repr, Nat.repr_eq_ofList_toDigits]
    rfl
  first member := by
    have digits := Number.natural?_eq_some_iff.mp (Number.natural?_toDigits position.line)
    cases digits.2.1 ':' member

/-- What is wrong with a text is said to be its format. -/
theorem prefix_message {text : List Char} {error : LookupError}
    (reads : Reads text (.error error)) :
    "Invalid position format: ".toList <+: error.message.toList := by
  cases reads with
  | missingColon => decide
  | @badLine line =>
    have message : (LookupError.badLine (String.ofList line)).message =
        "Invalid position format: invalid line number: " ++ String.ofList line := rfl
    rw [message, String.toList_append]
    exact List.IsPrefix.trans (by decide) (List.prefix_append ..)
  | @badColumn _ column =>
    have message : (LookupError.badColumn (String.ofList column)).message =
        "Invalid position format: invalid column number: " ++ String.ofList column := rfl
    rw [message, String.toList_append]
    exact List.IsPrefix.trans (by decide) (List.prefix_append ..)

/-- A position is read back from its text if both its numbers are below `2 ^ 64`.  A text is read as
a position if there is a coordinate on each side of its first colon, and otherwise its format is
invalid: it has no colon, or else the line is wrong, or else the column. -/
theorem read_display_and_reads :
    (∀ position : Position, position.line < 2 ^ 64 → position.column < 2 ^ 64 →
        read position.display = .ok position) ∧
      (∀ text outcome, read text = outcome ↔ Reads text.toList outcome) ∧
      ∀ text error, read text = .error error →
        "Invalid position format: ".toList <+: error.message.toList :=
  ⟨fun position line column => read_eq_iff.mpr (.position (isDivided_display position)
      (isCoordinate_toDigits line) (isCoordinate_toDigits column)),
    fun _ _ => read_eq_iff, fun _ _ failed => prefix_message (read_eq_iff.mp failed)⟩

end Position

end ScriptTree
