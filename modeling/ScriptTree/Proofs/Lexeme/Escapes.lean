import Mathlib.Algebra.Group.Nat.Defs
import Mathlib.Data.List.TakeWhile
import ScriptTree.Proofs.Lexeme.Closing

/-!
# Escapes of a string literal

What an escape is, is said here by rules that do not look at how a literal is read.
A rule names the text of the escape and the text behind it, because digits belong to
an escape as far as they go.  Each text behind a backslash has one escape in front,
so there is one division of a body into plain runs and escapes, and both loops over
the body follow it.
-/

namespace ScriptTree

namespace StringLiteral

/-! ## Runs of digits -/

/-- Some accepted characters, at most `count` of them, that do not go on in the text after them. -/
structure IsRun (accepts : Char → Bool) (count : Nat) (digits after : List Char) : Prop where
  accepted : ∀ digit ∈ digits, accepts digit = true
  few : digits.length ≤ count
  longest : digits.length = count ∨ ∀ next ∈ after.head?, accepts next = false

section

variable {accepts : Char → Bool} {count : Nat} {digits after : List Char}

theorem isRun_takeWhile (accepts : Char → Bool) (count : Nat) (text : List Char) :
    IsRun accepts count ((text.take count).takeWhile accepts)
      (text.drop ((text.take count).takeWhile accepts).length) := by
  induction text generalizing count with
  | nil => exact ⟨by simp, by simp, .inr (by simp)⟩
  | cons first rest ih =>
    cases count with
    | zero => exact ⟨by simp, by simp, .inl (by simp)⟩
    | succ count =>
      rw [List.take_succ_cons, List.takeWhile_cons]
      split
      · rename_i accepted
        rcases ih count with ⟨all, few, longest⟩
        refine ⟨List.forall_mem_cons.mpr ⟨accepted, all⟩, Nat.succ_le_succ few, ?_⟩
        exact longest.imp (congrArg Nat.succ) id
      · rename_i refused
        exact ⟨by simp, by simp, .inr (by simpa using refused)⟩

/-- A run is taken whole, and nothing after it. -/
theorem IsRun.takeWhile_eq (run : IsRun accepts count digits after) :
    ((digits ++ after).take count).takeWhile accepts = digits := by
  have ends : (after.take (count - digits.length)).takeWhile accepts = [] := by
    rcases run.longest with full | refused
    · rw [full, Nat.sub_self, List.take_zero, List.takeWhile_nil]
    · cases after with
      | nil => simp
      | cons next rest =>
        cases count - digits.length with
        | zero => simp
        | succ left => simp [refused next rfl]
  rw [List.take_append, List.take_of_length_le run.few,
    List.takeWhile_append_of_pos run.accepted, ends, List.append_nil]

end

/-! ## Rules -/

/-- The characters that stand for a character after a backslash, each with that character. -/
def singleEscapes : List (Char × Char) :=
  [('\\', '\\'), ('"', '"'), ('\'', '\''), ('/', '/'), ('n', '\n'), ('t', '\t'), ('r', '\r'),
    ('a', '\x07'), ('b', '\x08'), ('f', '\x0c'), ('v', '\x0b')]

/-- The letters that open an escape of hexadecimal digits, each with the number of its digits. -/
def hexEscapes : List (Char × Nat) :=
  [('x', 2), ('u', 4)]

/-- The character of a code point, and the replacement character for a surrogate. -/
def unsurrogate (codePoint : Nat) : Char :=
  if 0xd800 ≤ codePoint ∧ codePoint ≤ 0xdfff then '\ufffd' else Char.ofNat codePoint

/-- The meaning of an escape, its text behind the backslash, and the text after it. -/
inductive IsEscape : Meaning → List Char → List Char → Prop
  | alone : IsEscape .invalid [] []
  | single {mark character : Char} (listed : (mark, character) ∈ singleEscapes)
      (after : List Char) : IsEscape (.value character) [mark] after
  | octal {digits after : List Char} (some : digits ≠ [])
      (run : IsRun isOctalDigit 3 digits after) :
      IsEscape (.value (Char.ofNat (number 8 digits))) digits after
  | hex {mark : Char} {width : Nat} {digits after : List Char}
      (opens : (mark, width) ∈ hexEscapes) (run : IsRun isHexDigit width digits after)
      (whole : digits.length = width) :
      IsEscape (.value (unsurrogate (number 16 digits))) (mark :: digits) after
  | short {mark : Char} {width : Nat} {digits after : List Char}
      (opens : (mark, width) ∈ hexEscapes) (run : IsRun isHexDigit width digits after)
      (short : digits.length < width) : IsEscape .invalid (mark :: digits) after
  | unknown {mark : Char} (unlisted : ∀ character, (mark, character) ∉ singleEscapes)
      (digitless : isOctalDigit mark = false) (unopened : ∀ width, (mark, width) ∉ hexEscapes)
      (after : List Char) : IsEscape (.unknown mark) [mark] after

/-- The escapes of one character are those of the table. -/
theorem singleEscape?_eq_some_iff {mark character : Char} :
    singleEscape? mark = some character ↔ (mark, character) ∈ singleEscapes := by
  constructor
  · fun_cases singleEscape? mark with
    | case12 => rintro ⟨⟩
    | _ => rintro ⟨⟩; decide
  · intro listed
    simp only [singleEscapes, List.mem_cons, List.not_mem_nil, or_false, Prod.mk.injEq] at listed
    rcases listed with ⟨rfl, rfl⟩ | ⟨rfl, rfl⟩ | ⟨rfl, rfl⟩ | ⟨rfl, rfl⟩ | ⟨rfl, rfl⟩ | ⟨rfl, rfl⟩ |
      ⟨rfl, rfl⟩ | ⟨rfl, rfl⟩ | ⟨rfl, rfl⟩ | ⟨rfl, rfl⟩ | ⟨rfl, rfl⟩ <;> rfl

/-- No octal digit stands for a character on its own. -/
theorem singleEscape?_eq_none {digit : Char} (octal : isOctalDigit digit = true) :
    singleEscape? digit = none := by
  have marks : singleEscapes.all (fun entry => !isOctalDigit entry.1) = true := by decide
  cases found : singleEscape? digit with
  | none => rfl
  | some character =>
    have refused := List.all_eq_true.mp marks _ (singleEscape?_eq_some_iff.mp found)
    rw [octal] at refused
    cases refused

/-! ## Code points -/

theorem hexDigit_lt_of_isOctalDigit {digit : Char} (octal : isOctalDigit digit = true) :
    hexDigit digit < 8 := by
  simp only [isOctalDigit, Bool.and_eq_true, decide_eq_true_eq, Char.le_def,
    UInt32.le_iff_toNat_le] at octal
  rcases octal with ⟨zero, seven⟩
  have low : 48 ≤ digit.toNat := zero
  have high : digit.toNat ≤ 55 := seven
  have decimal : digit.isDigit = true := by
    simp only [Char.isDigit, Bool.and_eq_true, decide_eq_true_eq, ge_iff_le,
      UInt32.le_iff_toNat_le]
    exact ⟨low, Nat.le_trans high (by decide)⟩
  rw [hexDigit, if_pos decimal]
  show digit.toNat - 48 < 8
  omega

theorem hexDigit_lt_of_isHexDigit {digit : Char} (hex : isHexDigit digit = true) :
    hexDigit digit < 16 := by
  simp only [isHexDigit, Bool.or_eq_true, Bool.and_eq_true, decide_eq_true_eq] at hex
  unfold hexDigit
  split
  · rename_i decimal
    simp only [Char.isDigit, Bool.and_eq_true, decide_eq_true_eq, UInt32.le_iff_toNat_le]
      at decimal
    have high : digit.toNat ≤ 57 := decimal.2
    show digit.toNat - 48 < 16
    omega
  · rename_i other
    split
    · rename_i small
      rcases hex with (decimal | ⟨-, last⟩) | ⟨-, last⟩
      · exact absurd decimal other
      · have high : digit.toNat ≤ 102 := UInt32.le_iff_toNat_le.mp (Char.le_def.mp last)
        show digit.toNat - 97 + 10 < 16
        omega
      · have low : 97 ≤ digit.toNat := UInt32.le_iff_toNat_le.mp (Char.le_def.mp small)
        have high : digit.toNat ≤ 70 := UInt32.le_iff_toNat_le.mp (Char.le_def.mp last)
        omega
    · rename_i capital
      rcases hex with (decimal | ⟨first, -⟩) | ⟨-, last⟩
      · exact absurd decimal other
      · exact absurd first capital
      · have high : digit.toNat ≤ 70 := UInt32.le_iff_toNat_le.mp (Char.le_def.mp last)
        show digit.toNat - 65 + 10 < 16
        omega

theorem foldl_number_lt {base : Nat} {digits : List Char}
    (small : ∀ digit ∈ digits, hexDigit digit < base) (value : Nat) :
    digits.foldl (fun value digit => value * base + hexDigit digit) value <
      (value + 1) * base ^ digits.length := by
  induction digits generalizing value with
  | nil => simp
  | cons first rest ih =>
    rw [List.forall_mem_cons] at small
    have step : value * base + hexDigit first + 1 ≤ (value + 1) * base := by
      rw [Nat.succ_mul]
      omega
    calc
      rest.foldl (fun value digit => value * base + hexDigit digit)
          (value * base + hexDigit first) <
        (value * base + hexDigit first + 1) * base ^ rest.length := ih small.2 _
      _ ≤ (value + 1) * base * base ^ rest.length := Nat.mul_le_mul_right _ step
      _ = (value + 1) * base ^ (first :: rest).length := by
        rw [List.length_cons, Nat.pow_succ, Nat.mul_assoc, Nat.mul_comm base]

/-- A number is below the power of its base that its digits can reach. -/
theorem number_lt {base : Nat} {digits : List Char}
    (small : ∀ digit ∈ digits, hexDigit digit < base) :
    number base digits < base ^ digits.length := by
  have bound := foldl_number_lt small 0
  rwa [Nat.zero_add, Nat.one_mul] at bound

/-- Of the code points only the surrogates have no character. -/
theorem characterOf_eq {codePoint : Nat} (small : codePoint < 0x110000) :
    characterOf codePoint = unsurrogate codePoint := by
  unfold characterOf unsurrogate Nat.isValidChar
  split <;> split
  · omega
  · rfl
  · rfl
  · omega

/-- Three octal digits stay below the surrogates. -/
theorem IsRun.characterOf_octal {digits after : List Char}
    (run : IsRun isOctalDigit 3 digits after) :
    characterOf (number 8 digits) = Char.ofNat (number 8 digits) := by
  have small := number_lt fun digit member =>
    hexDigit_lt_of_isOctalDigit (run.accepted digit member)
  have bound : 8 ^ digits.length ≤ 8 ^ 3 := Nat.pow_le_pow_right (by decide) run.few
  have valid : (number 8 digits).isValidChar := .inl (by omega)
  rw [characterOf, if_pos valid]

theorem IsRun.characterOf_hex {width : Nat} {digits after : List Char}
    (run : IsRun isHexDigit width digits after) (narrow : width ≤ 4) :
    characterOf (number 16 digits) = unsurrogate (number 16 digits) := by
  have small := number_lt fun digit member =>
    hexDigit_lt_of_isHexDigit (run.accepted digit member)
  have bound : 16 ^ digits.length ≤ 16 ^ 4 :=
    Nat.pow_le_pow_right (by decide) (Nat.le_trans run.few narrow)
  exact characterOf_eq (by omega)

/-! ## Reading by the rules -/

theorem cases_hexEscapes {mark : Char} {width : Nat} (opens : (mark, width) ∈ hexEscapes) :
    mark = 'x' ∧ width = 2 ∨ mark = 'u' ∧ width = 4 := by
  simpa [hexEscapes] using opens

/-- The digits of a hexadecimal escape are read as far as they go. -/
theorem IsRun.hexEscape_eq {width : Nat} {digits after : List Char}
    (run : IsRun isHexDigit width digits after) (narrow : width ≤ 4) :
    hexEscape width (digits ++ after) =
      (if digits.length < width then .invalid else .value (unsurrogate (number 16 digits)),
        1 + digits.length) := by
  have bytes : Text.byteLength digits = digits.length :=
    byteLength_eq_length fun digit member => utf8Size_of_isHexDigit (run.accepted digit member)
  rw [hexEscape, run.takeWhile_eq, bytes, run.characterOf_hex narrow]
  split
  · rfl
  · rename_i enough
    rw [Nat.le_antisymm run.few (Nat.not_lt.mp enough)]

/-- Behind the letter that opens it, a hexadecimal escape is read. -/
theorem readEscape_of_opens {mark : Char} {width : Nat} (opens : (mark, width) ∈ hexEscapes)
    (rest : List Char) : readEscape (mark :: rest) = hexEscape width rest := by
  rcases cases_hexEscapes opens with ⟨rfl, rfl⟩ | ⟨rfl, rfl⟩
  · rfl
  · rfl

theorem byteLength_of_opens {mark : Char} {width : Nat} {digits after : List Char}
    (opens : (mark, width) ∈ hexEscapes) (run : IsRun isHexDigit width digits after) :
    width ≤ 4 ∧ Text.byteLength (mark :: digits) = 1 + digits.length := by
  have bytes : Text.byteLength digits = digits.length :=
    byteLength_eq_length fun digit member => utf8Size_of_isHexDigit (run.accepted digit member)
  rw [Text.byteLength, bytes]
  rcases cases_hexEscapes opens with ⟨rfl, rfl⟩ | ⟨rfl, rfl⟩
  · exact ⟨by decide, rfl⟩
  · exact ⟨by decide, rfl⟩

/-- What the rules name is what is read. -/
theorem IsEscape.readEscape_eq {meaning : Meaning} {tail after : List Char}
    (escape : IsEscape meaning tail after) :
    readEscape (tail ++ after) = (meaning, Text.byteLength tail) := by
  cases escape with
  | alone => rfl
  | single listed =>
    have single := singleEscape?_eq_some_iff.mpr listed
    rw [List.singleton_append, readEscape, single, Text.byteLength,
      utf8Size_of_singleEscape? single]
    rfl
  | octal some run =>
    rcases List.exists_cons_of_ne_nil some with ⟨first, more, rfl⟩
    have octal := run.accepted first List.mem_cons_self
    have taken := run.takeWhile_eq
    rw [List.cons_append] at taken ⊢
    rw [readEscape, singleEscape?_eq_none octal]
    simp only [octal, if_true, taken, run.characterOf_octal]
  | hex opens run whole =>
    rcases byteLength_of_opens opens run with ⟨narrow, bytes⟩
    rw [List.cons_append, readEscape_of_opens opens, run.hexEscape_eq narrow, bytes, whole,
      if_neg (Nat.lt_irrefl _)]
  | short opens run short =>
    rcases byteLength_of_opens opens run with ⟨narrow, bytes⟩
    rw [List.cons_append, readEscape_of_opens opens, run.hexEscape_eq narrow, bytes, if_pos short]
  | @unknown mark unlisted digitless unopened =>
    have single : singleEscape? mark = none := by
      cases found : singleEscape? mark with
      | none => rfl
      | some character => exact absurd (singleEscape?_eq_some_iff.mp found) (unlisted character)
    have noX : mark ≠ 'x' := by
      rintro rfl
      exact unopened 2 (by decide)
    have noU : mark ≠ 'u' := by
      rintro rfl
      exact unopened 4 (by decide)
    rw [List.singleton_append, readEscape, single]
    simp only [digitless, Bool.false_eq_true, if_false, noX, noU, Text.byteLength, Nat.add_zero]

/-- Every text behind a backslash has an escape in front. -/
theorem exists_isEscape (text : List Char) :
    ∃ meaning tail after, text = tail ++ after ∧ IsEscape meaning tail after := by
  cases text with
  | nil => exact ⟨_, [], [], rfl, .alone⟩
  | cons first rest =>
    by_cases listed : ∃ character, (first, character) ∈ singleEscapes
    · rcases listed with ⟨character, listed⟩
      exact ⟨_, [first], rest, rfl, .single listed rest⟩
    · by_cases octal : isOctalDigit first = true
      · have run := isRun_takeWhile isOctalDigit 3 (first :: rest)
        have some : ((first :: rest).take 3).takeWhile isOctalDigit ≠ [] := by
          rw [List.take_succ_cons, List.takeWhile_cons_of_pos octal]
          exact List.cons_ne_nil _ _
        exact ⟨_, _, _, (take_takeWhile_append_drop 3 isOctalDigit _).symm, .octal some run⟩
      · by_cases opens : ∃ width, (first, width) ∈ hexEscapes
        · rcases opens with ⟨width, opens⟩
          have run := isRun_takeWhile isHexDigit width rest
          have whole := take_takeWhile_append_drop width isHexDigit rest
          rcases Nat.lt_or_eq_of_le run.few with short | full
          · exact ⟨_, first :: _, _, congrArg (List.cons first) whole.symm, .short opens run short⟩
          · exact ⟨_, first :: _, _, congrArg (List.cons first) whole.symm, .hex opens run full⟩
        · exact ⟨_, [first], rest, rfl, .unknown (not_exists.mp listed)
            (Bool.eq_false_iff.mpr octal) (not_exists.mp opens) rest⟩

theorem IsEscape.cutEscape_eq {meaning : Meaning} {tail after : List Char}
    (escape : IsEscape meaning tail after) : cutEscape (tail ++ after) = (tail, after) := by
  have cut : Text.splitBytes (readEscape (tail ++ after)).2 (tail ++ after) =
      some (cutEscape (tail ++ after)) := (Option.some_get _).symm
  rw [escape.readEscape_eq, Text.splitBytes_append, Option.some.injEq] at cut
  exact cut.symm

theorem isEscape_cutEscape (rest : List Char) :
    IsEscape (readEscape rest).1 (cutEscape rest).1 (cutEscape rest).2 := by
  rcases exists_isEscape rest with ⟨meaning, tail, after, rfl, escape⟩
  rw [escape.readEscape_eq, escape.cutEscape_eq]
  exact escape

/-! ## The division of a body -/

/-- A body is divided into plain runs and the escapes between them. -/
inductive Divides : List Char → List Segment → Prop
  | last {run : List Char} (plain : '\\' ∉ run) : Divides run [.plain run]
  | escape {run tail after : List Char} {meaning : Meaning} {parts : List Segment}
      (plain : '\\' ∉ run) (escape : IsEscape meaning tail after) (further : Divides after parts) :
      Divides (run ++ '\\' :: (tail ++ after)) (.plain run :: .escape meaning tail :: parts)

theorem not_mem_takeWhile (text : List Char) : '\\' ∉ text.takeWhile (· ≠ '\\') := by
  intro member
  have accepted := List.all_eq_true.mp List.all_takeWhile _ member
  simp at accepted

theorem divides_segments (text : List Char) : Divides text (segments text) := by
  fun_induction segments text with
  | case1 text found =>
    refine .last fun member => ?_
    have plain := List.takeWhile_append_dropWhile (p := (· ≠ '\\')) (l := text)
    rw [found, List.append_nil] at plain
    exact not_mem_takeWhile text (by rwa [plain])
  | case2 text slash rest found ih =>
    have divided := Divides.escape (not_mem_takeWhile text) (isEscape_cutEscape rest) ih
    rwa [(cutEscape_append rest).1, ← eq_append_of_dropWhile found] at divided

theorem ne_of_not_mem {run : List Char} (plain : '\\' ∉ run) :
    ∀ character ∈ run, decide (character ≠ '\\') = true := by
  intro character member
  rw [decide_eq_true_eq]
  rintro rfl
  exact plain member

/-- There is one division of a body. -/
theorem Divides.eq_segments {text : List Char} {parts : List Segment}
    (divides : Divides text parts) : parts = segments text := by
  induction divides with
  | last plain =>
    exact (segments_of_plain (List.dropWhile_eq_nil_iff.mpr (ne_of_not_mem plain))).symm
  | @escape run tail after meaning parts plain escape further ih =>
    have accepted := ne_of_not_mem plain
    have found : (run ++ '\\' :: (tail ++ after)).dropWhile (· ≠ '\\') =
        '\\' :: (tail ++ after) := by
      rw [List.dropWhile_append_of_pos accepted]
      rfl
    have taken : (run ++ '\\' :: (tail ++ after)).takeWhile (· ≠ '\\') = run := by
      rw [List.takeWhile_append_of_pos accepted]
      exact List.append_nil run
    rw [segments_of_escape found, taken, escape.readEscape_eq, escape.cutEscape_eq, ih]

theorem divides_iff {text : List Char} {parts : List Segment} :
    Divides text parts ↔ parts = segments text :=
  ⟨Divides.eq_segments, fun same => same ▸ divides_segments text⟩

/-! ## Problems by their places -/

/-- The segments of a division, each with the number of bytes in front of it. -/
def placed (offset : Nat) : List Segment → List (Nat × Segment)
  | [] => []
  | part :: rest => (offset, part) :: placed (offset + Text.byteLength part.text) rest

/-- The problem of a segment that stands at an offset of the source, if it is an escape that is
invalid or unknown. -/
def Segment.issue? (offset : Nat) : Segment → Option EscapeIssue
  | .escape .invalid tail =>
    some ⟨true, ⟨offset, offset + Text.byteLength ('\\' :: tail)⟩, '\\' :: tail⟩
  | .escape (.unknown _) tail =>
    some ⟨false, ⟨offset, offset + Text.byteLength ('\\' :: tail)⟩, '\\' :: tail⟩
  | _ => none

theorem issuesFrom_eq_filterMap (base offset : Nat) (parts : List Segment) :
    issuesFrom (base + offset) parts =
      (placed offset parts).filterMap fun part => part.2.issue? (base + part.1) := by
  induction parts generalizing offset with
  | nil => rfl
  | cons part rest ih =>
    rw [placed, List.filterMap_cons, ← ih, ← Nat.add_assoc]
    rcases part with run | ⟨_ | _ | _, tail⟩ <;> rfl

/-- Problems are in front of each other, and none of them is empty. -/
theorem pairwise_issuesFrom (base : Nat) (parts : List Segment) :
    (∀ issue ∈ issuesFrom base parts,
        base ≤ issue.span.start ∧ issue.span.start < issue.span.stop) ∧
      (issuesFrom base parts).Pairwise fun first second =>
        first.span.stop ≤ second.span.start := by
  induction parts generalizing base with
  | nil => exact ⟨fun _ member => absurd member List.not_mem_nil, .nil⟩
  | cons part rest ih =>
    rcases ih (base + Text.byteLength part.text) with ⟨bounds, ordered⟩
    have further : ∀ issue ∈ issuesFrom (base + Text.byteLength part.text) rest,
        base ≤ issue.span.start ∧ issue.span.start < issue.span.stop := fun issue member =>
      ⟨Nat.le_trans (Nat.le_add_right _ _) (bounds issue member).1, (bounds issue member).2⟩
    cases part with
    | plain run => exact ⟨further, ordered⟩
    | escape meaning tail =>
      rw [issuesFrom]
      cases meaning.isInvalid? with
      | none => exact ⟨further, ordered⟩
      | some isInvalid =>
        have wide : 0 < Text.byteLength (Segment.escape meaning tail).text :=
          Nat.lt_of_lt_of_le (Char.utf8Size_pos '\\') (Nat.le_add_right _ _)
        refine ⟨List.forall_mem_cons.mpr ⟨⟨Nat.le_refl base, ?_⟩, further⟩,
          .cons (fun issue member => (bounds issue member).1) ordered⟩
        exact Nat.lt_add_of_pos_right wide

/-- Between the opening quote of a literal and the closing one, if it has one, is its body. -/
theorem eq_quoted_body (inner : List Char) :
    '"' :: inner = '"' :: (body ('"' :: inner) ++
      if isTerminated ('"' :: inner) then ['"'] else []) := by
  have unfolded : body ('"' :: inner) =
      if isTerminated ('"' :: inner) then inner.dropLast else inner := rfl
  rw [unfolded]
  split
  · rename_i terminated
    rcases Piece.isTerminated_iff_endsQuoted.mp terminated with ⟨front, rfl, -⟩
    rw [List.dropLast_concat]
  · rw [List.append_nil]

/-- A problem with an escape is about the text that its span covers in the literal. -/
theorem slice_of_mem_escapeIssues {inner : List Char} {base : Nat} {issue : EscapeIssue}
    (member : issue ∈ escapeIssues ('"' :: inner) base) :
    Text.slice (issue.span.start - base) (issue.span.stop - base) ('"' :: inner) =
      some issue.sequence := by
  rcases exists_of_mem_bodyIssues member with ⟨before, after, divided, span⟩
  have whole := eq_quoted_body inner
  have start : base + 1 + Text.byteLength before - base = Text.byteLength ('"' :: before) := by
    show base + 1 + Text.byteLength before - base = 1 + Text.byteLength before
    omega
  have stop : base + 1 + Text.byteLength before + Text.byteLength issue.sequence - base =
      Text.byteLength ('"' :: before) + Text.byteLength issue.sequence := by
    omega
  rw [divided, List.append_assoc, ← List.cons_append, ← List.cons_append] at whole
  rw [span, start, stop, whole]
  exact Text.slice_append ..

end StringLiteral

open StringLiteral

/-- There is one division of the body of a string literal into plain runs and escapes, and both
readings of the literal follow it.  The value of the literal is made of the plain runs and of what
the escapes stand for, and the escapes that are invalid or unknown are what is found to be wrong, in
order, each with its place in the source and with the text that is there. -/
theorem exists_division {source : String} {lexeme : Lexeme}
    (member : lexeme ∈ Lexeme.tokenize (.ofSource source) source)
    (string : lexeme.token = .string) :
    let text := lexeme.text.toList
    text = '"' :: (body text ++ if isTerminated text then ['"'] else []) ∧
      ∃ parts : List Segment,
        (∀ other, Divides (body text) other ↔ other = parts) ∧
        parts.flatMap Segment.text = body text ∧
        decode text = parts.flatMap Segment.value ∧
        (∀ base, escapeIssues text base =
          (placed 0 parts).filterMap fun part => part.2.issue? (base + 1 + part.1)) ∧
        (∀ base, (escapeIssues text base).Pairwise fun first second =>
          first.span.stop ≤ second.span.start) ∧
        (∀ base, ∀ issue ∈ escapeIssues text base, issue.span.start < issue.span.stop ∧
          Text.slice (issue.span.start - base) (issue.span.stop - base) text =
            some issue.sequence) ∧
        ∀ issue ∈ escapeIssues text lexeme.range.span.start,
          Text.slice issue.span.start issue.span.stop source.toList = some issue.sequence := by
  intro text
  rcases Lexeme.exists_stopsAt member string with ⟨stop, before, behind, -, -, written, -⟩
  have quoted : text = '"' :: (Piece.stringTail behind).1 := written
  refine ⟨quoted ▸ eq_quoted_body _, segments (body text), fun other => divides_iff,
    flatMap_text_segments _, decode_eq text, fun base => ?_, fun base => ?_,
    fun base issue among => ⟨?_, ?_⟩, fun issue among => ?_⟩
  · exact (escapeIssues_eq text base).trans (issuesFrom_eq_filterMap (base + 1) 0 _)
  · rw [escapeIssues_eq]
    exact (pairwise_issuesFrom _ _).2
  · rw [escapeIssues_eq] at among
    exact ((pairwise_issuesFrom _ _).1 issue among).2
  · rw [quoted] at among ⊢
    exact slice_of_mem_escapeIssues among
  · rcases Lexeme.exists_slice_of_mem_escapeIssues member string among with
      ⟨front, back, whole, span⟩
    rw [span, whole, Text.slice_append]

/-- A literal with plain text, an unknown escape, a letter by its code point, an escape that lacks a
digit, and octal digits in front of its closing quote. -/
theorem exists_division_escapes :
    let text := "\"a\\q\\u00e4\\x4\\101\"".toList
    (∃ parts : List Segment, (∀ other, Divides (body text) other ↔ other = parts) ∧
        decode text = parts.flatMap Segment.value) ∧
      decode text = "aqä\\x4A".toList ∧
      escapeIssues text 4 =
        [⟨false, ⟨6, 8⟩, "\\q".toList⟩, ⟨true, ⟨14, 17⟩, "\\x4".toList⟩] := by
  have member : (⟨⟨.string, ⟨⟨4, 22⟩, ⟨0, 4⟩, ⟨0, 22⟩⟩⟩, "\"a\\q\\u00e4\\x4\\101\""⟩ : Lexeme) ∈
      Lexeme.tokenize (.ofSource "s = \"a\\q\\u00e4\\x4\\101\";")
        "s = \"a\\q\\u00e4\\x4\\101\";" := by
    decide +kernel
  rcases exists_division member rfl with ⟨-, parts, unique, -, value, -⟩
  exact ⟨⟨parts, unique, value⟩, by decide +kernel, by decide +kernel⟩

end ScriptTree
