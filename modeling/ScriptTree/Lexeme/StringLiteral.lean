import ScriptTree.Text.Range

/-!
# String literals and their escapes

The body of a string literal is read from one backslash to the next.  What is
between two escapes is plain and stands for itself.  Two loops go over the body:
one puts the value of the literal together, and the other one lists the escapes
that have a problem.  Both go on behind the last byte of an escape.

The escapes are `\\ \" \' \/ \n \t \r \a \b \f \v`, one to three octal digits,
`\x` with two hexadecimal digits and `\u` with four.  A malformed hexadecimal
escape, or a backslash with nothing after it, is invalid and stands for its own
text.  Any other escaped character is unknown and stands for itself.  A code
point that no character has stands for the replacement character.
-/

namespace ScriptTree.StringLiteral

/-- What an escape stands for. -/
inductive Meaning where
  | value (character : Char)
  | invalid
  | unknown (character : Char)
deriving DecidableEq

/-- Whether a string lexeme ends with an unescaped closing quote. -/
def isTerminated (lexeme : List Char) : Bool :=
  2 ≤ Text.byteLength lexeme && lexeme.getLast? = some '"' &&
    (lexeme.tail.dropLast.reverse.takeWhile (· = '\\')).length % 2 = 0

/-- Whether a block comment is closed by a marker of its own. -/
def isTerminatedComment (lexeme : List Char) : Bool :=
  4 ≤ Text.byteLength lexeme && ['*', '/'].isSuffixOf lexeme

/-- The text between the quotes.  The closing quote goes only where the literal is terminated. -/
def body (lexeme : List Char) : List Char :=
  let inner :=
    match lexeme with
    | '"' :: rest => rest
    | _ => lexeme
  if isTerminated lexeme then inner.dropLast else inner

/-- Characters that stand for one character after a backslash. -/
def singleEscape? : Char → Option Char
  | '\\' => some '\\'
  | '"' => some '"'
  | '\'' => some '\''
  | '/' => some '/'
  | 'n' => some '\n'
  | 't' => some '\t'
  | 'r' => some '\r'
  | 'a' => some '\x07'
  | 'b' => some '\x08'
  | 'f' => some '\x0c'
  | 'v' => some '\x0b'
  | _ => none

/-- Whether a character is an octal digit. -/
def isOctalDigit (character : Char) : Bool :=
  '0' ≤ character && character ≤ '7'

/-- Whether a character is a hexadecimal digit, in either case. -/
def isHexDigit (character : Char) : Bool :=
  character.isDigit || ('a' ≤ character && character ≤ 'f') ||
    ('A' ≤ character && character ≤ 'F')

/-- The value of a hexadecimal digit. -/
def hexDigit (character : Char) : Nat :=
  if character.isDigit then character.toNat - '0'.toNat
  else if 'a' ≤ character then character.toNat - 'a'.toNat + 10
  else character.toNat - 'A'.toNat + 10

/-- The number that digits of one base write. -/
def number (base : Nat) (digits : List Char) : Nat :=
  digits.foldl (fun value digit => value * base + hexDigit digit) 0

/-- The character with a code point, or the replacement character where none has it. -/
def characterOf (codePoint : Nat) : Char :=
  if codePoint.isValidChar then Char.ofNat codePoint else '\ufffd'

/-- A hexadecimal escape of exactly `width` digits, and the number of bytes it takes. -/
def hexEscape (width : Nat) (rest : List Char) : Meaning × Nat :=
  let digits := (rest.take width).takeWhile isHexDigit
  if Text.byteLength digits < width then
    (.invalid, 1 + Text.byteLength digits)
  else
    (.value (characterOf (number 16 digits)), 1 + width)

/-- Read the escape after a backslash: its meaning, and the number of bytes it takes there. -/
def readEscape : List Char → Meaning × Nat
  | [] => (.invalid, 0)
  | first :: rest =>
    match singleEscape? first with
    | some character => (.value character, 1)
    | none =>
      if isOctalDigit first then
        let digits := ((first :: rest).take 3).takeWhile isOctalDigit
        (.value (characterOf (number 8 digits)), Text.byteLength digits)
      else if first = 'x' then
        hexEscape 2 rest
      else if first = 'u' then
        hexEscape 4 rest
      else
        (.unknown first, first.utf8Size)

/-! ## Where escapes end -/

/-- The characters of ASCII take one byte each. -/
theorem utf8Size_of_le {character bound : Char} (ordered : character ≤ bound)
    (small : bound.val ≤ 127) : character.utf8Size = 1 :=
  Char.utf8Size_eq_one_iff.mpr (UInt32.le_trans (Char.le_def.mp ordered) small)

theorem utf8Size_of_isHexDigit {digit : Char} (hex : isHexDigit digit = true) :
    digit.utf8Size = 1 := by
  simp only [isHexDigit, Char.isDigit, Bool.or_eq_true, Bool.and_eq_true, decide_eq_true_eq] at hex
  rcases hex with (⟨-, decimal⟩ | ⟨-, small⟩) | ⟨-, capital⟩
  · exact utf8Size_of_le (Char.le_def.mpr decimal) (by decide)
  · exact utf8Size_of_le small (by decide)
  · exact utf8Size_of_le capital (by decide)

theorem utf8Size_of_singleEscape? {mark character : Char}
    (single : singleEscape? mark = some character) : mark.utf8Size = 1 := by
  revert single
  fun_cases singleEscape? mark with
  | case12 => rintro ⟨⟩
  | _ => exact fun _ => rfl

/-- Characters of one byte are as many as their bytes. -/
theorem byteLength_eq_length {text : List Char}
    (single : ∀ character ∈ text, character.utf8Size = 1) :
    Text.byteLength text = text.length := by
  induction text with
  | nil => rfl
  | cons first rest ih =>
    rw [List.forall_mem_cons] at single
    rw [Text.byteLength, single.1, ih single.2, List.length_cons, Nat.add_comm]

/-- A run of at most `count` characters and what follows it are the whole text. -/
theorem take_takeWhile_append_drop (count : Nat) (accepts : Char → Bool) (text : List Char) :
    (text.take count).takeWhile accepts ++
      text.drop ((text.take count).takeWhile accepts).length = text := by
  have whole : (text.take count).takeWhile accepts =
      text.take ((text.take count).takeWhile accepts).length := by
    have front := List.takeWhile_prefix accepts (l := text.take count)
    exact List.prefix_iff_eq_take.1 (front.trans (List.take_prefix count text))
  conv => lhs; lhs; rw [whole]
  exact List.take_append_drop _ text

/-- A hexadecimal escape ends behind its digits. -/
theorem byteLength_hexEscape (width : Nat) (rest : List Char) :
    1 + Text.byteLength ((rest.take width).takeWhile isHexDigit) = (hexEscape width rest).2 := by
  have digits : Text.byteLength ((rest.take width).takeWhile isHexDigit) =
      ((rest.take width).takeWhile isHexDigit).length :=
    byteLength_eq_length fun digit member =>
      utf8Size_of_isHexDigit (List.all_eq_true.mp List.all_takeWhile digit member)
  have few := (List.takeWhile_prefix isHexDigit (l := rest.take width)).length_le
  rw [List.length_take] at few
  fun_cases hexEscape width rest with
  | case1 => rfl
  | case2 taken enough =>
    have whole : width ≤ Text.byteLength ((rest.take width).takeWhile isHexDigit) :=
      Nat.not_lt.mp enough
    exact congrArg (1 + ·) (by omega)

/-- An escape ends between two characters of the text after its backslash. -/
theorem exists_cut (text : List Char) :
    ∃ tail after, text = tail ++ after ∧ Text.byteLength tail = (readEscape text).2 := by
  fun_cases readEscape text with
  | case1 => exact ⟨[], [], rfl, rfl⟩
  | case2 first rest character single =>
    refine ⟨[first], rest, rfl, ?_⟩
    rw [Text.byteLength, utf8Size_of_singleEscape? single]
    rfl
  | case3 first rest _ _ digits =>
    exact ⟨digits, _, (take_takeWhile_append_drop 3 isOctalDigit (first :: rest)).symm, rfl⟩
  | case4 rest =>
    exact ⟨'x' :: (rest.take 2).takeWhile isHexDigit, rest.drop _,
      congrArg (List.cons 'x') (take_takeWhile_append_drop 2 isHexDigit rest).symm,
      byteLength_hexEscape 2 rest⟩
  | case5 rest =>
    exact ⟨'u' :: (rest.take 4).takeWhile isHexDigit, rest.drop _,
      congrArg (List.cons 'u') (take_takeWhile_append_drop 4 isHexDigit rest).symm,
      byteLength_hexEscape 4 rest⟩
  | case6 first rest => exact ⟨[first], rest, rfl, rfl⟩

/-- The bytes that an escape is read from end between two characters. -/
theorem isSome_cut (text : List Char) :
    (Text.splitBytes (readEscape text).2 text).isSome = true := by
  rcases exists_cut text with ⟨tail, after, whole, size⟩
  rw [← size, whole, Text.splitBytes_append, Option.isSome_some]

/-- Cut the text after a backslash where the escape ends. -/
def cutEscape (text : List Char) : List Char × List Char :=
  (Text.splitBytes (readEscape text).2 text).get (isSome_cut text)

/-- An escape and what follows it are the whole text, and the escape has as many bytes as were
read. -/
theorem cutEscape_append (text : List Char) :
    (cutEscape text).1 ++ (cutEscape text).2 = text ∧
      Text.byteLength (cutEscape text).1 = (readEscape text).2 := by
  have found : Text.splitBytes (readEscape text).2 text = some (cutEscape text) :=
    (Option.some_get _).symm
  have cut := Text.eq_append_of_splitBytes found
  exact ⟨cut.1.symm, cut.2⟩

/-- What is left behind an escape is shorter than what was there from its backslash on. -/
theorem length_cutEscape_lt {slash : Char} {text rest : List Char}
    (found : text.dropWhile (· ≠ '\\') = slash :: rest) :
    (cutEscape rest).2.length < text.length := by
  have whole := congrArg List.length (cutEscape_append rest).1
  have behind := (List.dropWhile_suffix (l := text) (· ≠ '\\')).length_le
  rw [found, List.length_cons] at behind
  rw [List.length_append] at whole
  omega

/-! ## The value of a literal -/

/-- What an escape contributes to the value of the literal; `tail` is its text after the
backslash. -/
def Meaning.text (tail : List Char) : Meaning → List Char
  | .value character => [character]
  | .unknown character => [character]
  | .invalid => '\\' :: tail

/-- The value of a literal's body. -/
def decodeBody (text : List Char) : List Char :=
  match _ : text.dropWhile (· ≠ '\\') with
  | [] => text
  | _ :: rest =>
    text.takeWhile (· ≠ '\\') ++
      ((readEscape rest).1.text (cutEscape rest).1 ++ decodeBody (cutEscape rest).2)
termination_by text.length
decreasing_by exact length_cutEscape_lt ‹_›

/-- The value of a string lexeme. -/
def decode (lexeme : List Char) : List Char :=
  decodeBody (body lexeme)

/-! ## The problems of a literal -/

/-- A problem with one escape: where it stands in the source, and its text. -/
structure EscapeIssue where
  isInvalid : Bool
  span : Span
  sequence : List Char
deriving DecidableEq

/-- Whether what is wrong with an escape is an error.  There is no answer for an escape that has a
value. -/
def Meaning.isInvalid? : Meaning → Option Bool
  | .value _ => none
  | .invalid => some true
  | .unknown _ => some false

/-- The problems in a part of a literal's body that begins at the offset `base`. -/
def bodyIssues (base : Nat) (text : List Char) : List EscapeIssue :=
  match _ : text.dropWhile (· ≠ '\\') with
  | [] => []
  | _ :: rest =>
    let start := base + Text.byteLength (text.takeWhile (· ≠ '\\'))
    let stop := start + 1 + (readEscape rest).2
    let later := bodyIssues stop (cutEscape rest).2
    match (readEscape rest).1.isInvalid? with
    | none => later
    | some isInvalid => ⟨isInvalid, ⟨start, stop⟩, '\\' :: (cutEscape rest).1⟩ :: later
termination_by text.length
decreasing_by exact length_cutEscape_lt ‹_›

/-- The escapes of a string lexeme at the offset `base` that are invalid or unknown. -/
def escapeIssues (lexeme : List Char) (base : Nat) : List EscapeIssue :=
  bodyIssues (base + 1) (body lexeme)

end ScriptTree.StringLiteral
