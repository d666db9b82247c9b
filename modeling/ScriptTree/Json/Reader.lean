import ScriptTree.Json
import ScriptTree.Lexeme.StringLiteral
import ScriptTree.Text.Read

/-!
# Reading JSON

The reader accepts one value with blanks around it and nothing else.
-/

namespace ScriptTree.Json

/-- The four characters that may stand between the tokens of a JSON text. -/
def isBlank (character : Char) : Bool :=
  character = ' ' || character = '\n' || character = '\t' || character = '\r'

/-- What follows the blanks at the front. -/
def skipBlanks (text : List Char) : List Char :=
  text.dropWhile isBlank

theorem length_skipBlanks_le (text : List Char) :
    (skipBlanks text).length ≤ text.length :=
  (List.dropWhile_suffix isBlank).length_le

/-- The value of four hexadecimal digits. -/
def unit? (first second third fourth : Char) : Option Nat :=
  let digits := [first, second, third, fourth]
  if digits.all StringLiteral.isHexDigit then some (StringLiteral.number 16 digits) else none

/-- Whether a code unit begins a pair that encodes one character. -/
def isLeadingSurrogate (unit : Nat) : Bool :=
  0xd800 ≤ unit && unit < 0xdc00

/-- Whether a code unit ends a pair that encodes one character. -/
def isTrailingSurrogate (unit : Nat) : Bool :=
  0xdc00 ≤ unit && unit < 0xe000

/-- The character after a backslash, for escapes of one character. -/
def unescape? : Char → Option Char
  | '"' => some '"'
  | '\\' => some '\\'
  | '/' => some '/'
  | 'b' => some '\x08'
  | 'f' => some '\x0c'
  | 'n' => some '\n'
  | 'r' => some '\r'
  | 't' => some '\t'
  | _ => none

/-- A piece of a string: a character, or a unit that is one half of a surrogate pair. -/
inductive StringPart where
  | character (character : Char)
  | surrogate (unit : Nat)
deriving DecidableEq

/-- The parts of a string after its opening quote, up to its closing quote. -/
def stringParts : List Char → Option (List StringPart × List Char)
  | '"' :: rest => some ([], rest)
  | '\\' :: 'u' :: first :: second :: third :: fourth :: rest => do
    let unit ← unit? first second third fourth
    let (more, after) ← stringParts rest
    if isLeadingSurrogate unit || isTrailingSurrogate unit then
      return (.surrogate unit :: more, after)
    else
      return (.character (Char.ofNat unit) :: more, after)
  | '\\' :: letter :: rest => do
    let character ← unescape? letter
    let (more, after) ← stringParts rest
    return (.character character :: more, after)
  | '\\' :: [] => none
  | character :: rest =>
    if character.toNat < 0x20 then
      none
    else do
      let (more, after) ← stringParts rest
      return (.character character :: more, after)
  | [] => none

/-- A string takes at least its closing quote. -/
theorem length_lt_of_stringParts {text after : List Char} {parts : List StringPart}
    (read : stringParts text = some (parts, after)) : after.length < text.length := by
  fun_induction stringParts text generalizing parts after with
  | case1 rest =>
    obtain ⟨-, rfl⟩ : [] = parts ∧ rest = after := by simpa using read
    simp
  | case2 first second third fourth rest ih =>
    simp only [Option.bind_eq_bind, Option.bind_eq_some_iff] at read
    obtain ⟨unit, -, ⟨more, tail⟩, inner, outer⟩ := read
    have bound := ih inner
    split at outer
    · obtain ⟨-, rfl⟩ : _ ∧ tail = after := by simpa using outer
      simp only [List.length_cons]
      omega
    · obtain ⟨-, rfl⟩ : _ ∧ tail = after := by simpa using outer
      simp only [List.length_cons]
      omega
  | case3 letter rest _ ih =>
    simp only [Option.bind_eq_bind, Option.bind_eq_some_iff] at read
    obtain ⟨character, -, ⟨more, tail⟩, inner, outer⟩ := read
    have bound := ih inner
    obtain ⟨-, rfl⟩ : _ ∧ tail = after := by simpa using outer
    simp only [List.length_cons]
    omega
  | case4 => simp at read
  | case5 => simp at read
  | case6 character rest _ _ _ _ _ ih =>
    simp only [Option.bind_eq_bind, Option.bind_eq_some_iff] at read
    obtain ⟨⟨more, tail⟩, inner, outer⟩ := read
    have bound := ih inner
    obtain ⟨-, rfl⟩ : _ ∧ tail = after := by simpa using outer
    simp only [List.length_cons]
    omega
  | case7 => simp at read

/-- The text of some parts, if every surrogate is one half of a pair. -/
def joinParts : List StringPart → Option (List Char)
  | [] => some []
  | .character character :: rest => (joinParts rest).map (character :: ·)
  | .surrogate leading :: .surrogate trailing :: rest =>
    if isLeadingSurrogate leading && isTrailingSurrogate trailing then
      let codePoint := 0x10000 + (leading - 0xd800) * 0x400 + (trailing - 0xdc00)
      (joinParts rest).map (Char.ofNat codePoint :: ·)
    else
      none
  | .surrogate _ :: _ => none

/-- A string after its opening quote; its value is absent where it denotes no text. -/
def readString (input : List Char) : Option (Read input (Option String)) :=
  match equation : stringParts input with
  | none => none
  | some (parts, rest) =>
    some ⟨(joinParts parts).map String.ofList, rest, length_lt_of_stringParts equation⟩

/-- The digits at the front, if there are any, and the text after them. -/
def digits? (text : List Char) : Option (List Char × List Char) :=
  match text.takeWhile Char.isDigit with
  | [] => none
  | digits => some (digits, text.dropWhile Char.isDigit)

/-- A decimal point with digits, or nothing. -/
def fractionPart : List Char → Option (List Char × List Char)
  | '.' :: rest => (digits? rest).map fun (digits, after) => ('.' :: digits, after)
  | text => some ([], text)

/-- The digits of an exponent with an optional sign. -/
def signedDigits? : List Char → Option (List Char × List Char)
  | '+' :: rest => (digits? rest).map fun (digits, after) => ('+' :: digits, after)
  | '-' :: rest => (digits? rest).map fun (digits, after) => ('-' :: digits, after)
  | text => digits? text

/-- An exponent, or nothing. -/
def exponentPart : List Char → Option (List Char × List Char)
  | 'e' :: rest => (signedDigits? rest).map fun (digits, after) => ('e' :: digits, after)
  | 'E' :: rest => (signedDigits? rest).map fun (digits, after) => ('E' :: digits, after)
  | text => some ([], text)

/-- The integer part of a number: a zero, or digits that do not start with one. -/
def integerPart : List Char → Option (List Char × List Char)
  | '0' :: rest => some (['0'], rest)
  | text => digits? text

/-- The literal of a number without a sign, and the text after it. -/
def unsignedLiteral (text : List Char) : Option (List Char × List Char) := do
  let (whole, afterWhole) ← integerPart text
  let (fraction, afterFraction) ← fractionPart afterWhole
  let (exponent, after) ← exponentPart afterFraction
  return (whole ++ fraction ++ exponent, after)

/-- The literal of a number, and the text after it. -/
def numberLiteral : List Char → Option (List Char × List Char)
  | '-' :: rest => (unsignedLiteral rest).map fun (literal, after) => ('-' :: literal, after)
  | text => unsignedLiteral text

/-- Reads a number, and keeps it as it is written. -/
def readNumber (input : List Char) : Option (Read input Json) :=
  match numberLiteral input with
  | none => none
  | some (literal, rest) =>
    if shorter : rest.length < input.length then
      some ⟨.number (String.ofList literal), rest, shorter⟩
    else
      none

/-- The members of an object; an object with a name that denotes no text is unreadable. -/
def objectOf (members : List (Option String × Json)) : Json :=
  match members.mapM fun (name, value) => name.map (·, value) with
  | some members => .object members
  | none => .unreadable

mutual

/-- A value at the front of a text, after blanks. -/
def readValue (input : List Char) : Option (Read input Json) :=
  match equation : skipBlanks input with
  | 'n' :: 'u' :: 'l' :: 'l' :: rest =>
    some ⟨.null, rest, by
      have := length_skipBlanks_le input
      simp only [equation, List.length_cons] at this
      omega⟩
  | 't' :: 'r' :: 'u' :: 'e' :: rest =>
    some ⟨.bool true, rest, by
      have := length_skipBlanks_le input
      simp only [equation, List.length_cons] at this
      omega⟩
  | 'f' :: 'a' :: 'l' :: 's' :: 'e' :: rest =>
    some ⟨.bool false, rest, by
      have := length_skipBlanks_le input
      simp only [equation, List.length_cons] at this
      omega⟩
  | '"' :: rest =>
    have bound : rest.length < input.length := by
      have := length_skipBlanks_le input
      simp only [equation, List.length_cons] at this
      omega
    match readString rest with
    | none => none
    | some ⟨text, after, _⟩ => some ⟨(text.map Json.string).getD .unreadable, after, by omega⟩
  | '[' :: rest =>
    have bound : rest.length < input.length := by
      have := length_skipBlanks_le input
      simp only [equation, List.length_cons] at this
      omega
    match inner : skipBlanks rest with
    | ']' :: after =>
      some ⟨.array [], after, by
        have := length_skipBlanks_le rest
        simp only [inner, List.length_cons] at this
        omega⟩
    | _ =>
      match readItems rest with
      | none => none
      | some ⟨items, after, _⟩ => some ⟨.array items, after, by omega⟩
  | '\x7b' :: rest =>
    have bound : rest.length < input.length := by
      have := length_skipBlanks_le input
      simp only [equation, List.length_cons] at this
      omega
    match inner : skipBlanks rest with
    | '\x7d' :: after =>
      some ⟨.object [], after, by
        have := length_skipBlanks_le rest
        simp only [inner, List.length_cons] at this
        omega⟩
    | _ =>
      match readMembers rest with
      | none => none
      | some ⟨members, after, _⟩ => some ⟨objectOf members, after, by omega⟩
  | text =>
    match readNumber text with
    | none => none
    | some ⟨value, rest, _⟩ =>
      some ⟨value, rest, by
        have := length_skipBlanks_le input
        rw [equation] at this
        omega⟩
termination_by 2 * input.length

/-- One item or more, up to the closing bracket. -/
def readItems (input : List Char) : Option (Read input (List Json)) :=
  match readValue input with
  | none => none
  | some ⟨item, afterItem, _⟩ =>
    match equation : skipBlanks afterItem with
    | ']' :: rest =>
      some ⟨[item], rest, by
        have := length_skipBlanks_le afterItem
        simp only [equation, List.length_cons] at this
        omega⟩
    | ',' :: rest =>
      have bound : rest.length < afterItem.length := by
        have := length_skipBlanks_le afterItem
        simp only [equation, List.length_cons] at this
        omega
      match readItems rest with
      | none => none
      | some ⟨more, after, _⟩ => some ⟨item :: more, after, by omega⟩
    | _ => none
termination_by 2 * input.length + 1

/-- One member or more, up to the closing brace. -/
def readMembers (input : List Char) : Option (Read input (List (Option String × Json))) :=
  match opening : skipBlanks input with
  | '"' :: afterQuote =>
    have bound : afterQuote.length < input.length := by
      have := length_skipBlanks_le input
      simp only [opening, List.length_cons] at this
      omega
    match readString afterQuote with
    | none => none
    | some ⟨name, afterName, _⟩ =>
      match colon : skipBlanks afterName with
      | ':' :: afterColon =>
        have bound : afterColon.length < afterName.length := by
          have := length_skipBlanks_le afterName
          simp only [colon, List.length_cons] at this
          omega
        match readValue afterColon with
        | none => none
        | some ⟨value, afterValue, _⟩ =>
          match equation : skipBlanks afterValue with
          | '\x7d' :: rest =>
            some ⟨[(name, value)], rest, by
              have := length_skipBlanks_le afterValue
              simp only [equation, List.length_cons] at this
              omega⟩
          | ',' :: rest =>
            have bound : rest.length < afterValue.length := by
              have := length_skipBlanks_le afterValue
              simp only [equation, List.length_cons] at this
              omega
            match readMembers rest with
            | none => none
            | some ⟨more, after, _⟩ => some ⟨(name, value) :: more, after, by omega⟩
          | _ => none
      | _ => none
  | _ => none
termination_by 2 * input.length + 1

end

/-- Read a whole text as one value. -/
def read? (text : String) : Option Json :=
  match readValue text.toList with
  | some ⟨value, rest, _⟩ => if (skipBlanks rest).isEmpty then some value else none
  | none => none

end ScriptTree.Json
