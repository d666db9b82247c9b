import ScriptTree.Json.Printer
import ScriptTree.Yaml.Plain

/-!
# Writing YAML

Objects and arrays are written in block form, each member and each item on lines
of its own.  An object is indented by two blanks more than the name above it, and
the dashes of an array stand as deep as that name.  What has no parts is written
as a scalar, or as in JSON.
-/

/-!
## Writing scalars

A text is written without quotes where nothing else would be read back, else in
single quotes where that is possible, else in double quotes.  Single quotes
leave every character as it is and double a quote; they cannot hold characters
that do not print.  A line or paragraph separator in single quotes is followed
by the blanks that its new line is indented by, and these are not read back.
-/

namespace ScriptTree.Yaml

/-- Line feeds, line separators and paragraph separators end a line. -/
def isBreak (character : Char) : Bool :=
  character = '\n' || character = '\u2028' || character = '\u2029'

/-- Characters that can stand in a text as they are. -/
def isPrintable (character : Char) : Bool :=
  (' ' ≤ character && character ≤ '~') || ('\u00a0' ≤ character && character ≤ '\ud7ff') ||
    ('\ue000' ≤ character && character ≤ '\ufffd' && character ≠ '\ufeff') ||
      Char.ofNat 0x10000 ≤ character

/-- Characters that mean something else at the start of a plain scalar. -/
def isIndicator (character : Char) : Bool :=
  character ∈ ['#', ',', '[', ']', '\x7b', '\x7d', '&', '*', '!', '|', '>', '\'', '"', '%', '@',
    '\x60']

/-- A space or a tabulator. -/
def isBlank (character : Char) : Bool :=
  character = ' ' || character = '\t'

/-- Whether a blank, a line break or the end comes next. -/
def isAtGap : List Char → Bool
  | [] => true
  | character :: _ => isBlank character || isBreak character

/-- Whether a text can open a plain scalar. -/
def opensPlain : List Char → Bool
  | [] => false
  | '-' :: '-' :: '-' :: _ => false
  | '.' :: '.' :: '.' :: _ => false
  | first :: rest =>
    !isIndicator first && first ≠ ' ' &&
      !((first = '-' || first = '?' || first = ':') && isAtGap rest)

/-- Whether a text can go on in a plain scalar, after a blank or after something else. -/
def continuesPlain (afterBlank : Bool) : List Char → Bool
  | [] => !afterBlank
  | character :: rest =>
    isPrintable character && !isBreak character && !(character = ':' && isAtGap rest) &&
      !(character = '#' && afterBlank) && continuesPlain (character = ' ') rest

/-- Whether a text can be written without quotes. -/
def fitsPlain (text : List Char) : Bool :=
  opensPlain text && continuesPlain false text

/-- Whether a break and a blank stand side by side somewhere. -/
def hasBlankAtBreak : List Char → Bool
  | first :: second :: rest =>
    (isBreak first && second = ' ') || (first = ' ' && isBreak second) ||
      hasBlankAtBreak (second :: rest)
  | _ => false

/-- Whether a text can be written in single quotes, where nothing is escaped. -/
def fitsSingleQuotes (text : List Char) : Bool :=
  text.all isPrintable && !hasBlankAtBreak text

/-- A text between single quotes.  After a break the next character is indented. -/
def singleQuotedFrom (indent : Nat) (afterBreak : Bool) : List Char → List Char
  | [] => (if afterBreak then Json.blanks indent else []) ++ ['\'']
  | character :: rest =>
    if isBreak character then
      character :: singleQuotedFrom indent true rest
    else
      (if afterBreak then Json.blanks indent else []) ++
        ((if character = '\'' then ['\'', '\''] else [character]) ++
          singleQuotedFrom indent false rest)

/-- A text in single quotes.  A quote is doubled. -/
def singleQuoted (indent : Nat) (text : List Char) : List Char :=
  '\'' :: singleQuotedFrom indent false text

/-- Uppercase hexadecimal digits, filled up with zeros. -/
def upperHex (width value : Nat) : List Char :=
  let digits := (Nat.toDigits 16 value).map Char.toUpper
  List.replicate (width - digits.length) '0' ++ digits

/-- The letter of a character that has an escape of its own. -/
def escapeLetter? : Char → Option Char
  | '\x00' => some '0'
  | '\x07' => some 'a'
  | '\x08' => some 'b'
  | '\t' => some 't'
  | '\n' => some 'n'
  | '\x0b' => some 'v'
  | '\x0c' => some 'f'
  | '\r' => some 'r'
  | '\x1b' => some 'e'
  | '"' => some '"'
  | '\\' => some '\\'
  | '\u0085' => some 'N'
  | '\u2028' => some 'L'
  | '\u2029' => some 'P'
  | _ => none

/-- A character between double quotes. -/
def escape (character : Char) : List Char :=
  match escapeLetter? character with
  | some letter => ['\\', letter]
  | none =>
    if isPrintable character then [character]
    else if character.toNat ≤ 0xff then '\\' :: 'x' :: upperHex 2 character.toNat
    else '\\' :: 'u' :: upperHex 4 character.toNat

/-- A text in double quotes, where everything can be escaped. -/
def doubleQuoted (text : List Char) : List Char :=
  '"' :: (text.flatMap escape ++ ['"'])

/-- A text as a scalar in lines that are indented by `indent` blanks. -/
def scalarText (indent : Nat) (text : List Char) : List Char :=
  if fitsPlain text && !isAmbiguous text then text
  else if fitsSingleQuotes text then singleQuoted indent text
  else doubleQuoted text

/-! ## Values -/

open Json (blanks)

mutual

/-- The lines of a value that starts `indent` blanks deep; the first one is without its
indentation. -/
def lines (indent : Nat) : Json → List Char
  | .string text => scalarText indent text.toList ++ ['\n']
  | .array (item :: rest) => '-' :: ' ' :: (lines (indent + 2) item ++ itemLines indent rest)
  | .object ((name, value) :: rest) =>
    scalarText indent name.toList ++ ':' :: (valueLines indent value ++ memberLines indent rest)
  | value => Json.compactText value ++ ['\n']

/-- What follows the colon of a member, up to the end of its last line. -/
def valueLines (indent : Nat) : Json → List Char
  | .string text => ' ' :: (scalarText indent text.toList ++ ['\n'])
  | .array (item :: rest) =>
    '\n' :: (blanks indent ++ '-' :: ' ' :: (lines (indent + 2) item ++ itemLines indent rest))
  | .object ((name, value) :: rest) =>
    '\n' :: (blanks (indent + 2) ++ (scalarText (indent + 2) name.toList ++
      ':' :: (valueLines (indent + 2) value ++ memberLines (indent + 2) rest)))
  | value => ' ' :: (Json.compactText value ++ ['\n'])

/-- The lines of the items after the first one. -/
def itemLines (indent : Nat) : List Json → List Char
  | [] => []
  | item :: rest =>
    blanks indent ++ '-' :: ' ' :: (lines (indent + 2) item ++ itemLines indent rest)

/-- The lines of the members after the first one. -/
def memberLines (indent : Nat) : List (String × Json) → List Char
  | [] => []
  | (name, value) :: rest =>
    blanks indent ++ (scalarText indent name.toList ++
      ':' :: (valueLines indent value ++ memberLines indent rest))

end

/-- The text of a value in block form. -/
def write (value : Json) : String :=
  String.ofList (lines 0 value)

end ScriptTree.Yaml
