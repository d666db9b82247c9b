import ScriptTree.Json

/-!
# Writing JSON

In a string only the quotation mark, the backslash and the control characters
below U+0020 are escaped; the common ones have a letter of their own and the
others four hexadecimal digits.  The indented form puts every item and every
member on a line of its own, two blanks deeper than what holds it; the compact
form has no blanks at all.
-/

namespace ScriptTree.Json

/-- Four lowercase hexadecimal digits. -/
def hexDigits (value : Nat) : List Char :=
  let digits := Nat.toDigits 16 value
  List.replicate (4 - digits.length) '0' ++ digits

/-- A character between quotes.  Quotes, backslashes and controls are escaped. -/
def escape (character : Char) : List Char :=
  match character with
  | '"' => ['\\', '"']
  | '\\' => ['\\', '\\']
  | '\x08' => ['\\', 'b']
  | '\t' => ['\\', 't']
  | '\n' => ['\\', 'n']
  | '\x0c' => ['\\', 'f']
  | '\r' => ['\\', 'r']
  | _ =>
    if character.toNat < 0x20 then '\\' :: 'u' :: hexDigits character.toNat else [character]

/-- A text between quotes. -/
def quote (text : String) : List Char :=
  '"' :: (text.toList.flatMap escape ++ ['"'])

/-- As many blanks as a line is indented by. -/
def blanks (count : Nat) : List Char :=
  List.replicate count ' '

mutual

/-- The indented form of a value that stands `indent` blanks deep. -/
def indented (indent : Nat) : Json → List Char
  | .null | .unreadable => ['n', 'u', 'l', 'l']
  | .bool true => ['t', 'r', 'u', 'e']
  | .bool false => ['f', 'a', 'l', 's', 'e']
  | .number literal => literal.toList
  | .string text => quote text
  | .array [] => ['[', ']']
  | .array (item :: rest) =>
    '[' :: '\n' :: (blanks (indent + 2) ++ indented (indent + 2) item ++
      indentedItems (indent + 2) rest ++ '\n' :: (blanks indent ++ [']']))
  | .object [] => ['\x7b', '\x7d']
  | .object ((name, value) :: rest) =>
    '\x7b' :: '\n' :: (blanks (indent + 2) ++ quote name ++ ':' :: ' ' ::
      indented (indent + 2) value ++ indentedMembers (indent + 2) rest ++
        '\n' :: (blanks indent ++ ['\x7d']))

/-- The items after the first one, each after a comma and on a line of its own. -/
def indentedItems (indent : Nat) : List Json → List Char
  | [] => []
  | item :: rest =>
    ',' :: '\n' :: (blanks indent ++ indented indent item ++ indentedItems indent rest)

/-- The members after the first one, each after a comma and on a line of its own. -/
def indentedMembers (indent : Nat) : List (String × Json) → List Char
  | [] => []
  | (name, value) :: rest =>
    ',' :: '\n' :: (blanks indent ++ quote name ++ ':' :: ' ' :: indented indent value ++
      indentedMembers indent rest)

end

/-- A value over several lines, two blanks further in for each level. -/
def pretty (value : Json) : String :=
  String.ofList (indented 0 value)

mutual

/-- The form without blanks. -/
def compactText : Json → List Char
  | .null | .unreadable => ['n', 'u', 'l', 'l']
  | .bool true => ['t', 'r', 'u', 'e']
  | .bool false => ['f', 'a', 'l', 's', 'e']
  | .number literal => literal.toList
  | .string text => quote text
  | .array [] => ['[', ']']
  | .array (item :: rest) => '[' :: (compactText item ++ compactItems rest ++ [']'])
  | .object [] => ['\x7b', '\x7d']
  | .object ((name, value) :: rest) =>
    '\x7b' :: (quote name ++ ':' :: compactText value ++ compactMembers rest ++ ['\x7d'])

/-- The items of an array after the first one, each behind a comma. -/
def compactItems : List Json → List Char
  | [] => []
  | item :: rest => ',' :: (compactText item ++ compactItems rest)

/-- The members of an object after the first one, each behind a comma. -/
def compactMembers : List (String × Json) → List Char
  | [] => []
  | (name, value) :: rest =>
    ',' :: (quote name ++ ':' :: compactText value ++ compactMembers rest)

end

/-- A value on one line, without blanks. -/
def compact (value : Json) : String :=
  String.ofList (compactText value)

end ScriptTree.Json
