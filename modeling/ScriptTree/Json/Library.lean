import ScriptTree.Json.Printer
import ScriptTree.Json.Reader

/-!
# Libraries for JSON

Whatever writes and reads JSON is a parameter here.  What is asked of it is that it keeps to the
standard: it writes texts, arrays and objects as standard JSON, and it reads standard JSON as what
it spells.  What standard JSON is, is said by a grammar, apart from any writer or reader.

A library follows arrays and objects only so far.  Whoever decodes a value counts how many of them
are entered.
-/

namespace ScriptTree

namespace Json

mutual

/-- Whether a value is made of strings, arrays and objects only. -/
def isTextual : Json → Bool
  | .string _ => true
  | .array items => areTextual items
  | .object members => haveTextualValues members
  | _ => false

/-- Whether all items of an array can be told apart from their texts. -/
def areTextual : List Json → Bool
  | [] => true
  | item :: rest => item.isTextual && areTextual rest

/-- Whether all values of an object can be told apart from their texts. -/
def haveTextualValues : List (String × Json) → Bool
  | [] => true
  | (_, value) :: rest => value.isTextual && haveTextualValues rest

end

/-! ## Standard JSON -/

/-- Between two tokens there may be any number of blanks. -/
def IsGap (text : List Char) : Prop :=
  ∀ character ∈ text, isBlank character = true

/-- What a character is written as inside of a string: itself, unless it is a quote, a backslash or
a control character, or an escape that stands for it. -/
inductive SpellsCharacter (character : Char) : List Char → Prop
  | itself (noQuote : character ≠ '"') (noBackslash : character ≠ '\\')
      (visible : ¬character.toNat < 0x20) :
      SpellsCharacter character [character]
  | letter {letter : Char} (stands : unescape? letter = some character) :
      SpellsCharacter character ['\\', letter]
  | digits {first second third fourth : Char}
      (value : unit? first second third fourth = some character.toNat) :
      SpellsCharacter character ['\\', 'u', first, second, third, fourth]

/-- What the characters of a string are written as, up to the closing quote. -/
inductive SpellsText : List Char → List Char → Prop
  | closing : SpellsText [] ['"']
  | character {first : Char} {text spelled rest : List Char}
      (here : SpellsCharacter first spelled) (later : SpellsText text rest) :
      SpellsText (first :: text) (spelled ++ rest)

/-- What the name of a member is written as, with blanks around it. -/
inductive SpellsName (name : String) : List Char → Prop
  | name {before spelled after : List Char} (front : IsGap before)
      (inner : SpellsText name.toList spelled) (back : IsGap after) :
      SpellsName name (before ++ '"' :: (spelled ++ after))

mutual

/-- What a value is written as. -/
inductive Spells : Json → List Char → Prop
  | string {text : String} {spelled : List Char} (inner : SpellsText text.toList spelled) :
      Spells (.string text) ('"' :: spelled)
  | emptyArray {gap : List Char} (blank : IsGap gap) : Spells (.array []) ('[' :: (gap ++ [']']))
  | array {items : List Json} {text : List Char} (inner : SpellsItems items text) :
      Spells (.array items) ('[' :: text)
  | emptyObject {gap : List Char} (blank : IsGap gap) :
      Spells (.object []) ('\x7b' :: (gap ++ ['\x7d']))
  | object {members : List (String × Json)} {text : List Char}
      (inner : SpellsMembers members text) : Spells (.object members) ('\x7b' :: text)

/-- What a value is written as, with blanks around it. -/
inductive SpellsPadded : Json → List Char → Prop
  | padded {value : Json} {before text after : List Char} (front : IsGap before)
      (here : Spells value text) (back : IsGap after) :
      SpellsPadded value (before ++ (text ++ after))

/-- What one item or more are written as, up to the closing bracket. -/
inductive SpellsItems : List Json → List Char → Prop
  | last {item : Json} {text : List Char} (here : SpellsPadded item text) :
      SpellsItems [item] (text ++ [']'])
  | next {item : Json} {items : List Json} {text rest : List Char} (here : SpellsPadded item text)
      (later : SpellsItems items rest) : SpellsItems (item :: items) (text ++ ',' :: rest)

/-- What one member or more are written as, up to the closing brace. -/
inductive SpellsMembers : List (String × Json) → List Char → Prop
  | last {name : String} {value : Json} {spelled text : List Char} (named : SpellsName name spelled)
      (here : SpellsPadded value text) :
      SpellsMembers [(name, value)] (spelled ++ ':' :: (text ++ ['\x7d']))
  | next {name : String} {value : Json} {members : List (String × Json)}
      {spelled text rest : List Char} (named : SpellsName name spelled)
      (here : SpellsPadded value text) (later : SpellsMembers members rest) :
      SpellsMembers ((name, value) :: members) (spelled ++ ':' :: (text ++ ',' :: rest))

end

/-! ## Libraries -/

/-- What writes and reads JSON. -/
structure Library where
  /-- The indented text of a value. -/
  write : Json → String
  /-- The value that a text is, if it is one. -/
  read? : String → Option Json
  /-- How many arrays and objects inside of each other are followed where a value is decoded. -/
  nestingLimit : Nat

/-- A library keeps to the standard. -/
structure Library.IsStandard (library : Library) : Prop where
  writes : ∀ value : Json, value.isTextual = true → SpellsPadded value (library.write value).toList
  reads : ∀ (value : Json) (text : String), SpellsPadded value text.toList →
    library.read? text = some value

/-- The library that is used unless another one is given. -/
def Library.standard : Library where
  write := pretty
  read? := Json.read?
  nestingLimit := 127

end Json

end ScriptTree
