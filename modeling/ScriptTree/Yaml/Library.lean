import ScriptTree.Yaml.Printer
import ScriptTree.Yaml.Reader

/-!
# Libraries for YAML

Whatever writes and reads YAML is a parameter here.  What is asked of it is that it keeps to the
block form: it writes a record as a mapping in block form with its texts as scalars in one of three
styles, and it reads every such mapping as the node that it spells.  The block form and the styles
are given by a grammar, apart from any writer or reader.

A library follows collections only so far, and references only so often.  Whoever decodes a node
counts what is entered.
-/

namespace ScriptTree

namespace Yaml

/-! ## Records -/

/-- Whether a character can stand anywhere in a plain scalar. -/
def isWordCharacter (character : Char) : Bool :=
  isPrintable character && !isBreak character && !isIndicator character &&
    character ∉ [' ', ':', '-', '?', '.'] && character.utf8Size = 1

/-- Whether a text can be the name of an entry as it stands. -/
def isName (name : List Char) : Bool :=
  !name.isEmpty && name.all isWordCharacter && name.length ≤ 1024

/-- Whether a text is a short name that stands for itself. -/
def isWord (name : String) : Bool :=
  isName name.toList && fitsPlain name.toList && !isAmbiguous name.toList && name.length ≤ 128

mutual

/-- Whether a value is a record: it has members, all of them named by words. -/
def isRecord : Json → Bool
  | .object members => !members.isEmpty && areFields members
  | _ => false

/-- Whether a value can be a field of a record: a text without line feeds, a record, or some
records. -/
def isField : Json → Bool
  | .string text => text.toList.all (· ≠ '\n')
  | .object members => !members.isEmpty && areFields members
  | .array items => !items.isEmpty && areRecords items
  | _ => false

/-- Whether all members are fields. -/
def areFields : List (String × Json) → Bool
  | [] => true
  | (name, value) :: rest => isWord name && isField value && areFields rest

/-- Whether all items are records. -/
def areRecords : List Json → Bool
  | [] => true
  | item :: rest => isRecord item && areRecords rest

end

/-- Whether a value is no text with a break in it. -/
def isUnbroken : Json → Bool
  | .string text => text.toList.all (!isBreak ·)
  | _ => true

mutual

/-- The values that a node can stand for.  A text that is taken for something else where it is
plain is in quotes. -/
inductive Represents : Yaml → Json → Prop
  | text {style : Style} {text : String}
      (clear : style = .plain → isAmbiguous text.toList = false) :
      Represents (.scalar style none text) (.string text)
  | sequence {nodes : List Yaml} {items : List Json} (inner : RepresentItems nodes items) :
      Represents (.sequence nodes) (.array items)
  | mapping {entries : List (Yaml × Yaml)} {members : List (String × Json)}
      (inner : RepresentMembers entries members) : Represents (.mapping entries) (.object members)

/-- The items that nodes can stand for. -/
inductive RepresentItems : List Yaml → List Json → Prop
  | nil : RepresentItems [] []
  | cons {node : Yaml} {nodes : List Yaml} {item : Json} {items : List Json}
      (here : Represents node item) (later : RepresentItems nodes items) :
      RepresentItems (node :: nodes) (item :: items)

/-- The members that entries can stand for. -/
inductive RepresentMembers : List (Yaml × Yaml) → List (String × Json) → Prop
  | nil : RepresentMembers [] []
  | cons {name : String} {node : Yaml} {entries : List (Yaml × Yaml)} {value : Json}
      {members : List (String × Json)} (here : Represents node value)
      (later : RepresentMembers entries members) :
      RepresentMembers ((.scalar .plain none name, node) :: entries) ((name, value) :: members)

end

/-! ## Block form -/

/-- What a text is written as in lines that are indented by `indent` blanks. -/
inductive SpellsScalar (indent : Nat) (text : List Char) : Style → List Char → Prop
  | plain (fits : fitsPlain text = true) : SpellsScalar indent text .plain text
  | singleQuoted (fits : fitsSingleQuotes text = true)
      (deep : 0 < indent ∨ ∀ character ∈ text, isBreak character = false) :
      SpellsScalar indent text .singleQuoted (Yaml.singleQuoted indent text)
  | doubleQuoted : SpellsScalar indent text .doubleQuoted (Yaml.doubleQuoted text)

mutual

/-- What one entry or more are written as, each with a line of its own that starts `indent` blanks
deep.  The first line is without its indentation. -/
inductive SpellsEntries : Nat → List (Yaml × Yaml) → List Char → Prop
  | last {indent : Nat} {name : String} {node : Yaml} {text : List Char}
      (word : isName name.toList = true) (here : SpellsValue indent node text) :
      SpellsEntries indent [(.scalar .plain none name, node)] (name.toList ++ ':' :: text)
  | next {indent : Nat} {name : String} {node : Yaml} {entries : List (Yaml × Yaml)}
      {text rest : List Char} (word : isName name.toList = true)
      (here : SpellsValue indent node text) (later : SpellsEntries indent entries rest) :
      SpellsEntries indent ((.scalar .plain none name, node) :: entries)
        (name.toList ++ ':' :: (text ++ (Json.blanks indent ++ rest)))

/-- What the value of an entry is written as, from its colon to the end of its last line. -/
inductive SpellsValue : Nat → Yaml → List Char → Prop
  | scalar {indent : Nat} {style : Style} {text : String} {spelled : List Char}
      (here : SpellsScalar indent text.toList style spelled) :
      SpellsValue indent (.scalar style none text) (' ' :: (spelled ++ ['\n']))
  | sequence {indent : Nat} {nodes : List Yaml} {text : List Char}
      (inner : SpellsItems indent nodes text) : SpellsValue indent (.sequence nodes) ('\n' :: text)
  | mapping {indent : Nat} {entries : List (Yaml × Yaml)} {text : List Char}
      (inner : SpellsEntries (indent + 2) entries text) :
      SpellsValue indent (.mapping entries) ('\n' :: (Json.blanks (indent + 2) ++ text))

/-- What one item or more are written as, each behind a dash that stands `indent` blanks deep. -/
inductive SpellsItems : Nat → List Yaml → List Char → Prop
  | last {indent : Nat} {entries : List (Yaml × Yaml)} {text : List Char}
      (here : SpellsEntries (indent + 2) entries text) :
      SpellsItems indent [.mapping entries] (Json.blanks indent ++ '-' :: ' ' :: text)
  | next {indent : Nat} {entries : List (Yaml × Yaml)} {nodes : List Yaml} {text rest : List Char}
      (here : SpellsEntries (indent + 2) entries text) (later : SpellsItems indent nodes rest) :
      SpellsItems indent (.mapping entries :: nodes)
        (Json.blanks indent ++ '-' :: ' ' :: (text ++ rest))

end

/-! ## Libraries -/

/-- What writes and reads YAML. -/
structure Library where
  /-- The text of a value. -/
  write : Json → String
  /-- The root node of a text, if it is one document. -/
  read? : String → Option Yaml
  /-- How many collections inside of each other are followed where a value is decoded. -/
  nestingLimit : Nat
  /-- How often references are followed for each part of a document. -/
  referenceLimit : Nat

/-- A library keeps to the block form. -/
structure Library.IsStandard (library : Library) : Prop where
  writes : ∀ members : List (String × Json), isRecord (.object members) = true →
    (∀ member ∈ members, isUnbroken member.2 = true) →
    ∃ entries, RepresentMembers entries members ∧
      SpellsEntries 0 entries (library.write (.object members)).toList
  reads : ∀ (entries : List (Yaml × Yaml)) (text : String), SpellsEntries 0 entries text.toList →
    library.read? text = some (.mapping entries)

/-- The library that is used unless another one is given. -/
def Library.standard : Library where
  write := Yaml.write
  read? := Yaml.read?
  nestingLimit := 128
  referenceLimit := 100

/-- Decode a value from the root node of a text, which is given together with the nodes that
references stand for. -/
def Library.decode? {α : Type} (library : Library)
    (decode : List (Nat × Yaml) → Yaml → Decoding α) (text : String) : Option α :=
  (library.read? text).bind fun root =>
    (decode root.anchors.reverse root).run' (library.referenceLimit * root.size)

end Yaml

end ScriptTree
