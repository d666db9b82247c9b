import ScriptTree.Token

/-!
# Keyword spellings

A keyword is accepted in three spellings: all lowercase, all uppercase, and
capitalized.  In any other casing the word is a plain identifier.
-/

namespace ScriptTree.Keyword

/-- Every keyword with its lowercase spelling. -/
def table : List (Token × String) :=
  [(.kwInstance, "instance"), (.kwFunc, "func"), (.kwConst, "const"), (.kwVar, "var"),
    (.kwClass, "class"), (.kwPrototype, "prototype"), (.kwVoid, "void"), (.kwInt, "int"),
    (.kwFloat, "float"), (.kwString, "string"), (.kwIf, "if"), (.kwElse, "else"),
    (.kwReturn, "return"), (.kwTrue, "true"), (.kwFalse, "false")]

/-- Uppercase the first letter of an ASCII word. -/
def capitalize : List Char → List Char
  | [] => []
  | first :: rest => first.toUpper :: rest

/-- The accepted spellings of a lowercase word: lowercase, uppercase, capitalized. -/
def spellingsOf (word : List Char) : List (List Char) :=
  [word, word.map Char.toUpper, capitalize word]

/-- The spellings of a keyword token, lowercase first. -/
def spellings? (token : Token) : Option (List String) :=
  (table.find? fun entry => entry.1 = token).map fun entry =>
    (spellingsOf entry.2.toList).map String.ofList

/-- The keyword that a complete word spells, if any. -/
def lookup (word : List Char) : Option Token :=
  (table.find? fun entry => word ∈ spellingsOf entry.2.toList).map (·.1)

/-- A complete word is a keyword as a whole, or an identifier as a whole. -/
def classify (word : List Char) : Token :=
  (lookup word).getD .identifier

end ScriptTree.Keyword
