import ScriptTree.Token.Keyword

/-!
# Cutting a text into pieces

The first character of a text decides which kind of lexeme opens there, and a
small scanner for that kind takes the longest run that belongs to it.  Cutting
piece after piece divides the whole text: the pieces concatenate to the input
and none of them is empty.

A string literal runs to its closing quote or to the end of its line, and a
backslash in it takes the next character along unless that is a line break.  A
block comment runs to the first closing marker or to the end of the text.
Neighbouring characters that open no lexeme form one piece.
-/

namespace ScriptTree

/-- A token with the characters it is written in. -/
structure Piece where
  token : Token
  text : List Char
deriving DecidableEq

namespace Piece

/-- A character of the upper half of Latin-1. -/
def isLatinLetter (character : Char) : Bool :=
  '\x80' ≤ character && character ≤ 'ÿ'

/-- Letters, the underscore, and the upper half of Latin-1 open a word. -/
def isWordStart (character : Char) : Bool :=
  character.isAlpha || character = '_' || isLatinLetter character

/-- Whether a character may go on a word. -/
def isWordPart (character : Char) : Bool :=
  isWordStart character || character.isDigit

/-- Whether a character ends a line, and with it a line comment. -/
def isLineBreak (character : Char) : Bool :=
  character = '\n' || character = '\r'

/-- Whether a character separates tokens.  A byte order mark does, too. -/
def isBlank (character : Char) : Bool :=
  isLineBreak character || character = ' ' || character = '\t' || character = '\x0c' ||
    character = '\ufeff'

/-- The operator made of two characters. -/
def pairToken? : Char → Char → Option Token
  | '+', '=' => some .plusAssign
  | '-', '=' => some .minusAssign
  | '*', '=' => some .starAssign
  | '/', '=' => some .slashAssign
  | '|', '|' => some .orOr
  | '&', '&' => some .andAnd
  | '=', '=' => some .eqEq
  | '!', '=' => some .notEq
  | '<', '=' => some .lessEq
  | '>', '=' => some .greaterEq
  | _, _ => none

/-- The operator or delimiter made of one character. -/
def singleToken? : Char → Option Token
  | '(' => some .lParen
  | ')' => some .rParen
  | '\x7b' => some .lBrace
  | '\x7d' => some .rBrace
  | '[' => some .lBracket
  | ']' => some .rBracket
  | ';' => some .semicolon
  | ',' => some .comma
  | '.' => some .dot
  | '=' => some .assign
  | '<' => some .less
  | '>' => some .greater
  | '+' => some .plus
  | '-' => some .minus
  | '*' => some .star
  | '/' => some .slash
  | '%' => some .percent
  | '!' => some .bang
  | '~' => some .tilde
  | '&' => some .strayAmpersand
  | '|' => some .strayPipe
  | _ => none

/-- No lexeme opens with such a character. -/
def opensNothing (character : Char) : Bool :=
  !isWordStart character && !character.isDigit && !isBlank character && character ≠ '"' &&
    (singleToken? character).isNone

/-- The part of a string literal after its opening quote, and the text after the literal. -/
def stringTail : List Char → List Char × List Char
  | [] => ([], [])
  | '"' :: rest => (['"'], rest)
  | '\\' :: escaped :: rest =>
    if isLineBreak escaped then
      (['\\'], escaped :: rest)
    else
      ('\\' :: escaped :: (stringTail rest).1, (stringTail rest).2)
  | character :: rest =>
    if isLineBreak character then
      ([], character :: rest)
    else
      (character :: (stringTail rest).1, (stringTail rest).2)

/-- The part of a block comment after its opening marker, and the text after the comment. -/
def commentTail : List Char → List Char × List Char
  | [] => ([], [])
  | '*' :: '/' :: rest => (['*', '/'], rest)
  | character :: rest => (character :: (commentTail rest).1, (commentTail rest).2)

/-- The rest of a number after its integer digits: one dot and digits, if both are there. -/
def fractionTail : List Char → List Char × List Char
  | '.' :: digit :: rest =>
    if digit.isDigit then
      ('.' :: digit :: rest.takeWhile Char.isDigit, rest.dropWhile Char.isDigit)
    else
      ([], '.' :: digit :: rest)
  | rest => ([], rest)

/-- The piece of an operator, a delimiter, a comment, or of characters that open nothing. -/
def symbol (first : Char) : List Char → Piece × List Char
  | second :: rest =>
    match pairToken? first second with
    | some token => (⟨token, [first, second]⟩, rest)
    | none =>
      if first = '/' ∧ second = '/' then
        (⟨.lineComment, '/' :: '/' :: rest.takeWhile (!isLineBreak ·)⟩,
          rest.dropWhile (!isLineBreak ·))
      else if first = '/' ∧ second = '*' then
        (⟨.blockComment, '/' :: '*' :: (commentTail rest).1⟩, (commentTail rest).2)
      else
        match singleToken? first with
        | some token => (⟨token, [first]⟩, second :: rest)
        | none =>
          (⟨.error, first :: (second :: rest).takeWhile opensNothing⟩,
            (second :: rest).dropWhile opensNothing)
  | [] => (⟨(singleToken? first).getD .error, [first]⟩, [])

/-- The first piece of the text `first :: rest`, and the text after it. -/
def cut (first : Char) (rest : List Char) : Piece × List Char :=
  if isWordStart first then
    let word := first :: rest.takeWhile isWordPart
    (⟨Keyword.classify word, word⟩, rest.dropWhile isWordPart)
  else if first.isDigit then
    let fraction := fractionTail (rest.dropWhile Char.isDigit)
    (⟨.number, first :: (rest.takeWhile Char.isDigit ++ fraction.1)⟩, fraction.2)
  else if isBlank first then
    (⟨.whitespace, first :: rest.takeWhile isBlank⟩, rest.dropWhile isBlank)
  else if first = '"' then
    (⟨.string, '"' :: (stringTail rest).1⟩, (stringTail rest).2)
  else
    symbol first rest

/-- The part of a string up to its closing quote and the rest are the whole text. -/
theorem stringTail_append (text : List Char) :
    (stringTail text).1 ++ (stringTail text).2 = text := by
  fun_induction stringTail text with simp_all

/-- The part of a comment up to its end and the rest are the whole text. -/
theorem commentTail_append (text : List Char) :
    (commentTail text).1 ++ (commentTail text).2 = text := by
  fun_induction commentTail text with simp_all

theorem fractionTail_append (text : List Char) :
    (fractionTail text).1 ++ (fractionTail text).2 = text := by
  fun_cases fractionTail text <;> simp

/-- A symbol and what follows it are the whole text. -/
theorem symbol_append (first : Char) (rest : List Char) :
    (symbol first rest).1.text ++ (symbol first rest).2 = first :: rest := by
  fun_cases symbol first rest <;> simp_all [commentTail_append]

/-- A cut loses nothing. -/
theorem cut_append (first : Char) (rest : List Char) :
    (cut first rest).1.text ++ (cut first rest).2 = first :: rest := by
  fun_cases cut first rest with
  | case1 _ word => simp [word]
  | case2 _ _ fraction => simp [fraction, fractionTail_append]
  | case3 => simp
  | case4 => simp_all [stringTail_append]
  | case5 => exact symbol_append first rest

/-- A symbol has at least one character. -/
theorem symbol_text_ne_nil (first : Char) (rest : List Char) :
    (symbol first rest).1.text ≠ [] := by
  fun_cases symbol first rest <;> simp

/-- A piece has at least one character, so cutting pieces comes to an end. -/
theorem cut_text_ne_nil (first : Char) (rest : List Char) :
    (cut first rest).1.text ≠ [] := by
  fun_cases cut first rest <;> simp_all [symbol_text_ne_nil]

/-- What is left after a cut is shorter than what was there. -/
theorem length_cut_lt (first : Char) (rest : List Char) :
    (cut first rest).2.length < (first :: rest).length := by
  have whole := congrArg List.length (cut_append first rest)
  have positive := List.length_pos_iff.2 (cut_text_ne_nil first rest)
  simp only [List.length_append] at whole
  omega

/-- All pieces of a text, in order. -/
def all : List Char → List Piece
  | [] => []
  | first :: rest => (cut first rest).1 :: all (cut first rest).2
termination_by text => text.length
decreasing_by exact length_cut_lt first rest

/-- The pieces of a text concatenate to the text. -/
theorem flatMap_text_all (text : List Char) :
    (all text).flatMap Piece.text = text := by
  fun_induction all text with
  | case1 => rfl
  | case2 first rest ih => rw [List.flatMap_cons, ih, cut_append]

/-- No piece of a text is empty. -/
theorem text_ne_nil_of_mem_all {text : List Char} {piece : Piece}
    (member : piece ∈ all text) : piece.text ≠ [] := by
  fun_induction all text with
  | case1 => simp at member
  | case2 first rest ih =>
    rcases List.mem_cons.1 member with rfl | later
    · exact cut_text_ne_nil first rest
    · exact ih later

end Piece

end ScriptTree
