/-!
# Tokens of the Daedalus language

A token says which kind of lexeme stands at some place; the text of the lexeme
is kept apart.  Blanks and comments are tokens as well, and so are the
characters that no other token accepts.  `spelling?` gives the one way to write
a token whose text is fixed, keywords in their lowercase form.
-/

namespace ScriptTree

/-- The tokens: those of the grammar, trivia, and what belongs to neither. -/
inductive Token where
  | kwInstance | kwFunc | kwConst | kwVar | kwClass | kwPrototype
  | kwVoid | kwInt | kwFloat | kwString
  | kwIf | kwElse | kwReturn | kwTrue | kwFalse
  | identifier | number | string
  | lParen | rParen | lBrace | rBrace | lBracket | rBracket | semicolon | comma | dot
  | assign | plusAssign | minusAssign | starAssign | slashAssign
  | orOr | andAnd | eqEq | notEq | less | lessEq | greater | greaterEq
  | plus | minus | star | slash | percent | bang | tilde
  | whitespace | lineComment | blockComment
  | strayAmpersand | strayPipe | error
deriving DecidableEq, Inhabited

namespace Token

/-- Every token, in the order of its declaration. -/
def all : List Token :=
  [.kwInstance, .kwFunc, .kwConst, .kwVar, .kwClass, .kwPrototype, .kwVoid, .kwInt, .kwFloat,
    .kwString, .kwIf, .kwElse, .kwReturn, .kwTrue, .kwFalse, .identifier, .number, .string,
    .lParen, .rParen, .lBrace, .rBrace, .lBracket, .rBracket, .semicolon, .comma, .dot, .assign,
    .plusAssign, .minusAssign, .starAssign, .slashAssign, .orOr, .andAnd, .eqEq, .notEq, .less,
    .lessEq, .greater, .greaterEq, .plus, .minus, .star, .slash, .percent, .bang, .tilde,
    .whitespace, .lineComment, .blockComment, .strayAmpersand, .strayPipe, .error]

theorem mem_all (token : Token) : token ∈ all := by
  cases token <;> decide

/-- Whether a token is a reserved word. -/
def isKeyword : Token → Bool
  | .kwInstance | .kwFunc | .kwConst | .kwVar | .kwClass | .kwPrototype | .kwVoid | .kwInt
  | .kwFloat | .kwString | .kwIf | .kwElse | .kwReturn | .kwTrue | .kwFalse => true
  | _ => false

/-- Blanks and comments, which the grammar never sees. -/
def isTrivia : Token → Bool
  | .whitespace | .lineComment | .blockComment => true
  | _ => false

/-- Tokens that were already reported when they were read. -/
def isError : Token → Bool
  | .strayAmpersand | .strayPipe | .error => true
  | _ => false

/-- Whether a token names a type that is built in. -/
def isTypeKeyword : Token → Bool
  | .kwVoid | .kwInt | .kwFloat | .kwString => true
  | _ => false

/-- Declaration keywords that cannot appear inside a block. -/
def isTopLevelOnly : Token → Bool
  | .kwInstance | .kwPrototype | .kwFunc | .kwClass => true
  | _ => false

/-- Keywords that open a top-level declaration. -/
def isDeclarationKeyword : Token → Bool
  | .kwConst | .kwVar => true
  | token => token.isTopLevelOnly

/-- Whether a token assigns. -/
def isAssignmentOperator : Token → Bool
  | .assign | .plusAssign | .minusAssign | .starAssign | .slashAssign => true
  | _ => false

/-- The spelling of a token that has a fixed text. -/
def spelling? : Token → Option String
  | .kwInstance => "instance"
  | .kwFunc => "func"
  | .kwConst => "const"
  | .kwVar => "var"
  | .kwClass => "class"
  | .kwPrototype => "prototype"
  | .kwVoid => "void"
  | .kwInt => "int"
  | .kwFloat => "float"
  | .kwString => "string"
  | .kwIf => "if"
  | .kwElse => "else"
  | .kwReturn => "return"
  | .kwTrue => "true"
  | .kwFalse => "false"
  | .lParen => "("
  | .rParen => ")"
  | .lBrace => "\x7b"
  | .rBrace => "\x7d"
  | .lBracket => "["
  | .rBracket => "]"
  | .semicolon => ";"
  | .comma => ","
  | .dot => "."
  | .assign => "="
  | .plusAssign => "+="
  | .minusAssign => "-="
  | .starAssign => "*="
  | .slashAssign => "/="
  | .orOr => "||"
  | .andAnd => "&&"
  | .eqEq => "=="
  | .notEq => "!="
  | .less => "<"
  | .lessEq => "<="
  | .greater => ">"
  | .greaterEq => ">="
  | .plus => "+"
  | .minus => "-"
  | .star => "*"
  | .slash => "/"
  | .percent => "%"
  | .bang => "!"
  | .tilde => "~"
  | .strayAmpersand => "&"
  | .strayPipe => "|"
  | .identifier | .number | .string | .whitespace | .lineComment | .blockComment | .error => none

/-- What a token is called in messages: its spelling in backquotes, or its class. -/
def describe (token : Token) : String :=
  match token.spelling? with
  | some spelling => s!"`{spelling}`"
  | none =>
    match token with
    | .identifier => "identifier"
    | .number => "number"
    | .string => "string literal"
    | .whitespace => "whitespace"
    | .lineComment => "line comment"
    | .blockComment => "block comment"
    | _ => "invalid character"

/-- The name of a token in serialized data. -/
def name : Token → String
  | .kwInstance => "Instance"
  | .kwFunc => "Func"
  | .kwConst => "Const"
  | .kwVar => "Var"
  | .kwClass => "Class"
  | .kwPrototype => "Prototype"
  | .kwVoid => "Void"
  | .kwInt => "Int"
  | .kwFloat => "Float"
  | .kwString => "StringType"
  | .kwIf => "If"
  | .kwElse => "Else"
  | .kwReturn => "Return"
  | .kwTrue => "True"
  | .kwFalse => "False"
  | .identifier => "Identifier"
  | .number => "Number"
  | .string => "String"
  | .lParen => "LParen"
  | .rParen => "RParen"
  | .lBrace => "LBrace"
  | .rBrace => "RBrace"
  | .lBracket => "LBracket"
  | .rBracket => "RBracket"
  | .semicolon => "Semicolon"
  | .comma => "Comma"
  | .dot => "Dot"
  | .assign => "Assign"
  | .plusAssign => "PlusAssign"
  | .minusAssign => "MinusAssign"
  | .starAssign => "StarAssign"
  | .slashAssign => "SlashAssign"
  | .orOr => "OrOr"
  | .andAnd => "AndAnd"
  | .eqEq => "EqEq"
  | .notEq => "NotEq"
  | .less => "Less"
  | .lessEq => "LessEq"
  | .greater => "Greater"
  | .greaterEq => "GreaterEq"
  | .plus => "Plus"
  | .minus => "Minus"
  | .star => "Star"
  | .slash => "Slash"
  | .percent => "Percent"
  | .bang => "Bang"
  | .tilde => "Tilde"
  | .whitespace => "Whitespace"
  | .lineComment => "LineComment"
  | .blockComment => "BlockComment"
  | .strayAmpersand => "StrayAmpersand"
  | .strayPipe => "StrayPipe"
  | .error => "Error"

/-- The token of a name. -/
def ofName? (name : String) : Option Token :=
  all.find? fun token => token.name = name

end Token

end ScriptTree
