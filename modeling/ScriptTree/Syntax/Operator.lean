import ScriptTree.Token

/-!
# Operators and qualifiers

Every operator has one token, and the token determines the operator.  Binary
operators are ranked by how tightly they bind, and all of them associate to the
left.
-/

namespace ScriptTree

/-- The operators with two operands, from those that bind least. -/
inductive BinaryOperator where
  | or | and
  | equal | notEqual
  | less | lessEqual | greater | greaterEqual
  | add | subtract
  | multiply | divide | modulo
deriving DecidableEq

namespace BinaryOperator

/-- The token of a binary operator. -/
def token : BinaryOperator → Token
  | .or => .orOr
  | .and => .andAnd
  | .equal => .eqEq
  | .notEqual => .notEq
  | .less => .less
  | .lessEqual => .lessEq
  | .greater => .greater
  | .greaterEqual => .greaterEq
  | .add => .plus
  | .subtract => .minus
  | .multiply => .star
  | .divide => .slash
  | .modulo => .percent

/-- The binary operator that a token is, between two operands. -/
def ofToken? : Token → Option BinaryOperator
  | .orOr => some .or
  | .andAnd => some .and
  | .eqEq => some .equal
  | .notEq => some .notEqual
  | .less => some .less
  | .lessEq => some .lessEqual
  | .greater => some .greater
  | .greaterEq => some .greaterEqual
  | .plus => some .add
  | .minus => some .subtract
  | .star => some .multiply
  | .slash => some .divide
  | .percent => some .modulo
  | _ => none

/-- Two binary operators never share a token. -/
theorem ofToken?_eq_some_iff {token : Token} {operator : BinaryOperator} :
    ofToken? token = some operator ↔ operator.token = token := by
  cases operator <;> cases token <;> decide

/-- How tightly an operator binds; a higher power binds tighter. -/
def power : BinaryOperator → Nat
  | .or => 1
  | .and => 2
  | .equal | .notEqual => 3
  | .less | .lessEqual | .greater | .greaterEqual => 4
  | .add | .subtract => 5
  | .multiply | .divide | .modulo => 6

/-- How an operator is written. -/
def spelling (operator : BinaryOperator) : String :=
  operator.token.spelling?.getD ""

end BinaryOperator

/-- The power that admits every binary operator. -/
def lowestPower : Nat := 1

/-- The operators in front of an operand. -/
inductive UnaryOperator where
  | not | bitNot | plus | negate
deriving DecidableEq

namespace UnaryOperator

/-- The token of a unary operator. -/
def token : UnaryOperator → Token
  | .not => .bang
  | .bitNot => .tilde
  | .plus => .plus
  | .negate => .minus

/-- The unary operator that a token is, in front of an operand. -/
def ofToken? : Token → Option UnaryOperator
  | .bang => some .not
  | .tilde => some .bitNot
  | .plus => some .plus
  | .minus => some .negate
  | _ => none

/-- Two unary operators never share a token. -/
theorem ofToken?_eq_some_iff {token : Token} {operator : UnaryOperator} :
    ofToken? token = some operator ↔ operator.token = token := by
  cases operator <;> cases token <;> decide

/-- How an operator is written. -/
def spelling (operator : UnaryOperator) : String :=
  operator.token.spelling?.getD ""

end UnaryOperator

/-- The operators that assign. -/
inductive AssignmentOperator where
  | assign | addAssign | subtractAssign | multiplyAssign | divideAssign
deriving DecidableEq

namespace AssignmentOperator

/-- The operators that assign, each once. -/
def all : List AssignmentOperator :=
  [.assign, .addAssign, .subtractAssign, .multiplyAssign, .divideAssign]

/-- The token of an assignment. -/
def token : AssignmentOperator → Token
  | .assign => .assign
  | .addAssign => .plusAssign
  | .subtractAssign => .minusAssign
  | .multiplyAssign => .starAssign
  | .divideAssign => .slashAssign

/-- The assignment that a token is. -/
def ofToken? : Token → Option AssignmentOperator
  | .assign => some .assign
  | .plusAssign => some .addAssign
  | .minusAssign => some .subtractAssign
  | .starAssign => some .multiplyAssign
  | .slashAssign => some .divideAssign
  | _ => none

/-- Two assignments never share a token. -/
theorem ofToken?_eq_some_iff {token : Token} {operator : AssignmentOperator} :
    ofToken? token = some operator ↔ operator.token = token := by
  cases operator <;> cases token <;> decide

/-- How an operator is written. -/
def spelling (operator : AssignmentOperator) : String :=
  operator.token.spelling?.getD ""

/-- The assignment of a spelling. -/
def ofSpelling? (spelling : String) : Option AssignmentOperator :=
  all.find? fun operator => operator.spelling = spelling

end AssignmentOperator

/-- The keyword in front of a variable or a parameter. -/
inductive VariableKind where
  | const
  | var
deriving DecidableEq

namespace VariableKind

/-- Both keywords. -/
def all : List VariableKind :=
  [.const, .var]

/-- The token of a keyword that declares variables. -/
def token : VariableKind → Token
  | .const => .kwConst
  | .var => .kwVar

/-- The keyword that a token is, if it declares variables. -/
def ofToken? : Token → Option VariableKind
  | .kwConst => some .const
  | .kwVar => some .var
  | _ => none

/-- Both keywords have tokens of their own. -/
theorem ofToken?_eq_some_iff {token : Token} {kind : VariableKind} :
    ofToken? token = some kind ↔ kind.token = token := by
  cases kind <;> cases token <;> decide

/-- How a keyword is written. -/
def spelling (kind : VariableKind) : String :=
  kind.token.spelling?.getD ""

/-- The keyword of a spelling. -/
def ofSpelling? (spelling : String) : Option VariableKind :=
  all.find? fun kind => kind.spelling = spelling

end VariableKind

end ScriptTree
