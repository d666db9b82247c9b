import ScriptTree.Number.Binary64

/-!
# What a plain scalar stands for

A plain scalar stands for null, a truth value, an integer or a number if it is
written as one, and for a text otherwise.  A text that would be taken for one of
the others is `ambiguous` and has to be quoted.
-/

namespace ScriptTree.Yaml

/-- Whether a scalar without quotes stands for nothing. -/
def isNull (text : List Char) : Bool :=
  ["~".toList, "null".toList, "Null".toList, "NULL".toList].contains text

/-- The truth value that a scalar without quotes stands for. -/
def bool? (text : List Char) : Option Bool :=
  if ["true".toList, "True".toList, "TRUE".toList].contains text then some true
  else if ["false".toList, "False".toList, "FALSE".toList].contains text then some false
  else none

/-- The text after a sign at the front, or all of it. -/
def dropSign : List Char → List Char
  | '+' :: rest => rest
  | '-' :: rest => rest
  | text => text

/-- Two digits or more of which the first is a zero; these are no number. -/
def isPaddedDigits (text : List Char) : Bool :=
  match dropSign text with
  | '0' :: digit :: rest => (digit :: rest).all Char.isDigit
  | _ => false

/-- The value of a digit in any base up to sixteen. -/
def digitValue? (digit : Char) : Option Nat :=
  if digit.isDigit then some (digit.toNat - '0'.toNat)
  else if 'a' ≤ digit ∧ digit ≤ 'f' then some (digit.toNat - 'a'.toNat + 10)
  else if 'A' ≤ digit ∧ digit ≤ 'F' then some (digit.toNat - 'A'.toNat + 10)
  else none

/-- One digit or more in a base. -/
def digits? (base : Nat) (text : List Char) : Option Nat :=
  if text.isEmpty then
    none
  else
    text.foldlM (fun value digit => do
      let next ← digitValue? digit
      if next < base then some (value * base + next) else none) 0

/-- The digits after a mark of their base: `0x`, `0o` or `0b`. -/
def based? : List Char → Option Nat
  | '0' :: 'x' :: digits => digits? 16 digits
  | '0' :: 'o' :: digits => digits? 8 digits
  | '0' :: 'b' :: digits => digits? 2 digits
  | _ => none

/-- A magnitude: digits of a marked base, or decimal digits without a zero in front. -/
def magnitude? (text : List Char) : Option Nat :=
  (based? text).or (if isPaddedDigits text then none else digits? 10 text)

/-- A number below `limit`, with an optional plus sign. -/
def unsigned? (limit : Nat) : List Char → Option Nat
  | '+' :: rest => (magnitude? rest).filter (· < limit)
  | text => (magnitude? text).filter (· < limit)

/-- Whether a text is an integer of at most 128 bits. -/
def isInteger : List Char → Bool
  | '-' :: rest => (magnitude? rest).any (· ≤ Nat.pow 2 127)
  | text => (unsigned? (Nat.pow 2 128) text).isSome

/-- Whether a scalar is one of the names for infinity, or for what is not a number. -/
def isSpecialNumber (text : List Char) : Bool :=
  [".inf".toList, ".Inf".toList, ".INF".toList, "+.inf".toList, "+.Inf".toList, "+.INF".toList,
    "-.inf".toList, "-.Inf".toList, "-.INF".toList, ".nan".toList, ".NaN".toList,
    ".NAN".toList].contains text

/-- Whether a text is a number with a point or an exponent that is not too large. -/
def isFloat (text : List Char) : Bool :=
  isSpecialNumber text || (Binary64.read? text).any Binary64.isFinite

/-- Whether a text is taken for something else where it is written without quotes. -/
def isAmbiguous (text : List Char) : Bool :=
  text.isEmpty || isNull text || (bool? text).isSome || isInteger text || isPaddedDigits text ||
    isFloat text

end ScriptTree.Yaml
