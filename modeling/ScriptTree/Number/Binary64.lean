import ScriptTree.Number.Integer

/-!
# Numbers in 64-bit binary floating point

A number is its sign and the 63 bits below it, so that larger bits stand for
larger magnitudes.  Every operation works out its exact result as a quotient of
natural numbers and rounds once, to the nearest number and to the even one of
two that are equally near.  What is too large becomes infinite.
-/

namespace ScriptTree

/-- A number in the binary format of 64 bits.  Its sign is kept apart from the other bits. -/
structure Binary64 where
  negative : Bool
  /-- Eleven bits of exponent, then fifty-two bits of fraction. -/
  magnitude : Nat
deriving DecidableEq

namespace Binary64

/-- The magnitude of infinity.  What is greater is not a number. -/
def infinityBits : Nat := 0x7ff * Nat.pow 2 52

/-- Infinity, of either sign. -/
def infinity (negative : Bool) : Binary64 :=
  ⟨negative, infinityBits⟩

/-- Whether a value is a number, and not infinite. -/
def isFinite (value : Binary64) : Bool :=
  value.magnitude < infinityBits

/-- A quotient rounded to the nearest integer, and to the even one of two. -/
def roundQuotient (numerator denominator : Nat) : Nat :=
  let quotient := numerator / denominator
  let twice := 2 * (numerator % denominator)
  if twice < denominator then quotient
  else if denominator < twice then quotient + 1
  else quotient + quotient % 2

/-- The quotient of two numbers after division by `2 ^ exponent`, as a quotient. -/
def scale (numerator denominator : Nat) : Int → Nat × Nat
  | .ofNat exponent => (numerator, denominator * Nat.pow 2 exponent)
  | .negSucc exponent => (numerator * Nat.pow 2 (exponent + 1), denominator)

/-- The bits of the number nearest to a quotient.  The significand has fifty-three bits, or fewer
at the smallest exponent; where rounding makes it one bit longer, the carry goes into the
exponent. -/
def magnitudeOfQuotient (numerator denominator : Nat) : Nat :=
  if numerator = 0 then
    0
  else
    let estimate : Int := numerator.log2 - denominator.log2 - 52
    let scaled := scale numerator denominator estimate
    let normal := if scaled.1 < Nat.pow 2 52 * scaled.2 then estimate - 1 else estimate
    let exponent := max normal (-1074)
    let scaled := scale numerator denominator exponent
    min infinityBits ((exponent + 1074).toNat * Nat.pow 2 52 + roundQuotient scaled.1 scaled.2)

/-- The number nearest to a quotient. -/
def ofQuotient (numerator denominator : Nat) : Binary64 :=
  ⟨false, magnitudeOfQuotient numerator denominator⟩

/-- The magnitude of a finite number as a quotient. -/
def toQuotient (value : Binary64) : Nat × Nat :=
  let exponent := value.magnitude / Nat.pow 2 52
  let fraction := value.magnitude % Nat.pow 2 52
  if exponent = 0 then (fraction, Nat.pow 2 1074)
  else if exponent < 1075 then (Nat.pow 2 52 + fraction, Nat.pow 2 (1075 - exponent))
  else ((Nat.pow 2 52 + fraction) * Nat.pow 2 (exponent - 1075), 1)

/-- The sum of two finite numbers that are not negative. -/
def add (first second : Binary64) : Binary64 :=
  let (a, b) := first.toQuotient
  let (c, d) := second.toQuotient
  ofQuotient (a * d + c * b) (b * d)

/-- The quotient of two finite numbers that are not negative, the second one not zero. -/
def divide (first second : Binary64) : Binary64 :=
  let (a, b) := first.toQuotient
  let (c, d) := second.toQuotient
  ofQuotient (a * d) (b * c)

/-- The bits of `digits * 10 ^ exponent`.  Far beyond the range of finite numbers the exact power
is not needed. -/
def magnitudeOfDecimal (digits : Nat) (exponent : Int) : Nat :=
  if digits = 0 then
    0
  else
    let leading : Int := (Nat.toDigits 10 digits).length + exponent
    if 400 < leading then infinityBits
    else if leading < -400 then 0
    else
      match exponent with
      | .ofNat power => magnitudeOfQuotient (digits * Nat.pow 10 power) 1
      | .negSucc power => magnitudeOfQuotient digits (Nat.pow 10 (power + 1))

/-- The exponent at the end of a decimal, zero where there is none. -/
def exponent? : List Char → Option Int
  | [] => some 0
  | mark :: rest =>
    if mark = 'e' ∨ mark = 'E' then
      match rest with
      | '-' :: digits => (Number.natural? digits).map fun value => -(value : Int)
      | text => (Number.natural? (Number.dropPlus text)).map fun value => (value : Int)
    else
      none

/-- The digits after a decimal point at the front, and the text after them. -/
def fraction : List Char → List Char × List Char
  | '.' :: rest => (rest.takeWhile Char.isDigit, rest.dropWhile Char.isDigit)
  | text => ([], text)

/-- A decimal without a sign: digits with an optional point, at least one digit, and an optional
exponent. -/
def decimal? (text : List Char) : Option Nat :=
  let whole := text.takeWhile Char.isDigit
  let (places, rest) := fraction (text.dropWhile Char.isDigit)
  if (whole ++ places).isEmpty then
    none
  else
    (exponent? rest).map fun exponent =>
      magnitudeOfDecimal (Nat.ofDigitChars 10 (whole ++ places) 0) (exponent - places.length)

/-- The names of the values that no decimal writes, in any casing. -/
def special? (text : List Char) : Option Nat :=
  let word := String.ofList (text.map Char.toLower)
  if word = "inf" ∨ word = "infinity" then some infinityBits
  else if word = "nan" then some (infinityBits + Nat.pow 2 51)
  else none

/-- Read a number with an optional sign. -/
def read? : List Char → Option Binary64
  | '-' :: rest => ((decimal? rest).or (special? rest)).map (⟨true, ·⟩)
  | '+' :: rest => ((decimal? rest).or (special? rest)).map (⟨false, ·⟩)
  | text => ((decimal? text).or (special? text)).map (⟨false, ·⟩)

/-- All 64 bits, the sign first. -/
def bits (value : Binary64) : Nat :=
  (if value.negative then Nat.pow 2 63 else 0) + value.magnitude

/-- The bits in sixteen hexadecimal digits. -/
def hex (value : Binary64) : String :=
  let digits := Nat.toDigits 16 value.bits
  String.ofList (List.replicate (16 - digits.length) '0' ++ digits)

end Binary64

/-- The bytes handled per second, zero where no time passed. -/
def throughput (seconds nanoseconds bytes : Nat) : Binary64 :=
  let whole := Binary64.ofQuotient (seconds + nanoseconds / Nat.pow 10 9) 1
  let part := Binary64.ofQuotient (nanoseconds % Nat.pow 10 9) (Nat.pow 10 9)
  let elapsed := whole.add part
  if elapsed.magnitude = 0 then elapsed
  else (Binary64.ofQuotient bytes 1).divide elapsed

end ScriptTree
