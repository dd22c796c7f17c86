import TensorBridge.Number.BinaryFormat

/-!
# Decimal numbers as text

A decimal number is a coefficient times a power of ten.  `FloatText.read?` reads what is accepted
as a floating point number: a decimal with at least one digit, a point and an exponent being
optional, or one of the words for the infinities and for what is no number, in any case.
`BinaryFormat.ofDecimal` rounds a decimal number once, to the nearest number of a format.
-/

namespace TensorBridge

/-- The number `coefficient * 10 ^ exponent` with a sign. -/
structure Decimal where
  /-- Whether a minus sign stands in front. -/
  negative : Bool
  /-- All digits, those behind the point included. -/
  coefficient : Nat
  /-- The power of ten. -/
  exponent : Int
deriving DecidableEq, Repr

/-- The number that a run of decimal digits stands for. -/
def ofDigits (digits : List Char) : Nat := Nat.ofDigitChars 10 digits 0

/-- The decimal digits of a number. -/
def digitsOf (n : Nat) : List Char := Nat.toDigits 10 n

/-- Splits an optional sign off; the flag says that it is a minus. -/
def splitSign : List Char → Bool × List Char
  | '-' :: rest => (true, rest)
  | '+' :: rest => (false, rest)
  | text => (false, text)

namespace Decimal

/-- Reads an exponent: a letter, an optional sign and at least one digit, or nothing. -/
def readExponent? : List Char → Option Int
  | [] => some 0
  | c :: rest =>
    let signed := splitSign rest
    if (c = 'e' ∨ c = 'E') ∧ signed.2 ≠ [] ∧ signed.2.all Char.isDigit then
      some (if signed.1 then -(ofDigits signed.2 : Int) else ofDigits signed.2)
    else
      none

/-- Splits a point and the digits behind it off. -/
def splitFraction : List Char → List Char × List Char
  | '.' :: rest => (rest.takeWhile Char.isDigit, rest.dropWhile Char.isDigit)
  | text => ([], text)

/-- Reads a decimal number without its sign. -/
def read? (negative : Bool) (text : List Char) : Option Decimal :=
  let whole := text.takeWhile Char.isDigit
  let behind := splitFraction (text.dropWhile Char.isDigit)
  if whole = [] ∧ behind.1 = [] then
    none
  else
    (readExponent? behind.2).map fun e =>
      ⟨negative, ofDigits (whole ++ behind.1), e - behind.1.length⟩

end Decimal

/-- What is accepted as the text of a floating point number. -/
inductive FloatText where
  /-- A decimal number. -/
  | decimal (number : Decimal)
  /-- A word for an infinity. -/
  | infinity (negative : Bool)
  /-- The word for what is no number. -/
  | nan (negative : Bool)
deriving DecidableEq, Repr

namespace FloatText

/-- Reads one of the words `inf`, `infinity` and `nan`, in any case. -/
def readWord? (negative : Bool) (text : List Char) : Option FloatText :=
  let word := text.map Char.toLower
  if word = "inf".toList ∨ word = "infinity".toList then some (.infinity negative)
  else if word = "nan".toList then some (.nan negative)
  else none

/-- Reads the text of a floating point number. -/
def read? (text : List Char) : Option FloatText :=
  let signed := splitSign text
  match Decimal.read? signed.1 signed.2 with
  | some number => some (.decimal number)
  | none => readWord? signed.1 signed.2

end FloatText

namespace BinaryFormat

/-- The magnitude nearest to `coefficient * 10 ^ exponent`.

A number of `k` digits lies between two neighbouring powers of ten, which tells the sizes that
leave the format in either direction without forming a large power. -/
def roundDecimal (f : BinaryFormat) (coefficient : Nat) (exponent : Int) : Nat :=
  let top := exponent + (digitsOf coefficient).length
  if coefficient = 0 then 0
  else if (Nat.pow 2 (f.exponentBits - 1) : Int) < top then f.infinityWord
  else if top < f.minExponent then 0
  else if 0 ≤ exponent then f.roundRatio (coefficient * Nat.pow 10 exponent.toNat) 1
  else f.roundRatio coefficient (Nat.pow 10 (-exponent).toNat)

/-- The word of the number of the format that is nearest to a decimal number. -/
def ofDecimal (f : BinaryFormat) (d : Decimal) : Nat :=
  f.withSign d.negative (f.roundDecimal d.coefficient d.exponent)

/-- The word that a text stands for. -/
def ofText (f : BinaryFormat) : FloatText → Nat
  | .decimal number => f.ofDecimal number
  | .infinity negative => f.withSign negative f.infinityWord
  | .nan negative => f.quietNaN negative

end BinaryFormat

end TensorBridge
