/-!
# Binary floating point formats

A binary format is given by the widths of its fraction and exponent fields; its numbers are words,
kept as natural numbers.  `BinaryFormat.decode` reads a word as a significand times a power of two,
`BinaryFormat.roundRatio` goes the other way: it rounds a quotient of natural numbers to the
nearest number of the format, a tie to the even one.  All arithmetic is exact.
-/

namespace TensorBridge

/-- A binary format: a sign bit, an exponent field and a fraction field, from the top down. -/
structure BinaryFormat where
  /-- The width of the fraction field. -/
  fractionBits : Nat
  /-- The width of the exponent field. -/
  exponentBits : Nat
deriving DecidableEq, Repr

/-- What a word of a binary format stands for. -/
inductive FloatValue where
  /-- The number `significand * 2 ^ exponent` with a sign; both zeros are here. -/
  | finite (negative : Bool) (significand : Nat) (exponent : Int)
  /-- An infinity. -/
  | infinite (negative : Bool)
  /-- Not a number; of its word only the sign is kept. -/
  | nan (negative : Bool)
deriving DecidableEq, Repr

/-- The natural number nearest to `num / den`, the even one of two equally near. -/
def roundDiv (num den : Nat) : Nat :=
  let quotient := num / den
  let remainder := num % den
  if 2 * remainder < den then quotient
  else if den < 2 * remainder then quotient + 1
  else quotient + quotient % 2

namespace BinaryFormat

/-- Half precision. -/
def half : BinaryFormat := ⟨10, 5⟩

/-- The short format with the exponent range of single precision. -/
def brain : BinaryFormat := ⟨7, 8⟩

/-- Single precision. -/
def single : BinaryFormat := ⟨23, 8⟩

/-- Double precision. -/
def double : BinaryFormat := ⟨52, 11⟩

variable (f : BinaryFormat)

/-- The least significand of a normal number. -/
def hiddenBit : Nat := Nat.pow 2 f.fractionBits

/-- The exponent of the subnormal numbers: the least there is. -/
def minExponent : Int := 2 - (Nat.pow 2 (f.exponentBits - 1) : Int) - f.fractionBits

/-- The word of positive infinity. -/
def infinityWord : Nat := (Nat.pow 2 f.exponentBits - 1) * f.hiddenBit

/-- The weight of the sign bit. -/
def signWeight : Nat := Nat.pow 2 (f.exponentBits + f.fractionBits)

/-- The word with the given sign and magnitude. -/
def withSign (negative : Bool) (magnitude : Nat) : Nat :=
  if negative then f.signWeight + magnitude else magnitude

/-- The word of the quiet number that is none, with a sign. -/
def quietNaN (negative : Bool) : Nat :=
  f.withSign negative (f.infinityWord + f.hiddenBit / 2)

/-! ## From words to values -/

/-- Whether the sign bit of a word is set. -/
def isNegative (word : Nat) : Bool := word / f.signWeight % 2 == 1

/-- The exponent field of a word. -/
def exponentField (word : Nat) : Nat := word / f.hiddenBit % Nat.pow 2 f.exponentBits

/-- The fraction field of a word. -/
def fractionField (word : Nat) : Nat := word % f.hiddenBit

/-- What a word stands for. -/
def decode (word : Nat) : FloatValue :=
  let negative := f.isNegative word
  let field := f.exponentField word
  let fraction := f.fractionField word
  if field = Nat.pow 2 f.exponentBits - 1 then
    if fraction = 0 then .infinite negative else .nan negative
  else if field = 0 then
    .finite negative fraction f.minExponent
  else
    .finite negative (f.hiddenBit + fraction) (f.minExponent + (field - 1 : Nat))

/-! ## From values to words -/

/-- The quotient of `num` by `den * 2 ^ e`, rounded to a natural number. -/
def roundScaled (num den : Nat) (e : Int) : Nat :=
  if 0 ≤ e then roundDiv num (den * Nat.pow 2 e.toNat)
  else roundDiv (num * Nat.pow 2 (-e).toNat) den

/-- Whether `2 ^ e ≤ num / den`. -/
def powerLe (e : Int) (num den : Nat) : Bool :=
  if 0 ≤ e then den * Nat.pow 2 e.toNat ≤ num else den ≤ num * Nat.pow 2 (-e).toNat

/-- The exponent of the largest power of two that is at most `num / den`. -/
def logRatio (num den : Nat) : Int :=
  let guess : Int := num.log2 - den.log2
  if powerLe guess num den then guess else guess - 1

/-- The magnitude nearest to `num / den`, the one with the even word of two equally near, and
infinity from half a unit above the largest finite number on.

Written as a number, the word of a magnitude is its significand plus one hidden bit for every step
of the exponent above the least, so a carry out of the significand needs no special treatment. -/
def roundRatio (num den : Nat) : Nat :=
  if num = 0 then 0
  else
    let e := max (logRatio num den - f.fractionBits) f.minExponent
    min (roundScaled num den e + (e - f.minExponent).toNat * f.hiddenBit) f.infinityWord

/-- The magnitude nearest to `significand * 2 ^ exponent`. -/
def roundScaledInteger (significand : Nat) (exponent : Int) : Nat :=
  if 0 ≤ exponent then f.roundRatio (significand * Nat.pow 2 exponent.toNat) 1
  else f.roundRatio significand (Nat.pow 2 (-exponent).toNat)

/-- The word of the number of the format that is nearest to a value. -/
def encode : FloatValue → Nat
  | .finite negative significand exponent =>
    f.withSign negative (f.roundScaledInteger significand exponent)
  | .infinite negative => f.withSign negative f.infinityWord
  | .nan negative => f.quietNaN negative

/-- The magnitude nearest to the product of two finite magnitudes. -/
def product (a b : Nat) : Nat :=
  match f.decode a, f.decode b with
  | .finite _ m d, .finite _ n e => f.roundScaledInteger (m * n) (d + e)
  | _, _ => f.infinityWord

/-- The magnitude nearest to the quotient of two finite magnitudes, of which the second is not
zero. -/
def quotient (a b : Nat) : Nat :=
  match f.decode a, f.decode b with
  | .finite _ m d, .finite _ n e =>
    if 0 ≤ d - e then f.roundRatio (m * Nat.pow 2 (d - e).toNat) n
    else f.roundRatio m (n * Nat.pow 2 (e - d).toNat)
  | _, _ => f.infinityWord

/-- Takes a word of the format to the nearest word of another one. -/
def convert (target : BinaryFormat) (word : Nat) : Nat :=
  target.encode (f.decode word)

end BinaryFormat

end TensorBridge
