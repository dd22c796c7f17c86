import TensorBridge.Number.Decimal

/-!
# The fewest digits that read back

The reals that round to a given number of a binary format are an interval around it.
`BinaryFormat.shortest` finds a decimal number in that interval with as few digits as possible,
the one nearest to the given number among those; of two that are equally near a tie rule takes one.
It walks down the decimal grids: on each it looks at the two grid points next to the number, and the
first grid with a point in the interval settles the count of digits.
-/

namespace TensorBridge

/-- The reals that round to one number, with the number itself; numerators over one common
denominator. -/
structure RoundingInterval where
  /-- The lower end. -/
  low : Nat
  /-- The number. -/
  value : Nat
  /-- The upper end. -/
  high : Nat
  /-- The common denominator. -/
  denominator : Nat
  /-- Whether the ends round to the number as well. -/
  closed : Bool
deriving DecidableEq, Repr

/-- Which of two neighbours on a grid is taken if a number lies halfway between them. -/
inductive TieRule where
  /-- The upper one. -/
  | toUpper
  /-- The one that is an even number of units. -/
  | toEven
deriving DecidableEq, Repr

/-- Whether a tie between a number and its successor goes to the number itself. -/
def TieRule.keeps : TieRule → (below : Nat) → Bool
  | toUpper, _ => false
  | toEven, below => below % 2 == 0

namespace RoundingInterval

/-- Multiplies the numerators or the denominator so that a grid of decimal numbers has a whole
unit: the grid point `c * 10 ^ place` is `c * unit` over the same denominator. -/
def onGrid (i : RoundingInterval) (place : Int) : RoundingInterval × Nat :=
  if 0 ≤ place then
    (i, i.denominator * Nat.pow 10 place.toNat)
  else
    let scale := Nat.pow 10 (-place).toNat
    ({ i with low := i.low * scale, value := i.value * scale, high := i.high * scale },
      i.denominator)

/-- Whether a numerator lies in the interval. -/
def contains (i : RoundingInterval) (numerator : Nat) : Bool :=
  if i.closed then i.low ≤ numerator && numerator ≤ i.high
  else i.low < numerator && numerator < i.high

/-- The point of the grid of a decimal place that lies in the interval and next to the number: of
two the nearer, and if both are equally near the one that the tie rule takes. -/
def pointAt? (i : RoundingInterval) (tie : TieRule) (place : Int) : Option Nat :=
  let (j, unit) := i.onGrid place
  let below := j.value / unit
  let above := below + 1
  let midpoint := (below + above) * unit
  match j.contains (below * unit), j.contains (above * unit) with
  | true, true =>
    if 2 * j.value < midpoint ∨ (2 * j.value = midpoint ∧ tie.keeps below = true) then some below
    else some above
  | true, false => some below
  | false, true => some above
  | false, false => none

/-- The first decimal place, from `place` down, whose grid has a point in the interval, with that
point; after `fuel` places the digits so far are given. -/
def search (i : RoundingInterval) (tie : TieRule) : (fuel : Nat) → (place : Int) → Nat × Int
  | 0, place => ((i.onGrid place).1.value / (i.onGrid place).2, place)
  | fuel + 1, place =>
    match i.pointAt? tie place with
    | some point => (point, place)
    | none => i.search tie fuel (place - 1)

end RoundingInterval

/-- The decimal place of the leading digit of `num / den`. -/
def leadingPlace (num den : Nat) : Int :=
  if den ≤ num then
    (digitsOf (num / den)).length - 1
  else
    -((digitsOf ((den - 1) / num)).length : Int)

/-- Moves the zeros at the end of a coefficient into the exponent. -/
def trimZeros (coefficient : Nat) (exponent : Int) : Nat × Int :=
  if h : 0 < coefficient ∧ coefficient % 10 = 0 then
    trimZeros (coefficient / 10) (exponent + 1)
  else
    (coefficient, exponent)
termination_by coefficient
decreasing_by omega

namespace BinaryFormat

/-- The reals that round to `significand * 2 ^ exponent`.  The gap below the least significand of
an exponent is half of the one above it, except for the least exponent. -/
def roundingInterval (f : BinaryFormat) (significand : Nat) (exponent : Int) :
    RoundingInterval :=
  let narrow := significand = f.hiddenBit ∧ f.minExponent < exponent
  let low := 4 * significand - (if narrow then 1 else 2)
  let value := 4 * significand
  let high := 4 * significand + 2
  let closed := significand % 2 == 0
  let quarter := exponent - 2
  if 0 ≤ quarter then
    let scale := Nat.pow 2 quarter.toNat
    ⟨low * scale, value * scale, high * scale, 1, closed⟩
  else
    ⟨low, value, high, Nat.pow 2 (-quarter).toNat, closed⟩

/-- The shortest decimal number that rounds to `significand * 2 ^ exponent`, as a coefficient
that does not end in zero and a power of ten.  One digit more than the significand has bits is
always enough. -/
def shortest (f : BinaryFormat) (tie : TieRule) (significand : Nat) (exponent : Int) : Nat × Int :=
  let i := f.roundingInterval significand exponent
  let found := i.search tie (f.fractionBits + 2) (leadingPlace i.value i.denominator)
  trimZeros found.1 found.2

end BinaryFormat

/-! ## Positional notation -/

/-- The digits of `coefficient * 10 ^ exponent` without an exponent: zeros are put behind the
coefficient, or a point inside or before it. -/
def positional (coefficient : Nat) (exponent : Int) : List Char :=
  let digits := digitsOf coefficient
  if 0 ≤ exponent then
    digits ++ List.replicate exponent.toNat '0'
  else
    let places := (-exponent).toNat
    if places < digits.length then
      digits.take (digits.length - places) ++ '.' :: digits.drop (digits.length - places)
    else
      '0' :: '.' :: List.replicate (places - digits.length) '0' ++ digits

/-- The text of a value: the shortest digits in positional notation, a tie going to the upper
neighbour, with no point behind a whole number, and words for what is not finite. -/
def BinaryFormat.display (f : BinaryFormat) : FloatValue → String
  | .nan _ => "NaN"
  | .infinite negative => if negative then "-inf" else "inf"
  | .finite negative significand exponent =>
    let digits :=
      if significand = 0 then ['0']
      else
        let found := f.shortest .toUpper significand exponent
        positional found.1 found.2
    String.ofList (if negative then '-' :: digits else digits)

end TensorBridge
