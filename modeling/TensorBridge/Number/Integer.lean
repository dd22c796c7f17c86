import TensorBridge.Number.Decimal

/-!
# Signed integers as text

An integer in a range is an optional sign and at least one decimal digit.  The text is read from
left to right and the first fault is reported: at each character a character that is no digit
counts before a number that has become too large.
-/

namespace TensorBridge

/-- Why a text is no integer of a range. -/
inductive IntegerFault where
  /-- There is no character at all. -/
  | empty
  /-- A character is no decimal digit, or there is none behind the sign. -/
  | invalidDigit
  /-- The number lies above the range. -/
  | tooLarge
  /-- The number lies below the range. -/
  | tooSmall
deriving DecidableEq, Repr

/-- The text of the fault. -/
def IntegerFault.message : IntegerFault → String
  | empty => "cannot parse integer from empty string"
  | invalidDigit => "invalid digit found in string"
  | tooLarge => "number too large to fit in target type"
  | tooSmall => "number too small to fit in target type"

/-- Reads digits behind the number `magnitude`, which must stay at most `limit`. -/
def readMagnitude (limit : Nat) (overflow : IntegerFault) :
    (magnitude : Nat) → List Char → Except IntegerFault Nat
  | magnitude, [] => .ok magnitude
  | magnitude, c :: rest =>
    if !c.isDigit then .error .invalidDigit
    else
      let next := 10 * magnitude + (c.toNat - '0'.toNat)
      if limit < next then .error overflow else readMagnitude limit overflow next rest

/-- Reads an integer from `-(limit + 1)` to `limit`. -/
def readInteger (limit : Nat) (text : List Char) : Except IntegerFault Int :=
  if text = [] then .error .empty
  else
    let signed := splitSign text
    if signed.2 = [] then .error .invalidDigit
    else if signed.1 then
      (readMagnitude (limit + 1) .tooSmall 0 signed.2).map fun n => -(n : Int)
    else
      (readMagnitude limit .tooLarge 0 signed.2).map fun n => (n : Int)

end TensorBridge
