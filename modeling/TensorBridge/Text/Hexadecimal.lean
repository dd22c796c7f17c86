/-!
# Hexadecimal digits

Digits in either case, and numbers that are written with a fixed number of them.
-/

namespace TensorBridge

/-- The value of a hexadecimal digit in either case. -/
def hexValue? (c : Char) : Option Nat :=
  if c.isDigit then some (c.toNat - '0'.toNat)
  else if 'a' ≤ c ∧ c ≤ 'f' then some (c.toNat - 'a'.toNat + 10)
  else if 'A' ≤ c ∧ c ≤ 'F' then some (c.toNat - 'A'.toNat + 10)
  else none

/-- Reads a number that is written with `count` digits. -/
def takeHex? (count : Nat) (text : List Char) : Option (Nat × List Char) := do
  let digits ← (text.take count).mapM hexValue?
  if digits.length = count then
    return (digits.foldl (fun n d => 16 * n + d) 0, text.drop count)
  else
    none

end TensorBridge
