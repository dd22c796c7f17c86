import TensorBridge.Number.Shortest

/-!
# Numbers in JSON

A number in a JSON text is an integer if it is written like one and fits 64 bits, signed or not;
every other number is a double.  A double is read approximately: as many leading digits as fit an
unsigned word are one factor, a power of ten is the other, and the product or quotient of the two
is rounded.  It is written with the fewest digits that read back, and of two such texts that
are equally near the one whose last digit is even is taken.
-/

namespace TensorBridge

/-- A number in a JSON text. -/
inductive JsonNumber where
  /-- A whole number of 64 bits. -/
  | integer (n : Int)
  /-- The word of a double. -/
  | double (word : Nat)
deriving DecidableEq, Repr

namespace JsonNumber

/-! ## Reading -/

/-- The largest integer that is kept as an integer. -/
def integerLimit : Nat := Nat.pow 2 64 - 1

/-- The magnitude of the least integer that is kept as an integer. -/
def negativeLimit : Nat := Nat.pow 2 63

/-- The number with one more digit behind it, if it is not too large. -/
def appendDigit? (n : Nat) (digit : Char) : Option Nat :=
  let next := 10 * n + (digit.toNat - '0'.toNat)
  if next ≤ integerLimit then some next else none

/-- Reads the digits before the point.  From the first digit on that does not fit, digits are only
counted. -/
def takeWhole : (significand skipped : Nat) → List Char → Nat × Nat × List Char
  | significand, skipped, [] => (significand, skipped, [])
  | significand, skipped, c :: rest =>
    if !c.isDigit then (significand, skipped, c :: rest)
    else
      match skipped, appendDigit? significand c with
      | 0, some next => takeWhole next 0 rest
      | _, _ => takeWhole significand (skipped + 1) rest

/-- Reads the digits behind the point, each taking one from the exponent.  From the first digit on
that does not fit, digits are passed over. -/
def takeFraction : (significand : Nat) → (exponent : Int) → List Char → Nat × Int × List Char
  | significand, exponent, [] => (significand, exponent, [])
  | significand, exponent, c :: rest =>
    if !c.isDigit then (significand, exponent, c :: rest)
    else
      match appendDigit? significand c with
      | some next => takeFraction next (exponent - 1) rest
      | none => (significand, exponent, rest.dropWhile Char.isDigit)

/-- Reads the digits of an exponent behind its letter, of which there must be one. -/
def takeExponent? (text : List Char) : Option (Int × List Char) :=
  let signed := splitSign text
  let digits := signed.2.takeWhile Char.isDigit
  if digits = [] then none
  else
    some (if signed.1 then -(ofDigits digits : Int) else ofDigits digits,
      signed.2.dropWhile Char.isDigit)

/-- The largest power of ten by which a number is scaled in one step. -/
def largestScale : Nat := 308

theorem toNat_neg_add_lt {exponent : Int} (h : ¬ -(largestScale : Int) ≤ exponent) :
    (-(exponent + largestScale)).toNat < (-exponent).toNat := by
  simp only [largestScale] at *
  omega

/-- The magnitude of a double times a power of ten, rounded at each step; none if it is too
large.  A large negative power takes several steps. -/
def scale? (magnitude : Nat) (exponent : Int) : Option Nat :=
  let power (k : Nat) := BinaryFormat.double.roundRatio (Nat.pow 10 k) 1
  if magnitude = 0 then some 0
  else if (largestScale : Int) < exponent then none
  else if 0 ≤ exponent then
    let scaled := BinaryFormat.double.product magnitude (power exponent.toNat)
    if scaled = BinaryFormat.double.infinityWord then none else some scaled
  else if -(largestScale : Int) ≤ exponent then
    some (BinaryFormat.double.quotient magnitude (power (-exponent).toNat))
  else
    scale? (BinaryFormat.double.quotient magnitude (power largestScale)) (exponent + largestScale)
termination_by (-exponent).toNat
decreasing_by exact toNat_neg_add_lt (by assumption)

/-- The double of `significand * 10 ^ exponent` with a sign. -/
def ofParts? (negative : Bool) (significand : Nat) (exponent : Int) : Option JsonNumber :=
  (scale? (BinaryFormat.double.roundRatio significand 1) exponent).map fun magnitude =>
    double (BinaryFormat.double.withSign negative magnitude)

/-- The number of an integer text: zero with a minus sign is a double, and so is a number below
the signed range. -/
def ofInteger? (negative : Bool) (n : Nat) : Option JsonNumber :=
  if !negative then some (integer n)
  else if 0 < n ∧ n ≤ negativeLimit then some (integer (-n))
  else ofParts? true n 0

/-- Reads a number and returns what stands behind it.  There is no zero in front of another
digit, and a point stands between digits. -/
def read? (text : List Char) : Option (JsonNumber × List Char) :=
  let (negative, text) :=
    match text with
    | '-' :: rest => (true, rest)
    | _ => (false, text)
  match text with
  | [] => none
  | c :: behind =>
    if !c.isDigit || (c = '0' && (behind.head?.map Char.isDigit).getD false) then none
    else
      let (significand, skipped, rest) := takeWhole 0 0 text
      let exponential (significand : Nat) (exponent : Int) (rest : List Char) :=
        match takeExponent? rest with
        | none => none
        | some (e, rest) => (ofParts? negative significand (exponent + e)).map (·, rest)
      match rest with
      | '.' :: d :: rest =>
        if !d.isDigit then none
        else
          let (significand, exponent, rest) := takeFraction significand skipped (d :: rest)
          match rest with
          | 'e' :: rest | 'E' :: rest => exponential significand exponent rest
          | _ => (ofParts? negative significand exponent).map (·, rest)
      | '.' :: [] => none
      | 'e' :: rest | 'E' :: rest => exponential significand skipped rest
      | _ =>
        if skipped = 0 then (ofInteger? negative significand).map (·, rest)
        else (ofParts? negative significand skipped).map (·, rest)

/-! ## Writing -/

/-- The decimal exponents for which a double is written without an exponent. -/
def positionalExponents : Int × Int := (-5, 15)

/-- The text of a double that is not zero: positional notation with at least one digit behind the
point, or one digit before it and an exponent with its sign. -/
def doubleDigits (coefficient : Nat) (exponent : Int) : List Char :=
  let digits := digitsOf coefficient
  let leading := exponent + digits.length - 1
  if positionalExponents.1 ≤ leading ∧ leading ≤ positionalExponents.2 then
    positional coefficient exponent ++ (if 0 ≤ exponent then ['.', '0'] else [])
  else
    digits.take 1 ++ (if digits.length = 1 then [] else '.' :: digits.drop 1) ++ ['e'] ++
      (if leading < 0 then '-' :: digitsOf (-leading).toNat else '+' :: digitsOf leading.toNat)

/-- The text of a number; a double that is not finite has none of its own. -/
def text : JsonNumber → String
  | integer n => toString n
  | double word =>
    match BinaryFormat.double.decode word with
    | .finite negative significand exponent =>
      let digits :=
        if significand = 0 then ['0', '.', '0']
        else
          let found := BinaryFormat.double.shortest .toEven significand exponent
          doubleDigits found.1 found.2
      String.ofList (if negative then '-' :: digits else digits)
    | _ => "null"

end JsonNumber

end TensorBridge
