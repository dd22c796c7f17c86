import TensorBridge.Scalar
import TensorBridge.Text.Blank

/-!
# Tensor literals

A literal is written `<dim>x<dim>x...x<type>=<values>`, for example `2x3xf32=1 2 3 4 5 6`; a
scalar has no dimensions.  Values stand between runs of white space and commas.
`Tensor.literal` writes a tensor as a literal, `Tensor.parse` reads one.

Reading goes in two stages.  `Literal.scan` splits the text into dimensions, type and the texts
of the values, or tells what was expected and where; then the values are counted against the
shape and read one after the other.
-/

namespace TensorBridge

namespace Literal

/-- What is missing where a text stops being a literal. -/
inductive Expectation where
  /-- A letter or digit of the type's token. -/
  | token
  /-- One of the six tokens. -/
  | knownToken
  /-- The sign between type and values. -/
  | equals
  /-- The end of the text. -/
  | ending
deriving DecidableEq, Repr

/-- The name under which the expectation is reported. -/
def Expectation.label : Expectation → String
  | token => "AlphaNumeric"
  | knownToken => "MapRes"
  | equals => "Char"
  | ending => "Eof"

/-- What keeps a text from being a literal, once its shape is known to have a size. -/
inductive Fault where
  /-- The text does not have the form of a literal; the rest is what stands where something else
  was expected. -/
  | malformed (expected : Expectation) (rest : List Char)
  /-- There are more or fewer values than the shape has elements. -/
  | count (shape : Shape) (elements values : Nat)
  /-- A value that is no scalar of the type. -/
  | value (text : List Char) (fault : ScalarFault)
deriving DecidableEq, Repr

/-- The text of the fault; of the rest no more than twenty characters are shown. -/
def Fault.message : Fault → String
  | malformed expected rest => s!"{expected.label} at '{String.ofList (rest.take 20)}'"
  | count shape elements values =>
    s!"shape {shape.text} holds {elements} elements, found {values} values"
  | value text fault => s!"bad value '{String.ofList text}': {fault.message}"

/-! ## Form -/

/-- Whether a character separates values. -/
def isSeparator (c : Char) : Bool := isBlank c || c == ','

/-- Takes one dimension off the front: digits that fit a dimension, and the letter `x`. -/
def takeDimension? (text : List Char) : Option (Int64 × List Char) :=
  let digits := text.takeWhile Char.isDigit
  match text.dropWhile Char.isDigit with
  | 'x' :: rest =>
    if digits ≠ [] ∧ ofDigits digits ≤ dimensionLimit then
      some (Int64.ofNat (ofDigits digits), rest)
    else
      none
  | _ => none

theorem length_lt_of_takeDimension? {text rest : List Char} {d : Int64}
    (h : takeDimension? text = some (d, rest)) : rest.length < text.length := by
  unfold takeDimension? at h
  dsimp only at h
  split at h
  · rename_i tail heq
    split at h
    · have hle := (List.dropWhile_suffix Char.isDigit (l := text)).length_le
      simp only [Option.some.injEq, Prod.mk.injEq] at h
      rw [heq] at hle
      rw [← h.2]
      simp only [List.length_cons] at hle
      omega
    · simp at h
  · simp at h

/-- Takes dimensions off the front as long as there are any. -/
def takeDimensions (text : List Char) : Shape × List Char :=
  match h : takeDimension? text with
  | some (d, rest) =>
    have := length_lt_of_takeDimension? h
    let (shape, rest) := takeDimensions rest
    (d :: shape, rest)
  | none => ([], text)
termination_by text.length

/-- Takes values off the front.  The separators behind the last value stay. -/
def takeValues (text : List Char) : List (List Char) × List Char :=
  let value := text.takeWhile (!isSeparator ·)
  if h : value = [] then
    ([], text)
  else
    let behind := text.dropWhile (!isSeparator ·)
    let next := behind.dropWhile isSeparator
    have : next.length < text.length := by
      have h₁ := (List.dropWhile_suffix isSeparator (l := behind)).length_le
      have h₂ : value.length + behind.length = text.length := by
        rw [← List.length_append, List.takeWhile_append_dropWhile]
      have h₃ := List.length_pos_iff.2 h
      have h₄ : next.length ≤ behind.length := h₁
      omega
    if next = [] then
      ([value], behind)
    else
      let (values, rest) := takeValues next
      (value :: values, rest)
termination_by text.length

/-- A text with the form of a literal. -/
structure Parts where
  /-- The dimensions. -/
  shape : Shape
  /-- The type that the token names. -/
  elementType : ElementType
  /-- The texts of the values. -/
  values : List (List Char)
deriving DecidableEq, Repr

/-- Splits a text into the parts of a literal. -/
def scan (text : List Char) : Except Fault Parts :=
  let (shape, rest) := takeDimensions (text.dropWhile isPlainBlank)
  let token := rest.takeWhile Char.isAlphanum
  if token = [] then
    .error (.malformed .token rest)
  else
    match ElementType.ofToken? (String.ofList token) with
    | none => .error (.malformed .knownToken rest)
    | some t =>
      match rest.dropWhile Char.isAlphanum with
      | '=' :: rest =>
        let (values, rest) := takeValues (rest.dropWhile isPlainBlank)
        match rest.dropWhile isPlainBlank with
        | [] => .ok ⟨shape, t, values⟩
        | rest => .error (.malformed .ending rest)
      | rest => .error (.malformed .equals rest)

/-! ## Values -/

/-- Reads values one after the other and stores their bytes. -/
def readValues (t : ElementType) : List (List Char) → Except Fault (List UInt8)
  | [] => .ok []
  | text :: rest =>
    match Scalar.read t text with
    | .error fault => .error (.value text fault)
    | .ok s => (readValues t rest).map (Scalar.toBytes t s ++ ·)

end Literal

namespace Tensor

/-- Reads a tensor literal. -/
def parse (input : String) : Except TensorError Tensor :=
  let fault (e : Literal.Fault) : TensorError := .literal input e.message
  match Literal.scan input.toList with
  | .error e => .error (fault e)
  | .ok parts => do
    let count ← parts.shape.elementCount
    if parts.values.length ≠ count then
      .error (fault (.count parts.shape count parts.values.length))
    else
      match Literal.readValues parts.elementType parts.values with
      | .error e => .error (fault e)
      | .ok data => .ok ⟨parts.elementType, parts.shape, data⟩

/-- Writes a tensor as a literal, with one space between values. -/
def literal (tensor : Tensor) : String :=
  String.join (tensor.shape.map fun d => toString d.toInt ++ "x") ++ tensor.elementType.token ++ "="
    ++ " ".intercalate tensor.valueTexts

end Tensor

end TensorBridge
