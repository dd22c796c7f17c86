import TensorBridge.Element

/-!
# Tensors on the host

A tensor is an element type, a shape and dense row-major bytes.  Nothing forces the three to fit
together: a tensor is built first and checked by `Tensor.validate`, which compares the number of
bytes with the size of the shape.  Sizes are natural numbers, with the limit of the address space
checked wherever a product is formed.
-/

namespace TensorBridge

/-- The dimensions of a tensor, outermost first; a scalar has none. -/
abbrev Shape := List Int64

/-- The largest dimension. -/
def dimensionLimit : Nat := Nat.pow 2 63 - 1

/-- The shape between brackets, the dimensions separated by commas. -/
def Shape.text (shape : Shape) : String :=
  "[" ++ ", ".intercalate (shape.map fun d => toString d.toInt) ++ "]"

/-- Sizes are below this number of bytes. -/
def addressSpace : Nat := Nat.pow 2 64

/-- The largest number of bytes that one allocation on the host can have. -/
def allocationLimit : Nat := Nat.pow 2 63 - 1

/-- What can be wrong with a tensor, or with the description of one. -/
inductive TensorError where
  /-- An exchange code outside the six types. -/
  | unsupportedElementType (code : Int64)
  /-- A token that names none of the six types. -/
  | unknownToken (token : String)
  /-- A dimension below zero, and where it stands in the shape. -/
  | negativeDimension (index : Nat) (value : Int64)
  /-- A shape whose size leaves the address space. -/
  | shapeOverflow (shape : Shape)
  /-- Data of another length than shape and type ask for. -/
  | byteLengthMismatch (expected actual : Nat)
  /-- Typed access at another type than the tensor's. -/
  | elementTypeMismatch (actual requested : ElementType)
  /-- A text that is no tensor literal. -/
  | literal (input message : String)
deriving DecidableEq, Repr

/-- The text of the error. -/
def TensorError.message : TensorError → String
  | unsupportedElementType code => s!"Unsupported element type code {code.toInt}"
  | unknownToken token => s!"Unknown element type token '{token}'"
  | negativeDimension index value => s!"Dimension {index} is negative ({value.toInt})"
  | shapeOverflow shape => s!"Shape {shape.text} overflows the addressable byte length"
  | byteLengthMismatch expected actual =>
    s!"Byte length mismatch: shape requires {expected} bytes, got {actual}"
  | elementTypeMismatch actual requested =>
    s!"Element type mismatch: tensor is {actual.token}, requested {requested.token}"
  | literal input message => s!"Invalid tensor literal '{input}': {message}"

/-- The type that a token names, or the error that says none does. -/
def ElementType.ofToken (token : String) : Except TensorError ElementType :=
  match ofToken? token with
  | some t => .ok t
  | none => .error (.unknownToken token)

/-- The type that an exchange code stands for, or the error that says none does. -/
def ElementType.ofCode (code : Int32) : Except TensorError ElementType :=
  match ofCode? code with
  | some t => .ok t
  | none => .error (.unsupportedElementType code.toInt64)

/-! ## Sizes -/

namespace Shape

/-- Multiplies the dimensions from position `index` on into `count`, from left to right, and stops
at the first dimension below zero and at the first product that leaves the address space. -/
def multiply (whole : Shape) : (index count : Nat) → Shape → Except TensorError Nat
  | _, count, [] => .ok count
  | index, count, d :: rest =>
    if d.toInt < 0 then
      .error (.negativeDimension index d)
    else if count * d.toInt.toNat < addressSpace then
      multiply whole (index + 1) (count * d.toInt.toNat) rest
    else
      .error (.shapeOverflow whole)

/-- The number of elements of a shape. -/
def elementCount (shape : Shape) : Except TensorError Nat :=
  shape.multiply 0 1 shape

/-- The number of bytes of a dense tensor of the shape. -/
def denseByteLength (t : ElementType) (shape : Shape) : Except TensorError Nat := do
  let count ← shape.elementCount
  if count * t.width < addressSpace then
    .ok (count * t.width)
  else
    .error (.shapeOverflow shape)

/-- The number of elements with nothing left out: the product of the dimensions as integers. -/
def exactCount (shape : Shape) : Int :=
  (shape.map Int64.toInt).foldr (· * ·) 1

end Shape

/-! ## Tensors -/

/-- A tensor: a type, a shape and the bytes of its elements. -/
structure Tensor where
  /-- The type of every element. -/
  elementType : ElementType
  /-- The dimensions, outermost first. -/
  shape : Shape
  /-- The elements in row-major order, each little endian. -/
  data : List UInt8
deriving DecidableEq, Repr

namespace Tensor

/-- The number of dimensions. -/
def rank (t : Tensor) : Nat := t.shape.length

/-- The number of bytes of the data. -/
def byteLength (t : Tensor) : Nat := t.data.length

/-- The number of whole elements that the data holds, whatever the shape says. -/
def length (t : Tensor) : Nat := t.data.length / t.elementType.width

/-- Whether the tensor has no data at all. -/
def isEmpty (t : Tensor) : Bool := t.data.isEmpty

/-- Checks that the shape is well formed and that the data has the length it asks for. -/
def validate (t : Tensor) : Except TensorError Unit := do
  let expected ← t.shape.denseByteLength t.elementType
  if expected = t.data.length then
    .ok ()
  else
    .error (.byteLengthMismatch expected t.data.length)

end Tensor

end TensorBridge
