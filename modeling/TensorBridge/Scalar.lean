import TensorBridge.Tensor
import TensorBridge.Number.Shortest
import TensorBridge.Number.Integer

/-!
# Scalars

A scalar of an element type is its bit pattern.  Scalars are stored in little endian order, read
from text and shown as text.  The two sixteen bit formats have no text of their own: they are
read by way of single precision and shown as the single precision number they equal.
-/

namespace TensorBridge

/-! ## Bytes -/

/-- The lowest `width` bytes of a number, the lowest first. -/
def littleEndian : (width : Nat) → Nat → List UInt8
  | 0, _ => []
  | width + 1, n => UInt8.ofNat n :: littleEndian width (n / 256)

/-- The number whose bytes are given, the lowest first. -/
def ofLittleEndian : List UInt8 → Nat
  | [] => 0
  | b :: rest => b.toNat + 256 * ofLittleEndian rest

@[simp] theorem length_littleEndian (width n : Nat) : (littleEndian width n).length = width := by
  induction width generalizing n with
  | zero => rfl
  | succ width ih => simp [littleEndian, ih]

theorem length_drop_lt {α : Type} {width : Nat} {l : List α} (hw : 0 < width)
    (hl : 0 < l.length) : (l.drop width).length < l.length := by
  simp only [List.length_drop]
  omega

/-- Cuts a list into pieces of `width` elements; the last piece may be shorter. -/
def pieces {α : Type} (width : Nat) (l : List α) : List (List α) :=
  if _ : 0 < width ∧ l ≠ [] then
    l.take width :: pieces width (l.drop width)
  else
    []
termination_by l.length
decreasing_by
  rename_i h
  exact length_drop_lt h.1 (List.length_pos_iff.2 h.2)

/-- Cuts a list into pieces of exactly `width` elements; a shorter rest is left out. -/
def wholePieces {α : Type} (width : Nat) (l : List α) : List (List α) :=
  if _ : 0 < width ∧ width ≤ l.length then
    l.take width :: wholePieces width (l.drop width)
  else
    []
termination_by l.length
decreasing_by
  rename_i h
  exact length_drop_lt h.1 (Nat.lt_of_lt_of_le h.1 h.2)

/-! ## Bit patterns -/

/-- A scalar of an element type: the bits of one element. -/
abbrev Scalar (t : ElementType) := BitVec (8 * t.width)

/-- Why a text is no scalar of a type. -/
inductive ScalarFault where
  /-- It is no integer of the type. -/
  | integer (fault : IntegerFault)
  /-- It is no floating point number. -/
  | float
deriving DecidableEq, Repr

/-- The text of the fault. -/
def ScalarFault.message : ScalarFault → String
  | integer fault => fault.message
  | float => "invalid float literal"

namespace Scalar

variable (t : ElementType)

/-- The bytes of a scalar. -/
def toBytes (s : Scalar t) : List UInt8 := littleEndian t.width s.toNat

/-- The scalar with the given bytes; missing bytes count as zero. -/
def ofBytes (bytes : List UInt8) : Scalar t := BitVec.ofNat _ (ofLittleEndian bytes)

/-- The format of a floating point type. -/
def format? : ElementType → Option BinaryFormat
  | .f16 => some .half
  | .bf16 => some .brain
  | .f32 => some .single
  | .f64 => some .double
  | .i32 | .i64 => none

/-- The format through which a floating point type is read and shown: sixteen bit types go by way
of single precision. -/
def textFormat : BinaryFormat → BinaryFormat
  | f => if f = .double then .double else .single

/-- Reads a scalar.  A floating point number is rounded to the format of its text first and to its
own format then. -/
def read (text : List Char) : Except ScalarFault (Scalar t) :=
  match format? t with
  | some f =>
    match FloatText.read? text with
    | some number =>
      .ok (BitVec.ofNat _ ((textFormat f).convert f ((textFormat f).ofText number)))
    | none => .error .float
  | none =>
    match readInteger (Nat.pow 2 (8 * t.width - 1) - 1) text with
    | .ok n => .ok (BitVec.ofInt _ n)
    | .error fault => .error (.integer fault)

/-- The text of a scalar. -/
def display (s : Scalar t) : String :=
  match format? t with
  | some f =>
    let wide := textFormat f
    wide.display (wide.decode (f.convert wide s.toNat))
  | none => toString s.toInt

end Scalar

/-! ## Typed access to tensors -/

/-- The bytes of a list of scalars. -/
def bytesOfScalars (t : ElementType) (values : List (Scalar t)) : List UInt8 :=
  values.flatMap (Scalar.toBytes t)

/-- The scalars stored in a list of bytes; bytes missing at the end count as zero. -/
def scalarsOfBytes (t : ElementType) (bytes : List UInt8) : List (Scalar t) :=
  (pieces t.width bytes).map (Scalar.ofBytes t)

namespace Tensor

/-- The tensor that holds the given scalars, not checked against the shape. -/
def ofScalars (t : ElementType) (shape : Shape) (values : List (Scalar t)) : Tensor :=
  ⟨t, shape, bytesOfScalars t values⟩

/-- The tensor that holds the given scalars, if the shape asks for exactly as many. -/
def fromValues (t : ElementType) (shape : Shape) (values : List (Scalar t)) :
    Except TensorError Tensor := do
  let tensor := ofScalars t shape values
  tensor.validate
  return tensor

/-- The scalars of a tensor, at its own type only. -/
def toValues (tensor : Tensor) (t : ElementType) : Except TensorError (List (Scalar t)) :=
  if t = tensor.elementType then
    .ok (scalarsOfBytes t tensor.data)
  else
    .error (.elementTypeMismatch tensor.elementType t)

/-- The texts of the elements in order; bytes at the end that form no whole element are left
out. -/
def valueTexts (tensor : Tensor) : List String :=
  (wholePieces tensor.elementType.width tensor.data).map fun piece =>
    Scalar.display tensor.elementType (Scalar.ofBytes tensor.elementType piece)

end Tensor

end TensorBridge
