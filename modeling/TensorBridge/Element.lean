/-!
# Element types

The six scalar types a tensor can hold.  The enumeration is closed: a token, an exchange code or
a native code outside it is refused, never mapped to a default.
-/

namespace TensorBridge

/-- The scalar type of a tensor's elements. -/
inductive ElementType where
  /-- IEEE 754 half precision. -/
  | f16
  /-- The sixteen bit format with the exponent range of single precision. -/
  | bf16
  /-- IEEE 754 single precision. -/
  | f32
  /-- IEEE 754 double precision. -/
  | f64
  /-- Signed integers of 32 bits. -/
  | i32
  /-- Signed integers of 64 bits. -/
  | i64
deriving DecidableEq, Repr, Inhabited

namespace ElementType

/-- Every element type, in the order of the exchange codes. -/
def all : List ElementType := [f16, bf16, f32, f64, i32, i64]

theorem mem_all (t : ElementType) : t ∈ all := by cases t <;> decide

/-- The number of bytes of one element. -/
def width : ElementType → Nat
  | f16 | bf16 => 2
  | f32 | i32 => 4
  | f64 | i64 => 8

theorem width_pos (t : ElementType) : 0 < t.width := by cases t <;> decide

/-- The token that names the type in tensor literals. -/
def token : ElementType → String
  | f16 => "f16"
  | bf16 => "bf16"
  | f32 => "f32"
  | f64 => "f64"
  | i32 => "i32"
  | i64 => "i64"

/-- The type that a token names. -/
def ofToken? (token : String) : Option ElementType :=
  all.find? fun t => t.token == token

theorem ofToken?_token (t : ElementType) : ofToken? t.token = some t := by
  cases t <;> decide

/-- The code of the type in the tensor exchange layout. -/
def code : ElementType → Int32
  | f16 => 0
  | bf16 => 1
  | f32 => 2
  | f64 => 3
  | i32 => 4
  | i64 => 5

/-- The type that an exchange code stands for. -/
def ofCode? (code : Int32) : Option ElementType :=
  all.find? fun t => t.code == code

theorem ofCode?_code (t : ElementType) : ofCode? t.code = some t := by
  cases t <;> decide

/-- Whether the elements are floating point numbers. -/
def isFloat : ElementType → Bool
  | f16 | bf16 | f32 | f64 => true
  | i32 | i64 => false

/-! ## Native codes

The native runtime names a type by its numerical kind in the top byte and its bit count in the
low byte. -/

/-- The numerical kind of the type: signed integer, IEEE float or brain float. -/
def nativeKind : ElementType → UInt32
  | i32 | i64 => 0x11
  | f16 | f32 | f64 => 0x21
  | bf16 => 0x22

/-- The code of the type in the native runtime. -/
def toNative (t : ElementType) : UInt32 :=
  t.nativeKind <<< 24 ||| UInt32.ofNat (8 * t.width)

/-- The type that a native code stands for. -/
def ofNative? (code : UInt32) : Option ElementType :=
  all.find? fun t => t.toNative == code

theorem ofNative?_toNative (t : ElementType) : ofNative? t.toNative = some t := by
  cases t <;> decide

end ElementType

end TensorBridge
