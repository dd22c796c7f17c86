/-!
# Text in bytes

UTF-8 stores a character in one to four bytes.  `Utf8.decode` cuts a list of bytes into well-formed
characters and ill-formed pieces; each piece is as long as the beginning of a character can be, so
that replacing every piece by one replacement character is the customary lossy reading.  A text is
cut to a number of bytes without splitting a character by `takeBytes`.
-/

namespace TensorBridge

namespace Utf8

/-- The bytes of a text. -/
def encode (text : String) : List UInt8 := text.toUTF8.toList

/-- What the first byte of a character says: the bits of the character in that byte, and for each
byte to follow the least and the greatest value it can have.  The narrower ranges of the second
byte keep out surrogates, code points that are too large and forms that are too long. -/
def lead? (b : UInt8) : Option (Nat × List (UInt8 × UInt8)) :=
  if b < 0x80 then some (b.toNat, [])
  else if b < 0xc2 then none
  else if b < 0xe0 then some (b.toNat % 32, [(0x80, 0xbf)])
  else if b = 0xe0 then some (0, [(0xa0, 0xbf), (0x80, 0xbf)])
  else if b = 0xed then some (0xd, [(0x80, 0x9f), (0x80, 0xbf)])
  else if b < 0xf0 then some (b.toNat % 16, [(0x80, 0xbf), (0x80, 0xbf)])
  else if b = 0xf0 then some (0, [(0x90, 0xbf), (0x80, 0xbf), (0x80, 0xbf)])
  else if b < 0xf4 then some (b.toNat % 8, [(0x80, 0xbf), (0x80, 0xbf), (0x80, 0xbf)])
  else if b = 0xf4 then some (4, [(0x80, 0x8f), (0x80, 0xbf), (0x80, 0xbf)])
  else none

/-- Takes the bytes that must follow, each with six bits of the character, and stops before the
first that does not fit. -/
def takeTrail : (trail : List (UInt8 × UInt8)) → (bits : Nat) → List UInt8 →
    Option Nat × List UInt8
  | [], bits, bytes => (some bits, bytes)
  | _ :: _, _, [] => (none, [])
  | range :: trail, bits, b :: bytes =>
    if range.1 ≤ b ∧ b ≤ range.2 then takeTrail trail (64 * bits + b.toNat % 64) bytes
    else (none, b :: bytes)

theorem length_takeTrail_le (trail : List (UInt8 × UInt8)) (bits : Nat) (bytes : List UInt8) :
    (takeTrail trail bits bytes).2.length ≤ bytes.length := by
  fun_induction takeTrail trail bits bytes with
  | case1 => simp
  | case2 => simp
  | case3 _ _ _ _ _ _ ih => simp only [List.length_cons]; omega
  | case4 => simp

/-- Cuts bytes into characters and ill-formed pieces. -/
def decode : List UInt8 → List (Option Char)
  | [] => []
  | b :: bytes =>
    match lead? b with
    | none => none :: decode bytes
    | some (bits, trail) =>
      have := length_takeTrail_le trail bits bytes
      let found := takeTrail trail bits bytes
      found.1.map Char.ofNat :: decode found.2
termination_by bytes => bytes.length

/-- The text of the bytes with one replacement character for every ill-formed piece. -/
def decodeLossy (bytes : List UInt8) : String :=
  String.ofList ((decode bytes).map fun c => c.getD '\uFFFD')

/-- The text of the bytes, if they are well formed throughout. -/
def decode? (bytes : List UInt8) : Option String :=
  ((decode bytes).mapM id).map String.ofList

end Utf8

/-- The longest beginning of a text that fits into a number of bytes. -/
def takeBytes : (max : Nat) → List Char → List Char
  | _, [] => []
  | max, c :: rest =>
    if c.utf8Size ≤ max then c :: takeBytes (max - c.utf8Size) rest else []

/-- The number of bytes of a text. -/
def byteCount : List Char → Nat
  | [] => 0
  | c :: rest => c.utf8Size + byteCount rest

/-- Cuts a text to a number of bytes, between two characters. -/
def truncate (text : String) (max : Nat) : String := String.ofList (takeBytes max text.toList)

end TensorBridge
