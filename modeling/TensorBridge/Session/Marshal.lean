import TensorBridge.Backend

/-!
# Tensors to and from a runtime

Inputs are checked all together before any of them is handed over; then each becomes a view that is
moved into a list.  The dimensions of an input need no allocation unless there are many of them:
`Dims` keeps them in one of two ways, and `Dims.toList_ofShape` says that this makes no difference
to what is handed over.  Outputs are read one by one from a list: an output must be a view of one of
the six element types, and its dimensions and its size must fit the host.  One unreadable output
means that none is returned.
-/

namespace TensorBridge

namespace Marshal

/-- Checks the inputs from position `index` on.  A failure names the first one that is at fault. -/
def validateFrom (index : Nat) : List Tensor → Except BridgeError Unit
  | [] => .ok ()
  | tensor :: rest =>
    match tensor.validate with
    | .ok () => validateFrom (index + 1) rest
    | .error e =>
      match BridgeError.ofTensorError e with
      | .invalidArgument _ reason => .error (.invalidArgument s!"inputs[{index}]" reason)
      | other => .error other

/-- Checks all inputs. -/
def validateInputs (inputs : List Tensor) : Except BridgeError Unit := validateFrom 0 inputs

/-- The element type that a native code stands for. -/
def decodeElementType (code : UInt32) : Except BridgeError ElementType :=
  match ElementType.ofNative? code with
  | some t => .ok t
  | none => .error (.unsupportedElementType (Int64.ofNat code.toNat))

/-- Up to this number of dimensions, they are kept in place. -/
def inlineRank : Nat := 8

/-- The dimensions of one tensor as the runtime counts them. -/
inductive Dims where
  /-- In a fixed number of places, of which the first ones are in use. -/
  | inPlace (places : List UInt64) (rank : Nat) (full : places.length = inlineRank)
      (fits : rank ≤ inlineRank)
  /-- In a list of their own. -/
  | apart (dims : List UInt64)

namespace Dims

/-- Writes the dimensions of a shape into places, one after the other. -/
def fill : (places : List UInt64) → Shape → List UInt64
  | _ :: places, d :: rest => d.toUInt64 :: fill places rest
  | places, _ => places

theorem length_fill (places : List UInt64) (shape : Shape) :
    (fill places shape).length = places.length := by
  induction places generalizing shape with
  | nil => rfl
  | cons place places ih =>
    cases shape with
    | nil => rfl
    | cons d rest => simp [fill, ih]

/-- The dimensions of a shape: in place if there are few of them. -/
def ofShape (shape : Shape) : Dims :=
  if h : shape.length ≤ inlineRank then
    .inPlace (fill (List.replicate inlineRank 0) shape) shape.length
      ((length_fill _ shape).trans List.length_replicate) h
  else
    .apart (shape.map Int64.toUInt64)

/-- The dimensions that are in use. -/
def toList : Dims → List UInt64
  | inPlace places rank _ _ => places.take rank
  | apart dims => dims

theorem take_fill {places : List UInt64} {shape : Shape} (h : shape.length ≤ places.length) :
    (fill places shape).take shape.length = shape.map Int64.toUInt64 := by
  induction shape generalizing places with
  | nil => rfl
  | cons d rest ih =>
    cases places with
    | nil => cases h
    | cons place places =>
      have hrest : rest.length ≤ places.length := Nat.le_of_succ_le_succ h
      simp [fill, ih hrest]

/-- Wherever the dimensions are kept, they are those of the shape. -/
theorem toList_ofShape (shape : Shape) : (ofShape shape).toList = shape.map Int64.toUInt64 := by
  unfold ofShape
  split
  · rename_i h
    exact take_fill (Nat.le_trans h (Nat.le_of_eq List.length_replicate.symm))
  · rfl

end Dims

/-- The dimensions of a shape as they are handed over. -/
def nativeDims (shape : Shape) : List UInt64 := (Dims.ofShape shape).toList

/-- Copies an input to the device and moves it into a list. -/
def pushInput (session : Handle .session) (list : Handle .list) (tensor : Tensor) :
    Action Backend Unit := do
  let view ← Backend.uploadView session (nativeDims tensor.shape) tensor.elementType.toNative
    tensor.data
  Backend.pushView list view

/-- Pushes the inputs in order. -/
def pushInputs (session : Handle .session) (list : Handle .list) :
    List Tensor → Action Backend Unit
  | [] => pure ()
  | tensor :: rest => do
    pushInput session list tensor
    pushInputs session list rest

/-- The number of bytes that the host needs for a number of dimensions. -/
def dimensionBytes (rank : Nat) : Nat := 8 * rank

/-- The number of bytes that the host needs for a number of tensors, their data apart. -/
def descriptorBytes (count : Nat) : Nat := 56 * count

/-- The dimensions of output `index` on the host, where they are signed. -/
def hostDims (index : Nat) : List UInt64 → Except BridgeError Shape
  | [] => .ok []
  | d :: rest =>
    if d.toNat ≤ dimensionLimit then
      (hostDims index rest).map (Int64.ofNat d.toNat :: ·)
    else
      .error (.resourceExhausted s!"output {index} dimension {d.toNat} exceeds i64")

/-- Makes sure that the host can hold a number of bytes. -/
def reserve (bytes : Nat) (what : String) : Except BridgeError Unit :=
  if bytes ≤ allocationLimit then .ok () else .error (.resourceExhausted what)

/-- Reads one output. -/
def readOutput (list : Handle .list) (index : Nat) : Action Backend Tensor := do
  match ← Backend.viewAt list index with
  | none => throw (.missingOutput index)
  | some view =>
    let elementType ← liftExcept (decodeElementType (← Backend.viewCode view))
    let dims ← Backend.viewDims view
    liftExcept (reserve (dimensionBytes dims.length) s!"shape of output {index}")
    let shape ← liftExcept (hostDims index dims)
    let length := (← Backend.viewByteLength view).toNat
    liftExcept (reserve length s!"{length} bytes for output {index}")
    let data ← Backend.readView view length
    return ⟨elementType, shape, data⟩
where
  /-- A result that needs no operation. -/
  liftExcept {α : Type} (r : Except BridgeError α) : Action Backend α := .ofProgram (.done r)

/-- Reads a number of outputs from position `index` on. -/
def readFrom (list : Handle .list) : (index count : Nat) → Action Backend (List Tensor)
  | _, 0 => pure []
  | index, count + 1 => do
    let tensor ← readOutput list index
    return tensor :: (← readFrom list (index + 1) count)

/-- Reads all outputs of a list. -/
def readOutputs (list : Handle .list) : Action Backend (List Tensor) := do
  let count ← Backend.listLength list
  if allocationLimit < descriptorBytes count then
    throw (.resourceExhausted s!"{count} output descriptors")
  readFrom list 0 count

end Marshal

end TensorBridge
