import TensorBridge.Native.Call
import TensorBridge.Text.Utf8

/-!
# A runtime made of native functions

How each operation of a runtime is carried out by native functions.  A status that reports a
failure is rendered, if the library can, and freed; its text becomes the message of the error.
`Native.perform` gives for every operation the program of native calls, so that a session runs on a
library by `Program.expand`.
-/

namespace TensorBridge

namespace Native

/-- The greatest number of bytes that is kept of the text of a status. -/
def maxMessageLength : Nat := 511

/-- The message of a status that cannot be rendered. -/
def fallbackMessage : String := "IREE status error"

/-! ## Statuses -/

/-- The text of a status, if the library can render it.  The buffer with the text is freed. -/
def render (renders : Bool) (status : StatusWord) : Program Native (Option String) :=
  if renders then do
    let rendering : Rendering ← .perform (I := Native) (.renderStatus status .system)
    match rendering with
    | .failed | .noBuffer => return none
    | .buffer address bytes =>
      let message := truncate (Utf8.decodeLossy bytes) maxMessageLength
      let _ : Unit ← .perform (I := Native) (.free .system address)
      return some message
  else
    return none

/-- Uses a status up: nothing is done about success, anything else becomes an error that names the
function. -/
def check (renders : Bool) (symbol : String) (status : Option StatusWord) : Action Native Unit :=
  match status with
  | none => pure ()
  | some word => do
    let message ← .always (render renders word)
    .always (.perform (I := Native) (.freeStatus word))
    throw (.status symbol (.ofWord word) (message.getD fallbackMessage))

/-- The error about an address that is null in spite of success. -/
def nullHandle (symbol : String) : BridgeError :=
  .status symbol .internal "runtime returned a null handle"

/-- Checks the status of a reply and takes its address, which must not be null. -/
def obtain (renders : Bool) (symbol : String) (missing : BridgeError)
    (p : Program Native Produced) : Action Native Nat := do
  let produced ← .always p
  check renders symbol produced.status
  match produced.address with
  | some address => return address
  | none => throw missing

/-- Calls a function that makes something. -/
def make (renders : Bool) (op : NativeOp) (p : Program Native Produced) : Action Native Nat :=
  obtain renders op.symbol (nullHandle op.symbol) p

/-- Calls a function that replies with a status alone. -/
def attempt (renders : Bool) (op : NativeOp) (p : Program Native (Option StatusWord)) :
    Action Native Unit := do
  check renders op.symbol (← .always p)

/-! ## Instances, devices and sessions -/

/-- Registers the types that devices need with the virtual machine of an instance. -/
def registerTypes (renders : Bool) (inst : Nat) : Action Native Unit := do
  let vm ← .always (.perform (I := Native) (.vmInstance inst))
  match vm with
  | none => throw (nullHandle (NativeOp.vmInstance inst).symbol)
  | some vm =>
    attempt renders (.registerTypes vm) (.perform (I := Native) (.registerTypes vm))
    attempt renders (.resolveTypes vm) (.perform (I := Native) (.resolveTypes vm))

/-- Makes an instance that knows all drivers and all types. -/
def createInstance (renders : Bool) : Action Native (Handle .runtimeInstance) := do
  let options ← .always (.perform (I := Native) (.fillInstanceOptions {}))
  let options ← .always (.perform (I := Native) (.useAllDrivers options))
  let op := NativeOp.createInstance options .system
  let inst ← make renders op (.perform (I := Native) (.createInstance options .system))
  (registerTypes renders inst).onFailure (.perform (I := Native) (.releaseInstance inst))
  return ⟨inst⟩

/-- Makes the default device of a driver. -/
def createDevice (renders : Bool) (inst : Handle .runtimeInstance) (driver : String) :
    Action Native (Handle .device) := do
  let op := NativeOp.createDevice inst.address driver
  let device ← obtain renders op.symbol
    (.status op.symbol .notFound s!"driver '{driver}' produced no device")
    (.perform (I := Native) (.createDevice inst.address driver))
  return ⟨device⟩

/-- Makes a session that uses the allocator of its instance. -/
def createSession (renders : Bool) (inst : Handle .runtimeInstance) (device : Handle .device) :
    Action Native (Handle .session) := do
  let options ← .always (.perform (I := Native) (.fillSessionOptions {}))
  let allocator ← .always (.perform (I := Native) (.hostAllocator inst.address))
  let op := NativeOp.createSession inst.address options device.address allocator
  let session ← make renders op
    (.perform (I := Native) (.createSession inst.address options device.address allocator))
  return ⟨session⟩

/-- Copies a module into memory of the runtime and appends it to a session, which owns the copy
from then on. -/
def appendModule (renders : Bool) (session : Handle .session) (image : List UInt8) :
    Action Native Unit := do
  let what := s!"copying {image.length} module bytes"
  let produced ← .always (.perform (I := Native) (.malloc .system image.length))
  let checked ← .always
    (check renders (NativeOp.malloc .system image.length).symbol produced.status).run
  match checked, produced.address with
  | .error e, _ => throw (.resourceExhausted s!"{what}: {e.message}")
  | .ok (), none => throw (.resourceExhausted what)
  | .ok (), some _ =>
    attempt renders (.appendModule session.address image .system)
      (.perform (I := Native) (.appendModule session.address image .system))

/-! ## Lists and views -/

/-- Makes a list whose entries can be anything. -/
def createList (renders : Bool) (capacity : Nat) : Action Native (Handle .list) := do
  let op := NativeOp.createList anyListType capacity .system
  let list ← make renders op (.perform (I := Native) (.createList anyListType capacity .system))
  return ⟨list⟩

/-- Makes a view of a new buffer on the device of a session. -/
def uploadView (renders : Bool) (session : Handle .session) (dims : List UInt64) (code : UInt32)
    (data : List UInt8) : Action Native (Handle .view) := do
  let device ← .always (.perform (I := Native) (.sessionDevice session.address))
  let allocator ← .always (.perform (I := Native) (.sessionAllocator session.address))
  let op := NativeOp.allocateView device allocator dims code denseRowMajor .deviceLocal data
  let view ← make renders op (.perform (I := Native)
    (.allocateView device allocator dims code denseRowMajor .deviceLocal data))
  return ⟨view⟩

/-- Moves a view into a list.  A push that fails may leave the reference behind, which is then
released before the status is looked at. -/
def pushView (renders : Bool) (list : Handle .list) (view : Handle .view) :
    Action Native Unit := do
  let reference ← .always (.perform (I := Native) (.viewReference view.address))
  let pushed : Produced ← .always (.perform (I := Native) (.pushReference list.address reference))
  match pushed.status, pushed.address with
  | some _, some left => .always (.perform (I := Native) (.releaseReference left))
  | _, _ => pure ()
  check renders (NativeOp.pushReference list.address reference).symbol pushed.status

/-- The dimensions of a view; none if it has no rank or does not show them. -/
def viewDims (view : Handle .view) : Program Native (List UInt64) := do
  let rank : Nat ← .perform (I := Native) (.viewRank view.address)
  let dims : Option (List UInt64) ← .perform (I := Native) (.viewDims view.address)
  return (dims.getD []).take rank

/-- Reads a number of bytes of a view; no function is called to read none. -/
def readView (renders : Bool) (view : Handle .view) (length : Nat) :
    Action Native (Bytes length) :=
  if h : length = 0 then
    return ⟨[], by simp [h]⟩
  else do
    let buffer ← .always (.perform (I := Native) (.viewBuffer view.address))
    match buffer with
    | none => throw (nullHandle (NativeOp.viewBuffer view.address).symbol)
    | some buffer =>
      let read : Option StatusWord × Bytes length ←
        .always (.perform (I := Native) (.readBuffer buffer 0 length))
      check renders (NativeOp.readBuffer buffer 0 length).symbol read.1
      return read.2

/-! ## All operations -/

/-- The program of native calls that carries out an operation. -/
def perform (renders : Bool) : (op : BackendOp) → Program Native op.Reply
  | .createInstance => (createInstance renders).run
  | .releaseInstance inst => .perform (I := Native) (.releaseInstance inst.address)
  | .createDevice inst driver => (createDevice renders inst driver).run
  | .releaseDevice device => .perform (I := Native) (.releaseDevice device.address)
  | .createSession inst device => (createSession renders inst device).run
  | .releaseSession session => .perform (I := Native) (.releaseSession session.address)
  | .appendModule session image => (appendModule renders session image).run
  | .createList capacity => (createList renders capacity).run
  | .releaseList list => .perform (I := Native) (.releaseList list.address)
  | .listLength list => .perform (I := Native) (.listSize list.address)
  | .uploadView session dims code data => (uploadView renders session dims code data).run
  | .pushView list view => (pushView renders list view).run
  | .call session entry inputs outputs =>
    (attempt renders (.callByName session.address entry inputs.address outputs.address)
      (.perform (I := Native)
        (.callByName session.address entry inputs.address outputs.address))).run
  | .viewAt list index => do
    let view : Option Nat ← .perform (I := Native) (.viewAt list.address index)
    return view.map Handle.mk
  | .viewDims view => viewDims view
  | .viewCode view => .perform (I := Native) (.viewCode view.address)
  | .viewByteLength view => .perform (I := Native) (.viewByteLength view.address)
  | .readView view length => (readView renders view length).run

end Native

end TensorBridge
