import TensorBridge.Program

/-!
# What a session needs from a runtime

The operations by which a session works, without saying how a runtime carries them out.  Handles
stand for things that the runtime owns; a handle is typed by the kind of thing it stands for.

Addresses, positions and lengths are natural numbers here.  That addresses are words of a machine is
left out, and so is that none of them is zero.
-/

namespace TensorBridge

/-- The kinds of things a runtime hands out. -/
inductive Resource where
  /-- An instance of the runtime. -/
  | runtimeInstance
  /-- A device, made from one driver. -/
  | device
  /-- A native session, bound to a device. -/
  | session
  /-- A list of arguments or results. -/
  | list
  /-- A view of a buffer on a device. -/
  | view
deriving DecidableEq, Repr

/-- A thing that the runtime owns, told from others of its kind by an address. -/
structure Handle (kind : Resource) where
  /-- The address. -/
  address : Nat
deriving DecidableEq, Repr

/-- The operations of a runtime. -/
inductive BackendOp where
  /-- Makes an instance that knows all drivers. -/
  | createInstance
  /-- Gives an instance back. -/
  | releaseInstance (inst : Handle .runtimeInstance)
  /-- Makes the default device of a driver. -/
  | createDevice (inst : Handle .runtimeInstance) (driver : String)
  /-- Gives a device back. -/
  | releaseDevice (device : Handle .device)
  /-- Makes a session bound to a device. -/
  | createSession (inst : Handle .runtimeInstance) (device : Handle .device)
  /-- Gives a session back. -/
  | releaseSession (session : Handle .session)
  /-- Copies a module and appends it to a session. -/
  | appendModule (session : Handle .session) (image : List UInt8)
  /-- Makes an empty list. -/
  | createList (capacity : Nat)
  /-- Gives a list back, with every reference it holds. -/
  | releaseList (list : Handle .list)
  /-- Counts the entries of a list. -/
  | listLength (list : Handle .list)
  /-- Makes a view of a new device buffer with a copy of the data. -/
  | uploadView (session : Handle .session) (dims : List UInt64) (code : UInt32)
      (data : List UInt8)
  /-- Moves a view into a list; the view is used up whether that succeeds or not. -/
  | pushView (list : Handle .list) (view : Handle .view)
  /-- Calls an entry point and waits for it. -/
  | call (session : Handle .session) (entry : String) (inputs outputs : Handle .list)
  /-- Borrows the view at a position of a list, if there is one. -/
  | viewAt (list : Handle .list) (index : Nat)
  /-- The dimensions of a view. -/
  | viewDims (view : Handle .view)
  /-- The native code of the element type of a view. -/
  | viewCode (view : Handle .view)
  /-- The number of bytes of a view. -/
  | viewByteLength (view : Handle .view)
  /-- Reads a number of bytes of a view. -/
  | readView (view : Handle .view) (length : Nat)
deriving DecidableEq, Repr

/-- A given number of bytes. -/
abbrev Bytes (length : Nat) := { bytes : List UInt8 // bytes.length = length }

/-- What each operation replies. -/
abbrev BackendOp.Reply : BackendOp → Type
  | createInstance => Except BridgeError (Handle .runtimeInstance)
  | createDevice .. => Except BridgeError (Handle .device)
  | createSession .. => Except BridgeError (Handle .session)
  | createList _ => Except BridgeError (Handle .list)
  | uploadView .. => Except BridgeError (Handle .view)
  | appendModule .. | pushView .. | call .. => Except BridgeError Unit
  | releaseInstance _ | releaseDevice _ | releaseSession _ | releaseList _ => Unit
  | listLength _ => Nat
  | viewAt .. => Option (Handle .view)
  | viewDims _ => List UInt64
  | viewCode _ => UInt32
  | viewByteLength _ => UInt64
  | readView _ length => Except BridgeError (Bytes length)

/-- The interface of a runtime. -/
abbrev Backend : Interface := ⟨BackendOp, BackendOp.Reply⟩

/-! ## The operations as programs -/

namespace Backend

/-- Makes an instance. -/
def createInstance : Action Backend (Handle .runtimeInstance) :=
  .ofProgram (.perform (I := Backend) .createInstance)

/-- Gives an instance back. -/
def releaseInstance (inst : Handle .runtimeInstance) : Program Backend Unit :=
  .perform (I := Backend) (.releaseInstance inst)

/-- Makes the default device of a driver. -/
def createDevice (inst : Handle .runtimeInstance) (driver : String) :
    Program Backend (Except BridgeError (Handle .device)) :=
  .perform (I := Backend) (.createDevice inst driver)

/-- Gives a device back. -/
def releaseDevice (device : Handle .device) : Program Backend Unit :=
  .perform (I := Backend) (.releaseDevice device)

/-- Makes a session bound to a device. -/
def createSession (inst : Handle .runtimeInstance) (device : Handle .device) :
    Action Backend (Handle .session) :=
  .ofProgram (.perform (I := Backend) (.createSession inst device))

/-- Gives a session back. -/
def releaseSession (session : Handle .session) : Program Backend Unit :=
  .perform (I := Backend) (.releaseSession session)

/-- Appends a copy of a module to a session. -/
def appendModule (session : Handle .session) (image : List UInt8) : Action Backend Unit :=
  .ofProgram (.perform (I := Backend) (.appendModule session image))

/-- Makes an empty list. -/
def createList (capacity : Nat) : Action Backend (Handle .list) :=
  .ofProgram (.perform (I := Backend) (.createList capacity))

/-- Gives a list back. -/
def releaseList (list : Handle .list) : Program Backend Unit :=
  .perform (I := Backend) (.releaseList list)

/-- Counts the entries of a list. -/
def listLength (list : Handle .list) : Action Backend Nat :=
  .always (.perform (I := Backend) (.listLength list))

/-- Makes a view with a copy of the data. -/
def uploadView (session : Handle .session) (dims : List UInt64) (code : UInt32)
    (data : List UInt8) : Action Backend (Handle .view) :=
  .ofProgram (.perform (I := Backend) (.uploadView session dims code data))

/-- Moves a view into a list. -/
def pushView (list : Handle .list) (view : Handle .view) : Action Backend Unit :=
  .ofProgram (.perform (I := Backend) (.pushView list view))

/-- Calls an entry point. -/
def call (session : Handle .session) (entry : String) (inputs outputs : Handle .list) :
    Action Backend Unit :=
  .ofProgram (.perform (I := Backend) (.call session entry inputs outputs))

/-- Borrows the view at a position of a list. -/
def viewAt (list : Handle .list) (index : Nat) : Action Backend (Option (Handle .view)) :=
  .always (.perform (I := Backend) (.viewAt list index))

/-- The dimensions of a view. -/
def viewDims (view : Handle .view) : Action Backend (List UInt64) :=
  .always (.perform (I := Backend) (.viewDims view))

/-- The native code of the element type of a view. -/
def viewCode (view : Handle .view) : Action Backend UInt32 :=
  .always (.perform (I := Backend) (.viewCode view))

/-- The number of bytes of a view. -/
def viewByteLength (view : Handle .view) : Action Backend UInt64 :=
  .always (.perform (I := Backend) (.viewByteLength view))

/-- Reads a number of bytes of a view. -/
def readView (view : Handle .view) (length : Nat) : Action Backend (Bytes length) :=
  .ofProgram (.perform (I := Backend) (.readView view length))

end Backend

end TensorBridge
