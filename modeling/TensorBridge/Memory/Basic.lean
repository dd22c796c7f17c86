import TensorBridge.Session.Basic

/-!
# A runtime in memory

A runtime that only keeps books.  It hands out handles from one counter, counts the references to
buffer views, records every call, and fails where it has been told to.

Entry points go by the part of their name behind the last dot: `identity` returns its inputs,
`discard` returns nothing, `int8` returns a view of a type that is none of the six, and `opaque`
returns something that is no view.  All others are unknown.

The books assume that callers keep to the rules of the interface.  Where a caller does not, there
is no sensible reply; the first such event is kept in `Memory.defect?`.
-/

namespace TensorBridge

/-- A recorded call. -/
inductive MemoryEvent where
  /-- An instance was asked for. -/
  | createInstance
  /-- A device of a driver was asked for. -/
  | createDevice (driver : String)
  /-- A session was asked for. -/
  | createSession
  /-- A module was appended. -/
  | appendModule (length : Nat)
  /-- A session was given back. -/
  | releaseSession
  /-- A device was given back. -/
  | releaseDevice
  /-- An instance was given back. -/
  | releaseInstance
  /-- A list was asked for. -/
  | createList (capacity : Nat)
  /-- A list was given back. -/
  | releaseList
  /-- A view was asked for. -/
  | allocateView
  /-- A view was moved into a list. -/
  | push
  /-- An entry point was called. -/
  | call (entry : String)
  /-- A view was read. -/
  | read
deriving DecidableEq, Repr

/-- A record as text. -/
def MemoryEvent.text : MemoryEvent → String
  | createInstance => "CreateInstance"
  | createDevice driver => s!"CreateDevice {driver}"
  | createSession => "CreateSession"
  | appendModule length => s!"AppendModule {length}"
  | releaseSession => "ReleaseSession"
  | releaseDevice => "ReleaseDevice"
  | releaseInstance => "ReleaseInstance"
  | createList capacity => s!"CreateList {capacity}"
  | releaseList => "ReleaseList"
  | allocateView => "AllocateView"
  | push => "Push"
  | call entry => s!"Call {entry}"
  | read => "Read"

/-- A kind of calls that can be made to fail. -/
inductive MemoryFault where
  /-- Making an instance. -/
  | onInstance
  /-- Making a session. -/
  | onSession
  /-- Appending a module. -/
  | onModule
  /-- Making a view. -/
  | onUpload
  /-- Moving a view into a list. -/
  | onPush
  /-- Calling an entry point. -/
  | onCall
  /-- Reading a view. -/
  | onRead
deriving DecidableEq, Repr

/-- A breach of the rules by a caller. -/
inductive MemoryDefect where
  /-- Something was given back that is not live. -/
  | notLive (address : Nat)
  /-- A list was used that is not there. -/
  | noList (address : Nat)
  /-- A view was used that is not there. -/
  | noView (address : Nat)
  /-- A reference was dropped from a view that has none. -/
  | noReference (address : Nat)
  /-- A view was read at another length than it has. -/
  | wrongLength (expected actual : Nat)
deriving DecidableEq, Repr

/-- An entry of a list. -/
inductive MemorySlot where
  /-- A reference to a view. -/
  | view (address : Nat)
  /-- Something that is no view. -/
  | opaqueValue
deriving DecidableEq, Repr

/-- A view with the number of references to it. -/
structure MemoryView where
  /-- The native code of the element type. -/
  code : UInt32
  /-- The dimensions. -/
  dims : List UInt64
  /-- The bytes. -/
  data : List UInt8
  /-- The number of references. -/
  references : Nat
deriving DecidableEq, Repr

/-- The books of the runtime. -/
structure Memory where
  /-- The address handed out last. -/
  lastAddress : Nat := 0
  /-- All records, in order. -/
  events : List MemoryEvent := []
  /-- The kinds of calls that fail. -/
  faults : List MemoryFault := []
  /-- The drivers that have no device. -/
  failingDrivers : List String := []
  /-- The instances, devices, sessions and lists that are live. -/
  live : List Nat := []
  /-- The views with their addresses. -/
  views : List (Nat × MemoryView) := []
  /-- The contents of the lists with their addresses. -/
  lists : List (Nat × List MemorySlot) := []
  /-- The dimensions of the last upload. -/
  lastUpload : Option (List UInt64) := none
  /-- The first breach of the rules, if there was one. -/
  defect? : Option MemoryDefect := none
deriving DecidableEq, Repr

/-- The native code of signed integers of eight bits. -/
def int8Code : UInt32 := 0x10000008

namespace Memory

/-- The number of handles that are not released. -/
def liveHandles (m : Memory) : Nat := m.live.length + m.views.length

/-- Makes calls of a kind fail from now on. -/
def inject (m : Memory) (fault : MemoryFault) : Memory :=
  { m with faults := m.faults ++ [fault] }

/-- Makes a driver fail from now on. -/
def failDriver (m : Memory) (driver : String) : Memory :=
  { m with failingDrivers := m.failingDrivers ++ [driver] }

/-- Records a call. -/
def record (m : Memory) (e : MemoryEvent) : Memory := { m with events := m.events ++ [e] }

/-- Keeps a breach of the rules, unless there is an earlier one. -/
def breach (m : Memory) (d : MemoryDefect) : Memory := { m with defect? := m.defect? <|> some d }

/-- The failure of a call that was told to fail. -/
def injected (call : String) : BridgeError := .status call .internal "injected failure"

/-- Hands out a new live address. -/
def allocate (m : Memory) : Nat × Memory :=
  let address := m.lastAddress + 1
  (address, { m with lastAddress := address, live := address :: m.live })

/-- Takes an address back. -/
def release (m : Memory) (e : MemoryEvent) (address : Nat) : Memory :=
  let m := m.record e
  if m.live.contains address then { m with live := m.live.erase address }
  else m.breach (.notLive address)

/-- Records a call and hands out an address, unless calls of the kind fail. -/
def createUnless (m : Memory) (e : MemoryEvent) (fault : Option MemoryFault) (call : String) :
    Except BridgeError Nat × Memory :=
  let m := m.record e
  if fault.any m.faults.contains then (.error (injected call), m)
  else
    let (address, m) := m.allocate
    (.ok address, m)

/-! ## Views and lists -/

/-- Changes the value at an address. -/
def updateAt {α : Type} (address : Nat) (f : α → α) (table : List (Nat × α)) : List (Nat × α) :=
  table.map fun entry => if entry.1 = address then (entry.1, f entry.2) else entry

/-- Takes the value at an address out. -/
def eraseAt {α : Type} (address : Nat) (table : List (Nat × α)) : List (Nat × α) :=
  table.filter fun entry => entry.1 ≠ address

/-- A new view with one reference. -/
def addView (m : Memory) (code : UInt32) (dims : List UInt64) (data : List UInt8) :
    Nat × Memory :=
  let address := m.lastAddress + 1
  (address, { m with
    lastAddress := address
    views := (address, ⟨code, dims, data, 1⟩) :: m.views })

/-- Drops one reference to a view; the last one takes the view along. -/
def dropReference (m : Memory) (address : Nat) : Memory :=
  match m.views.lookup address with
  | none => m
  | some view =>
    if view.references = 0 then m.breach (.noReference address)
    else if view.references = 1 then { m with views := eraseAt address m.views }
    else
      { m with views :=
          updateAt address (fun v => { v with references := v.references - 1 }) m.views }

/-- Adds one reference to a view. -/
def addReference (m : Memory) (address : Nat) : Memory :=
  match m.views.lookup address with
  | none => m.breach (.noView address)
  | some _ =>
    { m with views :=
        updateAt address (fun v => { v with references := v.references + 1 }) m.views }

/-- Drops what the slots of a list refer to. -/
def dropSlots (m : Memory) (slots : List MemorySlot) : Memory :=
  slots.foldl (fun m slot =>
    match slot with
    | .view address => m.dropReference address
    | .opaqueValue => m) m

/-- Puts slots behind those of a list. -/
def extendList (m : Memory) (list : Nat) (slots : List MemorySlot) : Memory :=
  if (m.lists.lookup list).isSome then
    { m with lists := updateAt list (· ++ slots) m.lists }
  else
    m.breach (.noList list)

/-- The contents of a list. -/
def listAt (m : Memory) (list : Nat) : List MemorySlot × Memory :=
  match m.lists.lookup list with
  | some slots => (slots, m)
  | none => ([], m.breach (.noList list))

/-- The view at an address. -/
def viewAt (m : Memory) (address : Nat) : MemoryView × Memory :=
  match m.views.lookup address with
  | some view => (view, m)
  | none => (⟨0, [], [], 0⟩, m.breach (.noView address))

/-! ## Entry points -/

/-- The part of a name behind its last dot. -/
def functionName (entry : String) : String :=
  String.ofList (entry.toList.reverse.takeWhile (· ≠ '.')).reverse

/-- The addresses of the views among slots. -/
def viewAddresses (slots : List MemorySlot) : List Nat :=
  slots.filterMap fun
    | .view address => some address
    | .opaqueValue => none

/-- What an entry point returns, if there is such a one. -/
def evaluate (m : Memory) (entry : String) (inputs : Nat) :
    Except BridgeError (List MemorySlot) × Memory :=
  let function := functionName entry
  if function = "identity" then
    let (slots, m) := m.listAt inputs
    let addresses := viewAddresses slots
    (.ok (addresses.map .view), addresses.foldl addReference m)
  else if function = "discard" then (.ok [], m)
  else if function = "int8" then
    let (address, m) := m.addView int8Code [1] [7]
    (.ok [.view address], m)
  else if function = "opaque" then (.ok [.opaqueValue], m)
  else (.error (.status "call" .notFound s!"function '{entry}' not found"), m)

/-! ## The operations -/

/-- Turns an address that may be missing into a handle that may be missing. -/
def handled {kind : Resource} (r : Except BridgeError Nat × Memory) :
    Except BridgeError (Handle kind) × Memory :=
  (r.1.map Handle.mk, r.2)

/-- A list of bytes at exactly a length, filled with zeros or cut. -/
def fitBytes (length : Nat) (bytes : List UInt8) : Bytes length :=
  ⟨(bytes ++ List.replicate length 0).take length, by simp⟩

/-- How the runtime answers each operation. -/
def handle : (op : BackendOp) → Memory → op.Reply × Memory
  | .createInstance, m =>
    handled (m.createUnless .createInstance (some .onInstance) "create_instance")
  | .releaseInstance inst, m => ((), m.release .releaseInstance inst.address)
  | .createDevice _ driver, m =>
    let m := m.record (.createDevice driver)
    if m.failingDrivers.contains driver then
      (.error (.status "create_device" .unavailable s!"driver '{driver}' unavailable"), m)
    else
      let (address, m) := m.allocate
      (.ok ⟨address⟩, m)
  | .releaseDevice device, m => ((), m.release .releaseDevice device.address)
  | .createSession _ _, m =>
    handled (m.createUnless .createSession (some .onSession) "create_session")
  | .releaseSession session, m => ((), m.release .releaseSession session.address)
  | .appendModule _ image, m =>
    let m := m.record (.appendModule image.length)
    if m.faults.contains .onModule then (.error (injected "append_module"), m) else (.ok (), m)
  | .createList capacity, m =>
    let m := m.record (.createList capacity)
    let (address, m) := m.allocate
    (.ok ⟨address⟩, { m with lists := (address, []) :: m.lists })
  | .releaseList list, m =>
    let m := m.release .releaseList list.address
    let slots := (m.lists.lookup list.address).getD []
    ((), { m with lists := eraseAt list.address m.lists }.dropSlots slots)
  | .listLength list, m =>
    let (slots, m) := m.listAt list.address
    (slots.length, m)
  | .uploadView _ dims code data, m =>
    let m := m.record .allocateView
    if m.faults.contains .onUpload then (.error (injected "allocate_buffer_copy"), m)
    else
      let (address, m) := { m with lastUpload := some dims }.addView code dims data
      (.ok ⟨address⟩, m)
  | .pushView list view, m =>
    let m := m.record .push
    if m.faults.contains .onPush then
      (.error (injected "push_buffer_view"), m.dropReference view.address)
    else
      (.ok (), m.extendList list.address [.view view.address])
  | .call _ entry inputs outputs, m =>
    let m := m.record (.call entry)
    if m.faults.contains .onCall then (.error (injected "call"), m)
    else
      match m.evaluate entry inputs.address with
      | (.ok slots, m) => (.ok (), m.extendList outputs.address slots)
      | (.error e, m) => (.error e, m)
  | .viewAt list index, m =>
    let (slots, m) := m.listAt list.address
    match slots[index]? with
    | some (.view address) => (some ⟨address⟩, m)
    | _ => (none, m)
  | .viewDims view, m =>
    let (view, m) := m.viewAt view.address
    (view.dims, m)
  | .viewCode view, m =>
    let (view, m) := m.viewAt view.address
    (view.code, m)
  | .viewByteLength view, m =>
    let (view, m) := m.viewAt view.address
    (UInt64.ofNat view.data.length, m)
  | .readView view length, m =>
    let m := m.record .read
    if m.faults.contains .onRead then (.error (injected "read_buffer_view"), m)
    else
      let (view, m) := m.viewAt view.address
      (.ok (fitBytes length view.data),
        if view.data.length = length then m else m.breach (.wrongLength length view.data.length))

/-- The description of the runtime. -/
def description : String := "fake runtime"

end Memory

end TensorBridge
