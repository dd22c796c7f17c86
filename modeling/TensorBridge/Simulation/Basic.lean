import TensorBridge.Native.Backend
import TensorBridge.Memory.Basic

/-!
# A simulated native runtime

A native runtime that keeps books and follows a configuration: which drivers it has, what its entry
points return, and which calls fail.  Every call is written down with its arguments.

Instances, devices, sessions, lists and views get numbers from one counter.  A failing call gets a
status from a counter of its own; the status word holds that number above the five bits of its
code.  A view lives as long as there are references to it.
-/

namespace TensorBridge

/-- How the status of a failure is rendered. -/
inductive SimulatedRendering where
  /-- As a text. -/
  | bytes (text : List UInt8)
  /-- It cannot be rendered. -/
  | failed
  /-- Without a buffer. -/
  | noBuffer
deriving DecidableEq, Repr

/-- A call that does not work as it should. -/
structure SimulatedFault where
  /-- The function. -/
  symbol : String
  /-- Which of its calls, counted from one; all of them if none is given. -/
  nth : Option Nat := none
  /-- Whether the call succeeds and leaves its result null. -/
  null : Bool := false
  /-- Whether a failing push takes the reference nevertheless. -/
  consume : Bool := false
  /-- The code of the status. -/
  code : Nat := 2
  /-- How the status is rendered. -/
  rendering : SimulatedRendering := .bytes (Utf8.encode "simulated failure")
deriving DecidableEq, Repr

/-- What an entry point returns at one position. -/
inductive SimulatedOutput where
  /-- Something that is no view. -/
  | noView
  /-- The input at a position once more, or no view if there is none. -/
  | input (index : Nat)
  /-- A new view. -/
  | view (code : UInt32) (dims : List UInt64) (data : List UInt8) (byteLength : Option UInt64)
      (hidesDims : Bool)
deriving DecidableEq, Repr

/-- The configuration of the runtime. -/
structure SimulationConfig where
  /-- The drivers that have a device. -/
  drivers : List String := defaultDrivers
  /-- The entry points with special results. -/
  entries : List (String × List SimulatedOutput) := []
  /-- The faults; the first that applies counts. -/
  faults : List SimulatedFault := []
deriving DecidableEq, Repr

/-- A view of the runtime. -/
structure SimulatedView where
  /-- The native code of the element type. -/
  code : UInt32
  /-- The dimensions. -/
  dims : List UInt64
  /-- The bytes. -/
  data : List UInt8
  /-- The number of bytes that it claims to have. -/
  byteLength : UInt64
  /-- Whether it does not show its dimensions. -/
  hidesDims : Bool
  /-- The number of references. -/
  references : Nat
deriving DecidableEq, Repr

/-- The books of the runtime. -/
structure Simulation where
  /-- The configuration. -/
  config : SimulationConfig := {}
  /-- How often each function was called under the configuration. -/
  counts : List (String × Nat) := []
  /-- All calls with their arguments, in order. -/
  calls : List String := []
  /-- The number handed out last. -/
  lastNumber : Nat := 0
  /-- The live instances. -/
  instances : List Nat := []
  /-- The live devices. -/
  devices : List Nat := []
  /-- The live sessions with their devices. -/
  sessions : List (Nat × Nat) := []
  /-- The live lists with their entries; an entry that is no view is none. -/
  lists : List (Nat × List (Option Nat)) := []
  /-- The live views. -/
  views : List (Nat × SimulatedView) := []
  /-- The number of statuses made. -/
  statuses : Nat := 0
  /-- How each status is rendered. -/
  renderings : List (Nat × SimulatedRendering) := []
deriving DecidableEq, Repr

/-! ## The record of a call -/

/-- A number of a thing. -/
def numberText (n : Nat) : String := s!"#{n}"

/-- A number that may be null. -/
def nullableText (mark : String) : Option Nat → String
  | some n => mark ++ numberText n
  | none => "null"

/-- An allocator. -/
def Allocator.text : Allocator → String
  | system => "system"
  | ofInstance => "instance"

/-- The number of a status and nothing else of it. -/
def statusText (word : StatusWord) : String := s!"S{word.toNat / 32}"

/-- The marks of options. -/
def markText (marks : List (Bool × String)) : String :=
  "+".intercalate ((marks.filter Prod.fst).map Prod.snd)

/-- The greatest number of bytes that are written out. -/
def longestBytes : Nat := 32

/-- Bytes in hexadecimal, or only their number if there are many. -/
def bytesText (bytes : List UInt8) : String :=
  if longestBytes < bytes.length then s!"<{bytes.length} bytes>"
  else
    String.ofList (bytes.flatMap fun b =>
      [Nat.digitChar (b.toNat / 16), Nat.digitChar (b.toNat % 16)])

/-- A native code in eight hexadecimal digits. -/
def codeText (code : UInt32) : String :=
  let digits := hexDigits code.toNat
  "0x" ++ String.ofList (List.replicate (8 - digits.length) '0' ++ digits)

/-- The parameters of a buffer. -/
def BufferParams.text (p : BufferParams) : String :=
  s!"usage={p.usage} access={p.access} type={p.memoryType} " ++
    s!"affinity={p.affinity} align={p.alignment}"

/-- The arguments of a call. -/
def NativeOp.arguments : NativeOp → List String
  | malloc allocator length => [allocator.text, toString length]
  | free allocator _ => [allocator.text]
  | freeStatus status => [statusText status]
  | renderStatus status allocator => [statusText status, allocator.text]
  | fillInstanceOptions _ | useAllDrivers _ | fillSessionOptions _ => []
  | createInstance options allocator =>
    [markText [(options.filled, "init"), (options.allDrivers, "all")], allocator.text]
  | releaseInstance n | hostAllocator n | vmInstance n | releaseSession n | sessionDevice n
  | sessionAllocator n | releaseList n | listSize n | releaseReference n | viewRank n | viewDims n
  | viewCode n | viewByteLength n | viewBuffer n | viewReference n | releaseDevice n =>
    [numberText n]
  | registerTypes vm | resolveTypes vm => ["vm" ++ numberText vm]
  | createDevice inst driver => [numberText inst, s!"\"{driver}\""]
  | createSession inst options device allocator =>
    [numberText inst, markText [(options.filled, "init")], numberText device, allocator.text]
  | appendModule session image allocator => [numberText session, bytesText image, allocator.text]
  | callByName session entry inputs outputs =>
    [numberText session, s!"\"{entry}\"", numberText inputs, numberText outputs]
  | createList typeBits capacity allocator =>
    [toString typeBits, toString capacity, allocator.text]
  | pushReference list reference => [numberText list, nullableText "" reference]
  | viewAt list index => [numberText list, toString index]
  | allocateView device allocator dims code encoding params data =>
    [nullableText "" device, nullableText "alloc" allocator, toString dims.length,
      "[" ++ ", ".intercalate (dims.map fun d => toString d.toNat) ++ "]", codeText code,
      toString encoding, params.text, bytesText data]
  | readBuffer buffer offset length =>
    ["buf" ++ numberText buffer, toString offset, toString length]

/-- A call as text. -/
def NativeOp.text (op : NativeOp) : String :=
  op.symbol ++ "(" ++ ", ".intercalate op.arguments ++ ")"

namespace Simulation

/-- The number of things that are live. -/
def live (s : Simulation) : Nat :=
  s.instances.length + s.devices.length + s.sessions.length + s.lists.length + s.views.length

/-- Puts another configuration in place and counts calls afresh. -/
def configure (s : Simulation) (config : SimulationConfig) : Simulation :=
  { s with config := config, counts := [] }

/-- Writes a call down, counts it, and finds the fault that applies to it. -/
def record (s : Simulation) (op : NativeOp) : Option SimulatedFault × Simulation :=
  let symbol := op.symbol
  let count := (s.counts.lookup symbol).getD 0 + 1
  let applies (f : SimulatedFault) : Bool := f.symbol == symbol && f.nth.all (· == count)
  (s.config.faults.find? applies,
    { s with
      calls := s.calls ++ [op.text]
      counts := (symbol, count) :: s.counts })

/-- Makes a status. -/
def makeStatus (s : Simulation) (code : Nat) (rendering : SimulatedRendering) :
    StatusWord × Simulation :=
  let k := s.statuses + 1
  (UInt64.ofNat (32 * k + code % 32),
    { s with statuses := k, renderings := (k, rendering) :: s.renderings })

/-- Hands out a number. -/
def nextNumber (s : Simulation) : Nat × Simulation :=
  (s.lastNumber + 1, { s with lastNumber := s.lastNumber + 1 })

/-- What a function that makes something replies: a fault leaves the address null or fails, and
otherwise the thing is made. -/
def produce (fault : Option SimulatedFault) (make : Simulation → Produced × Simulation)
    (s : Simulation) : Produced × Simulation :=
  match fault with
  | none => make s
  | some f =>
    if f.null then (⟨none, none⟩, s)
    else
      let (status, s) := s.makeStatus f.code f.rendering
      (⟨some status, none⟩, s)

/-- What a function that replies with a status alone does: a fault that fails makes it fail. -/
def succeed (fault : Option SimulatedFault) (act : Simulation → Option StatusWord × Simulation)
    (s : Simulation) : Option StatusWord × Simulation :=
  match fault.filter (!·.null) with
  | none => act s
  | some f =>
    let (status, s) := s.makeStatus f.code f.rendering
    (some status, s)

/-- A result with a new number. -/
def numbered (keep : Nat → Simulation → Simulation) (s : Simulation) : Produced × Simulation :=
  let (n, s) := s.nextNumber
  (⟨none, some n⟩, keep n s)

/-! ## Views and lists -/

/-- Adds one reference to a view. -/
def addReference (s : Simulation) (view : Nat) : Simulation :=
  { s with views :=
      Memory.updateAt view (fun v => { v with references := v.references + 1 }) s.views }

/-- Drops one reference to a view, which goes with the last one. -/
def dropReference (s : Simulation) (view : Nat) : Simulation :=
  let views :=
    Memory.updateAt view (fun v => { v with references := v.references - 1 }) s.views
  { s with views := views.filter fun entry => 0 < entry.2.references }

/-- The entries of a list. -/
def entriesOf (s : Simulation) (list : Nat) : List (Option Nat) :=
  (s.lists.lookup list).getD []

/-- Puts entries behind those of a list. -/
def extendList (s : Simulation) (list : Nat) (entries : List (Option Nat)) : Simulation :=
  { s with lists := Memory.updateAt list (· ++ entries) s.lists }

/-- Makes a view with one reference. -/
def addView (s : Simulation) (code : UInt32) (dims : List UInt64) (data : List UInt8)
    (byteLength : Option UInt64) (hidesDims : Bool) : Nat × Simulation :=
  let (n, s) := s.nextNumber
  let view : SimulatedView :=
    ⟨code, dims, data, byteLength.getD (UInt64.ofNat data.length), hidesDims, 1⟩
  (n, { s with views := (n, view) :: s.views })

/-- The view with a number. -/
def view (s : Simulation) (n : Nat) : SimulatedView :=
  (s.views.lookup n).getD ⟨0, [], [], 0, false, 0⟩

/-! ## Entry points -/

/-- Makes one output. -/
def output (s : Simulation) (inputs : List (Option Nat)) :
    SimulatedOutput → Option Nat × Simulation
  | .noView => (none, s)
  | .input index =>
    match inputs[index]? with
    | some (some n) => (some n, s.addReference n)
    | _ => (none, s)
  | .view code dims data byteLength hidesDims =>
    let (n, s) := s.addView code dims data byteLength hidesDims
    (some n, s)

/-- Makes outputs in order. -/
def outputs (s : Simulation) (inputs : List (Option Nat)) :
    List SimulatedOutput → List (Option Nat) × Simulation
  | [] => ([], s)
  | o :: rest =>
    let (entry, s) := s.output inputs o
    let (entries, s) := s.outputs inputs rest
    (entry :: entries, s)

/-- What an entry point returns, given how many inputs it has: the configuration comes first, then
the functions that are always there. -/
def outputsOf? (config : SimulationConfig) (entry : String) (inputs : Nat) :
    Option (List SimulatedOutput) :=
  match config.entries.lookup entry with
  | some l => some l
  | none =>
    let function := Memory.functionName entry
    if function = "identity" then some ((List.range inputs).map .input)
    else if function = "discard" then some []
    else if function = "int8" then some [.view int8Code [1] [7] none false]
    else if function = "opaque" then some [.noView]
    else none

/-- Calls an entry point. -/
def callByName (s : Simulation) (entry : String) (inputs outputs : Nat) :
    Option StatusWord × Simulation :=
  let entries := s.entriesOf inputs
  match outputsOf? s.config entry entries.length with
  | some l =>
    let (results, s) := s.outputs entries l
    (none, s.extendList outputs results)
  | none =>
    let text := s!"function '{entry}' not found"
    let (status, s) := s.makeStatus 5 (.bytes (Utf8.encode text))
    (some status, s)

/-- Makes a device, if the driver is there. -/
def createDevice (s : Simulation) (driver : String) : Produced × Simulation :=
  if s.config.drivers.contains driver then
    s.numbered fun n s => { s with devices := n :: s.devices }
  else
    let text := s!"driver '{driver}' not registered"
    let (status, s) := s.makeStatus 5 (.bytes (Utf8.encode text))
    (⟨some status, none⟩, s)

/-- Moves a reference into a list.  A push that fails leaves the reference, unless it consumes it
all the same. -/
def pushReference (fault : Option SimulatedFault) (list : Nat) (reference : Option Nat)
    (s : Simulation) : Produced × Simulation :=
  match fault.filter (!·.null) with
  | none => (⟨none, none⟩, s.extendList list [reference])
  | some f =>
    let (status, s) := s.makeStatus f.code f.rendering
    match reference with
    | some n =>
      if f.consume then (⟨some status, none⟩, s.dropReference n)
      else (⟨some status, reference⟩, s)
    | none => (⟨some status, none⟩, s)

/-- How a status is rendered. -/
def rendering (s : Simulation) (status : StatusWord) : Rendering :=
  match s.renderings.lookup (status.toNat / 32) with
  | some (.bytes text) => .buffer (status.toNat / 32) text
  | some .noBuffer => .noBuffer
  | some .failed | none => .failed

/-! ## The functions -/

/-- How the runtime answers each function, given the fault that applies to the call. -/
def respond (fault : Option SimulatedFault) : (op : NativeOp) → Simulation → op.Reply × Simulation
  | .malloc _ _, s => produce fault (fun s => (⟨none, some 1⟩, s)) s
  | .free _ _, s => ((), s)
  | .freeStatus _, s => ((), s)
  | .renderStatus status _, s => (s.rendering status, s)
  | .fillInstanceOptions options, s => ({ options with filled := true }, s)
  | .useAllDrivers options, s => ({ options with allDrivers := true }, s)
  | .createInstance _ _, s =>
    produce fault (numbered fun n s => { s with instances := n :: s.instances }) s
  | .releaseInstance n, s => ((), { s with instances := s.instances.erase n })
  | .hostAllocator _, s => (.ofInstance, s)
  | .vmInstance n, s => (if fault.any (·.null) then none else some n, s)
  | .createDevice _ driver, s => produce fault (fun s => s.createDevice driver) s
  | .registerTypes _, s => succeed fault (fun s => (none, s)) s
  | .resolveTypes _, s => succeed fault (fun s => (none, s)) s
  | .fillSessionOptions options, s => ({ options with filled := true }, s)
  | .createSession _ _ device _, s =>
    produce fault (numbered fun n s => { s with sessions := (n, device) :: s.sessions }) s
  | .releaseSession n, s => ((), { s with sessions := Memory.eraseAt n s.sessions })
  | .sessionDevice n, s => (s.sessions.lookup n, s)
  | .sessionAllocator n, s => (some n, s)
  | .appendModule .., s => succeed fault (fun s => (none, s)) s
  | .callByName _ entry inputs outputs, s =>
    succeed fault (fun s => s.callByName entry inputs outputs) s
  | .createList .., s =>
    produce fault (numbered fun n s => { s with lists := (n, []) :: s.lists }) s
  | .releaseList n, s =>
    let entries := s.entriesOf n
    ((), (entries.filterMap id).foldl dropReference
      { s with lists := Memory.eraseAt n s.lists })
  | .pushReference list reference, s => pushReference fault list reference s
  | .listSize n, s => ((s.entriesOf n).length, s)
  | .viewAt list index, s => ((s.entriesOf list)[index]?.join, s)
  | .releaseReference n, s => ((), s.dropReference n)
  | .allocateView _ _ dims code _ _ data, s =>
    produce fault (fun s =>
      let (n, s) := s.addView code dims data none false
      (⟨none, some n⟩, s)) s
  | .viewRank n, s => ((s.view n).dims.length, s)
  | .viewDims n, s => (if (s.view n).hidesDims then none else some (s.view n).dims, s)
  | .viewCode n, s => ((s.view n).code, s)
  | .viewByteLength n, s => ((s.view n).byteLength, s)
  | .viewBuffer n, s => (if fault.any (·.null) then none else some n, s)
  | .viewReference n, s => (some n, s)
  | .readBuffer buffer offset length, s =>
    let (status, s) := succeed fault (fun s => (none, s)) s
    let bytes := if status.isSome then [] else (s.view buffer).data.drop offset
    ((status, Memory.fitBytes length bytes), s)
  | .releaseDevice n, s => ((), { s with devices := s.devices.erase n })

/-- How the runtime answers each function. -/
def handle (op : NativeOp) (s : Simulation) : op.Reply × Simulation :=
  let (fault, s) := s.record op
  respond fault op s

end Simulation

end TensorBridge
