import TensorBridge.Backend

/-!
# The native functions

The functions that a runtime library exports, as operations with their arguments and replies.  A
native function reports failure by a status word, which then has to be freed; it hands out things
through addresses, which may be null in spite of success.  `requiredSymbols` is the table of the
symbols that a library must export.

Addresses and lengths are natural numbers without a limit, as they are for `Backend`; that an
address is null is said by an option.  Status words, dimensions and codes of element types keep
their width.
-/

namespace TensorBridge

/-- A status other than success: a word whose lowest five bits are a code. -/
abbrev StatusWord := UInt64

/-- Where the native runtime gets memory from. -/
inductive Allocator where
  /-- The allocator of the system. -/
  | system
  /-- The allocator of an instance. -/
  | ofInstance
deriving DecidableEq, Repr

/-- Options of an instance. -/
structure InstanceOptions where
  /-- Whether the defaults have been filled in. -/
  filled : Bool := false
  /-- Whether all drivers are to be known. -/
  allDrivers : Bool := false
deriving DecidableEq, Repr

/-- Options of a session. -/
structure SessionOptions where
  /-- Whether the defaults have been filled in. -/
  filled : Bool := false
deriving DecidableEq, Repr

/-- How a device buffer is to be allocated. -/
structure BufferParams where
  /-- What the buffer is used for. -/
  usage : Nat
  /-- Which accesses are allowed. -/
  access : Nat
  /-- The kind of memory. -/
  memoryType : Nat
  /-- The queues that will use it; zero stands for any. -/
  affinity : Nat
  /-- The least alignment; zero stands for the default. -/
  alignment : Nat
deriving DecidableEq, Repr

/-- Buffers in device memory, for transfers and dispatches, with all accesses allowed. -/
def BufferParams.deviceLocal : BufferParams := ⟨3075, 7, 48, 0, 0⟩

/-- The code of the dense row-major encoding. -/
def denseRowMajor : Nat := 1

/-- The bits of the list type whose entries can be anything. -/
def anyListType : Nat := 0

/-- What a function with a status and an address as results replies. -/
structure Produced where
  /-- The status, unless the function succeeded. -/
  status : Option StatusWord
  /-- The address, unless it is null. -/
  address : Option Nat
deriving DecidableEq, Repr

/-- What the rendering of a status replies. -/
inductive Rendering where
  /-- It could not be rendered. -/
  | failed
  /-- It was rendered, but there is no buffer. -/
  | noBuffer
  /-- The text, in a buffer that has to be freed. -/
  | buffer (address : Nat) (bytes : List UInt8)
deriving DecidableEq, Repr

/-- The native functions. -/
inductive NativeOp where
  /-- Allocates memory. -/
  | malloc (allocator : Allocator) (length : Nat)
  /-- Frees memory. -/
  | free (allocator : Allocator) (address : Nat)
  /-- Frees a status. -/
  | freeStatus (status : StatusWord)
  /-- Renders a status as text. -/
  | renderStatus (status : StatusWord) (allocator : Allocator)
  /-- Fills in the default options of an instance. -/
  | fillInstanceOptions (options : InstanceOptions)
  /-- Asks for all drivers. -/
  | useAllDrivers (options : InstanceOptions)
  /-- Makes an instance. -/
  | createInstance (options : InstanceOptions) (allocator : Allocator)
  /-- Releases an instance. -/
  | releaseInstance (inst : Nat)
  /-- The allocator of an instance. -/
  | hostAllocator (inst : Nat)
  /-- The virtual machine of an instance. -/
  | vmInstance (inst : Nat)
  /-- Makes a device of a driver. -/
  | createDevice (inst : Nat) (driver : String)
  /-- Registers the types that devices need with a virtual machine. -/
  | registerTypes (vm : Nat)
  /-- Looks the registered types up. -/
  | resolveTypes (vm : Nat)
  /-- Fills in the default options of a session. -/
  | fillSessionOptions (options : SessionOptions)
  /-- Makes a session. -/
  | createSession (inst : Nat) (options : SessionOptions) (device : Nat) (allocator : Allocator)
  /-- Releases a session. -/
  | releaseSession (session : Nat)
  /-- The device of a session. -/
  | sessionDevice (session : Nat)
  /-- The device allocator of a session. -/
  | sessionAllocator (session : Nat)
  /-- Appends a module; the session owns the bytes from then on. -/
  | appendModule (session : Nat) (image : List UInt8) (allocator : Allocator)
  /-- Calls an entry point. -/
  | callByName (session : Nat) (entry : String) (inputs outputs : Nat)
  /-- Makes a list. -/
  | createList (typeBits capacity : Nat) (allocator : Allocator)
  /-- Releases a list. -/
  | releaseList (list : Nat)
  /-- Moves a reference into a list.  The reply holds what is left of the reference. -/
  | pushReference (list : Nat) (reference : Option Nat)
  /-- Counts the entries of a list. -/
  | listSize (list : Nat)
  /-- Borrows the view at a position of a list. -/
  | viewAt (list index : Nat)
  /-- Releases a reference. -/
  | releaseReference (reference : Nat)
  /-- Makes a view of a new buffer with a copy of the data. -/
  | allocateView (device allocator : Option Nat) (dims : List UInt64) (code : UInt32)
      (encoding : Nat) (params : BufferParams) (data : List UInt8)
  /-- The number of dimensions of a view. -/
  | viewRank (view : Nat)
  /-- The dimensions of a view. -/
  | viewDims (view : Nat)
  /-- The native code of the element type of a view. -/
  | viewCode (view : Nat)
  /-- The number of bytes of a view. -/
  | viewByteLength (view : Nat)
  /-- The buffer of a view. -/
  | viewBuffer (view : Nat)
  /-- Turns a view into a reference. -/
  | viewReference (view : Nat)
  /-- Reads bytes of a buffer into zeroed memory. -/
  | readBuffer (buffer offset length : Nat)
  /-- Releases a device. -/
  | releaseDevice (device : Nat)
deriving DecidableEq, Repr

namespace NativeOp

/-- What each function replies. -/
abbrev Reply : NativeOp → Type
  | malloc .. | createInstance .. | createDevice .. | createSession .. | createList ..
  | pushReference .. | allocateView .. => Produced
  | free .. | freeStatus _ | releaseInstance _ | releaseSession _ | releaseList _
  | releaseReference _ | releaseDevice _ => Unit
  | renderStatus .. => Rendering
  | fillInstanceOptions _ | useAllDrivers _ => InstanceOptions
  | fillSessionOptions _ => SessionOptions
  | hostAllocator _ => Allocator
  | vmInstance _ | sessionDevice _ | sessionAllocator _ | viewAt .. | viewBuffer _
  | viewReference _ => Option Nat
  | registerTypes _ | resolveTypes _ | appendModule .. | callByName .. => Option StatusWord
  | listSize _ | viewRank _ => Nat
  | viewDims _ => Option (List UInt64)
  | viewCode _ => UInt32
  | viewByteLength _ => UInt64
  | readBuffer _ _ length => Option StatusWord × Bytes length

/-- The symbol under which a library exports the function. -/
def symbol : NativeOp → String
  | malloc .. => "iree_allocator_malloc"
  | free .. => "iree_allocator_free"
  | freeStatus _ => "iree_status_free"
  | renderStatus .. => "iree_status_to_string"
  | fillInstanceOptions _ => "iree_runtime_instance_options_initialize"
  | useAllDrivers _ => "iree_runtime_instance_options_use_all_available_drivers"
  | createInstance .. => "iree_runtime_instance_create"
  | releaseInstance _ => "iree_runtime_instance_release"
  | hostAllocator _ => "iree_runtime_instance_host_allocator"
  | vmInstance _ => "iree_runtime_instance_vm_instance"
  | createDevice .. => "iree_runtime_instance_try_create_default_device"
  | registerTypes _ => "iree_hal_module_register_all_types"
  | resolveTypes _ => "iree_hal_module_resolve_all_types"
  | fillSessionOptions _ => "iree_runtime_session_options_initialize"
  | createSession .. => "iree_runtime_session_create_with_device"
  | releaseSession _ => "iree_runtime_session_release"
  | sessionDevice _ => "iree_runtime_session_device"
  | sessionAllocator _ => "iree_runtime_session_device_allocator"
  | appendModule .. => "iree_runtime_session_append_bytecode_module_from_memory"
  | callByName .. => "iree_runtime_session_call_by_name"
  | createList .. => "iree_vm_list_create"
  | releaseList _ => "iree_vm_list_release"
  | pushReference .. => "iree_vm_list_push_ref_move"
  | listSize _ => "iree_vm_list_size"
  | viewAt .. => "iree_vm_list_get_buffer_view_assign"
  | releaseReference _ => "iree_vm_ref_release"
  | allocateView .. => "iree_hal_buffer_view_allocate_buffer_copy"
  | viewRank _ => "iree_hal_buffer_view_shape_rank"
  | viewDims _ => "iree_hal_buffer_view_shape_dims"
  | viewCode _ => "iree_hal_buffer_view_element_type"
  | viewByteLength _ => "iree_hal_buffer_view_byte_length"
  | viewBuffer _ => "iree_hal_buffer_view_buffer"
  | viewReference _ => "iree_hal_buffer_view_move_ref"
  | readBuffer .. => "iree_hal_buffer_map_read"
  | releaseDevice _ => "iree_hal_device_release"

end NativeOp

/-- The interface of the native functions. -/
abbrev Native : Interface := ⟨NativeOp, NativeOp.Reply⟩

/-! ## Symbols -/

/-- The symbol of the function that renders a status, which a library may lack. -/
def renderSymbol : String := "iree_status_to_string"

/-- The symbols that a library must export, in the order in which they are looked up.  The first
is the control function of the system allocator, which is handed on and never called here. -/
def requiredSymbols : List String := [
  "iree_allocator_system_ctl",
  "iree_allocator_malloc",
  "iree_allocator_free",
  "iree_status_free",
  "iree_runtime_instance_options_initialize",
  "iree_runtime_instance_options_use_all_available_drivers",
  "iree_runtime_instance_create",
  "iree_runtime_instance_release",
  "iree_runtime_instance_host_allocator",
  "iree_runtime_instance_vm_instance",
  "iree_runtime_instance_try_create_default_device",
  "iree_hal_module_register_all_types",
  "iree_hal_module_resolve_all_types",
  "iree_runtime_session_options_initialize",
  "iree_runtime_session_create_with_device",
  "iree_runtime_session_release",
  "iree_runtime_session_device",
  "iree_runtime_session_device_allocator",
  "iree_runtime_session_append_bytecode_module_from_memory",
  "iree_runtime_session_call_by_name",
  "iree_vm_list_create",
  "iree_vm_list_release",
  "iree_vm_list_push_ref_move",
  "iree_vm_list_size",
  "iree_vm_list_get_buffer_view_assign",
  "iree_vm_ref_release",
  "iree_hal_buffer_view_allocate_buffer_copy",
  "iree_hal_buffer_view_shape_rank",
  "iree_hal_buffer_view_shape_dims",
  "iree_hal_buffer_view_element_type",
  "iree_hal_buffer_view_byte_length",
  "iree_hal_buffer_view_buffer",
  "iree_hal_buffer_view_move_ref",
  "iree_hal_buffer_map_read",
  "iree_hal_device_release"]

theorem NativeOp.symbol_mem (op : NativeOp) : op.symbol ∈ renderSymbol :: requiredSymbols := by
  cases op <;> simp [symbol, renderSymbol, requiredSymbols]

end TensorBridge
