import TensorBridge.Tensor
import TensorBridge.Status

/-!
# Failures of the bridge

Everything that can go wrong between finding the runtime library and reading the last result.
Three questions can be asked of a failure: whether the runtime could not be opened at all, whether
an argument was refused before the runtime saw it, and which status code it carries.
-/

namespace TensorBridge

/-- The environment variable that names the runtime library. -/
def libraryVariable : String := "IREE_BRIDGE_RUNTIME_LIB"

/-- The environment variable that makes the runtime unavailable. -/
def disableVariable : String := "IREE_BRIDGE_DISABLE"

/-- A failure of the bridge. -/
inductive BridgeError where
  /-- The runtime cannot be used as things are configured. -/
  | unavailable (reason : String)
  /-- None of the candidate paths could be opened. -/
  | libraryNotFound (tried : List String)
  /-- A library could not be opened; the detail is the system's. -/
  | loadFailed (path detail : String)
  /-- A library lacks a required symbol. -/
  | symbolNotFound (path symbol : String)
  /-- An argument was refused before anything was handed to the runtime. -/
  | invalidArgument (name reason : String)
  /-- An element type outside the six. -/
  | unsupportedElementType (code : Int64)
  /-- The runtime reported a failure. -/
  | status (call : String) (code : StatusCode) (message : String)
  /-- Memory on the host ran out. -/
  | resourceExhausted (what : String)
  /-- An output is not a buffer view. -/
  | missingOutput (index : Nat)
deriving DecidableEq, Repr

namespace BridgeError

/-- The sixteen hexadecimal digits or fewer of the two's complement of a code. -/
def hexCode (code : Int64) : String :=
  "0x" ++ String.ofList (Nat.toDigits 16 code.toUInt64.toNat)

/-- The candidate paths of a search that found nothing. -/
def triedText (tried : List String) : String :=
  if tried.isEmpty then "no candidates" else ", ".intercalate tried

/-- The text of the failure. -/
def message : BridgeError → String
  | unavailable reason => s!"Runtime unavailable: {reason}"
  | libraryNotFound tried =>
    s!"Unable to load the IREE runtime library (tried {triedText tried}); set {libraryVariable}"
  | loadFailed path detail => s!"Failed to load library '{path}': {detail}"
  | symbolNotFound path symbol => s!"Symbol '{symbol}' not found in library '{path}'"
  | invalidArgument name reason => s!"Invalid argument '{name}': {reason}"
  | unsupportedElementType code => s!"Unsupported element type code {hexCode code}"
  | status call code message => s!"{call} failed ({code.name}): {message}"
  | resourceExhausted what => s!"Out of memory: {what}"
  | missingOutput index => s!"Missing output buffer view at index {index}"

/-- Whether the runtime could not be located or opened at all. -/
def isUnavailable : BridgeError → Bool
  | unavailable _ | libraryNotFound _ | loadFailed _ _ | symbolNotFound _ _ => true
  | _ => false

/-- Whether the failure is of the kinds that describe refused arguments. -/
def isInvalidInput : BridgeError → Bool
  | invalidArgument _ _ | unsupportedElementType _ => true
  | _ => false

/-- The status code that the failure carries. -/
def statusCode? : BridgeError → Option StatusCode
  | status _ code _ => some code
  | resourceExhausted _ => some .resourceExhausted
  | _ => none

/-- The failure that a faulty tensor amounts to. -/
def ofTensorError : TensorError → BridgeError
  | .unsupportedElementType code => unsupportedElementType code
  | e => invalidArgument "tensor" e.message

end BridgeError

end TensorBridge
