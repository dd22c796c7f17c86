import TensorBridge.Error
import TensorBridge.Library.Format

/-!
# Notices

What the bridge tells while it works, apart from results and failures.  A notice has a level, a
sentence and fields.  What is told only for debugging is left out.
-/

namespace TensorBridge

/-- How urgent a notice is. -/
inductive NoticeLevel where
  /-- Something happened as it should. -/
  | info
  /-- Something deserves attention. -/
  | warning
deriving DecidableEq, Repr

/-- The name of the level. -/
def NoticeLevel.name : NoticeLevel → String
  | info => "INFO"
  | warning => "WARN"

/-- A notice. -/
inductive Notice where
  /-- A driver gave no device and the next one is tried. -/
  | driverUnavailable (driver next : String) (error : BridgeError)
  /-- A session has its module. -/
  | moduleLoaded (backend driver : String) (moduleBytes : Nat)
  /-- A runtime library was opened. -/
  | libraryLoaded (path : String) (format : LibraryFormat) (rendersStatus : Bool)
  /-- A candidate could not be used. -/
  | candidateRejected (path : String) (error : BridgeError)
  /-- A runtime library is closed. -/
  | libraryUnloading (path : String)
  /-- The shared reference to a library is given up while others exist. -/
  | unloadWhileHeld (path : String) (holders : Nat)
deriving DecidableEq, Repr

namespace Notice

/-- The level of a notice. -/
def level : Notice → NoticeLevel
  | driverUnavailable .. | candidateRejected .. | unloadWhileHeld .. => .warning
  | moduleLoaded .. | libraryLoaded .. | libraryUnloading .. => .info

/-- The sentence of a notice. -/
def sentence : Notice → String
  | driverUnavailable .. => "Driver unavailable, falling back"
  | moduleLoaded .. => "Loaded module"
  | libraryLoaded .. => "Loaded IREE runtime library"
  | candidateRejected .. => "Rejected runtime candidate"
  | libraryUnloading .. => "Unloading IREE runtime library"
  | unloadWhileHeld .. =>
    "Unloading runtime with live sessions; it stays open until they are destroyed"

/-- The names and values of the fields of a notice. -/
def fields : Notice → List (String × String)
  | driverUnavailable driver next error =>
    [("driver", driver), ("next", next), ("error", error.message)]
  | moduleLoaded backend driver moduleBytes =>
    [("backend", backend), ("driver", driver), ("module_bytes", toString moduleBytes)]
  | libraryLoaded path format rendersStatus =>
    [("path", path), ("format", format.name),
      ("has_status_to_string", if rendersStatus then "true" else "false")]
  | candidateRejected path error => [("path", path), ("error", error.message)]
  | libraryUnloading path => [("path", path)]
  | unloadWhileHeld path holders => [("path", path), ("sessions", toString holders)]

/-- A notice as one line. -/
def text (n : Notice) : String :=
  n.level.name ++ " " ++ n.sentence ++ " |" ++
    String.join (n.fields.map fun f => " " ++ f.1 ++ "=" ++ f.2)

end Notice

end TensorBridge
