import TensorBridge.Path

/-!
# Formats of shared libraries

The format of a library is told from the extension of its path.  Each format has a conventional
file name for the runtime library.  The platform is taken to be one with shared objects.
-/

namespace TensorBridge

/-- The format of a shared library. -/
inductive LibraryFormat where
  /-- Dynamic link library. -/
  | dll
  /-- Shared object. -/
  | so
  /-- Dynamic library. -/
  | dylib
  /-- Any other file. -/
  | unknown
deriving DecidableEq, Repr

namespace LibraryFormat

/-- The format that the extension of a path tells; only one extension may be in capitals. -/
def ofPath (path : String) : LibraryFormat :=
  match Path.extension? path with
  | some "dll" | some "DLL" => dll
  | some "so" => so
  | some "dylib" => dylib
  | _ => unknown

/-- The name of the format. -/
def name : LibraryFormat → String
  | dll => "Dll"
  | so => "So"
  | dylib => "Dylib"
  | unknown => "Unknown"

/-- The conventional file names of the runtime library. -/
def conventionalNames : LibraryFormat → List String
  | dll => ["iree_runtime.dll"]
  | so => ["libiree_runtime.so"]
  | dylib => ["libiree_runtime.dylib"]
  | unknown => ["libiree_runtime.dylib", "libiree_runtime.so", "iree_runtime.dll"]

/-- The format of the platform. -/
def native : LibraryFormat := so

end LibraryFormat

end TensorBridge
