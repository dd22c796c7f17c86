import TensorBridge.Simulation.Basic
import TensorBridge.FileTree
import TensorBridge.Library.Basic

/-!
# A simulated host

A host with a tree of files, among them libraries that all lead to one simulated runtime.  The
libraries differ in the symbols they export.  A library is opened only by a path with a slash in
it, which may end with a null character.
-/

namespace TensorBridge

/-- The directory of the libraries. -/
def libraryDirectory : String := "sim"

/-- The names of the libraries and the symbols that each exports. -/
def simulatedLibraries : List (String × List String) :=
  let all := requiredSymbols ++ [renderSymbol]
  [("full.so", all), ("other.so", all), ("norender.so", requiredSymbols),
    ("two_missing.so",
      all.filter fun s => s != "iree_hal_device_release" && s != "iree_vm_list_size"),
    ("empty.so", [])] ++
    requiredSymbols.map fun missing => (s!"no_{missing}.so", all.filter (· != missing))

/-- The files of the libraries, with a file that is no library and a directory that goes by the
name of one. -/
def libraryFiles : List (List String × FileNode) :=
  (simulatedLibraries.map fun l =>
    ([libraryDirectory, l.1], FileNode.file [0x7f, 0x45, 0x4c, 0x46, 0xff])) ++
    [([libraryDirectory, "garbage.so"], .file (Utf8.encode "not a library\n")),
      ([libraryDirectory, "dir.so"], .directory)]

/-- A host with files, a runtime and what has been printed. -/
structure SimulatedHost where
  /-- The files. -/
  files : FileTree := ⟨libraryFiles⟩
  /-- The runtime behind the libraries. -/
  runtime : Simulation := {}
  /-- The texts printed so far, in order. -/
  printed : List String := []
deriving DecidableEq, Repr

namespace SimulatedHost

/-- The reason why a library cannot be opened. -/
def loadFault : String := "<os>"

/-- A path as it is looked up: a null character ends it, and one that is there already is not part
of the name. -/
def unterminated (path : String) : String :=
  if path.toList.getLast? = some '\x00' then String.ofList path.toList.dropLast else path

/-- The symbols exported by the library at a path. -/
def exportsAt? (h : SimulatedHost) (path : String) : Option (List String) :=
  let path := unterminated path
  if path.toList.contains '/' then
    match h.files.walk path with
    | .ok ⟨0, [directory, name]⟩ =>
      if directory = libraryDirectory ∧ path.toList.getLast? ≠ some '/' then
        simulatedLibraries.lookup name
      else
        none
    | _ => none
  else
    none

/-- How the host answers each operation. -/
def handle : (op : HostOp) → SimulatedHost → op.Reply × SimulatedHost
  | .openLibrary _ path, h =>
    (match h.exportsAt? path with
      | some exported => .ok exported
      | none => .error loadFault, h)
  | .closeLibrary _, h => ((), h)
  | .native _ op, h =>
    let (reply, runtime) := Simulation.handle op h.runtime
    (reply, { h with runtime := runtime })
  | .readFile path, h => (h.files.read path, h)
  | .pathExists path, h => (h.files.contains path, h)
  | .print text, h => ((), { h with printed := h.printed ++ [text] })

end SimulatedHost

end TensorBridge
