/-!
# Run files

A run file names the runtime library, the module, the entry point and the inputs of a run.  Each of
them may be left out and come from somewhere else.  A run file is built from settings, which are
pairs of a name and a value; a name may be set only once and must be one of the four.
-/

namespace TensorBridge

/-- What is written down about a run. -/
structure RunFile where
  /-- The runtime library to be tried first. -/
  library : Option String := none
  /-- The file of the module. -/
  modulePath : Option String := none
  /-- The entry point. -/
  entry : Option String := none
  /-- The inputs as literals, in the order of the arguments. -/
  inputs : List String := []
deriving DecidableEq, Repr

/-- The value of a setting. -/
inductive Setting where
  /-- Nothing is set. -/
  | absent
  /-- One text. -/
  | text (s : String)
  /-- A list of texts. -/
  | texts (l : List String)
deriving DecidableEq, Repr

namespace RunFile

/-- Lays another run file over this one: what is given there counts.  Inputs are taken from one of
the two as a whole. -/
def merge (file overrides : RunFile) : RunFile where
  library := overrides.library <|> file.library
  modulePath := overrides.modulePath <|> file.modulePath
  entry := overrides.entry <|> file.entry
  inputs := if overrides.inputs.isEmpty then file.inputs else overrides.inputs

/-- The names of the settings, in the order in which they are listed. -/
def settingNames : List String := ["library", "module", "entry", "inputs"]

/-- Takes over one setting. -/
def set? (file : RunFile) : String × Setting → Option RunFile
  | ("library", .text s) => some { file with library := some s }
  | ("module", .text s) => some { file with modulePath := some s }
  | ("entry", .text s) => some { file with entry := some s }
  | ("inputs", .texts l) => some { file with inputs := l }
  | ("library", .absent) | ("module", .absent) | ("entry", .absent) => some file
  | _ => none

/-- The run file with the given settings. -/
def ofSettings? (settings : List (String × Setting)) : Option RunFile :=
  if (settings.map Prod.fst).Nodup then settings.foldlM set? {} else none

end RunFile

end TensorBridge
