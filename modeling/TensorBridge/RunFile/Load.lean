import TensorBridge.ErrorChain
import TensorBridge.Host
import TensorBridge.Json.Reader
import TensorBridge.Path
import TensorBridge.RunFile.Toml
import TensorBridge.Text.Utf8

/-!
# Loading run files

A run file is a JSON text if its name says so, and TOML otherwise.  A JSON run file is an object
whose members are the settings, or an array with the values of the settings in their order, from
which values at the end may be missing.  The module named in a run file is looked for from the
directory of the run file.
-/

namespace TensorBridge

/-! ## JSON -/

/-- The text of a JSON string. -/
def Json.string? : Json → Option String
  | string s => some s
  | _ => none

/-- A JSON value as a setting. -/
def Setting.ofJson? : Json → Option Setting
  | .null => some .absent
  | .string s => some (.text s)
  | .array elements => (elements.mapM Json.string?).map .texts
  | _ => none

/-- The run file that a JSON value describes. -/
def RunFile.ofJson? : Json → Option RunFile
  | .object members => do
    RunFile.ofSettings? (← members.mapM fun m => return (m.1, ← Setting.ofJson? m.2))
  | .array elements =>
    if elements.length ≤ RunFile.settingNames.length then do
      RunFile.ofSettings? (RunFile.settingNames.zip (← elements.mapM Setting.ofJson?))
    else
      none
  | _ => none

/-! ## Formats -/

/-- The formats of run files. -/
inductive RunFileFormat where
  /-- TOML. -/
  | toml
  /-- JSON. -/
  | json
deriving DecidableEq, Repr

namespace RunFileFormat

/-- The name of a format. -/
def name : RunFileFormat → String
  | toml => "TOML"
  | json => "JSON"

/-- The format of the file at a path. -/
def ofPath (path : String) : RunFileFormat :=
  if Path.extension? path = some "json" then json else toml

/-- Reads a text as a run file. -/
def read? : RunFileFormat → String → Option RunFile
  | toml, text => Toml.settings? text >>= RunFile.ofSettings?
  | json, text => Json.read? text.toList >>= RunFile.ofJson?

end RunFileFormat

/-! ## Loading -/

/-- Why a run file cannot be loaded. -/
inductive RunFileError where
  /-- The file cannot be read. -/
  | unreadable (path : String) (fault : FileFault)
  /-- The file is not UTF-8. -/
  | notText (path : String)
  /-- The text is not a run file of its format. -/
  | malformed (format : RunFileFormat)
deriving DecidableEq, Repr

/-- What is said about a run file that cannot be loaded. -/
def RunFileError.chain : RunFileError → ErrorChain
  | unreadable path fault => ⟨s!"Failed to read config file: {quoted path}", [fault.message]⟩
  | notText path =>
    ⟨s!"Failed to read config file: {quoted path}", ["stream did not contain valid UTF-8"]⟩
  | malformed format => ⟨s!"Failed to parse config as {format.name}", []⟩

namespace RunFile

/-- Takes the path of the module, if it is relative, from the directory of the run file. -/
def locate (file : RunFile) (path : String) : RunFile :=
  match file.modulePath, Path.parent? path with
  | some modulePath, some directory =>
    { file with modulePath := some (Path.join directory modulePath) }
  | _, _ => file

/-- The run file with the bytes of the file at a path. -/
def ofBytes (path : String) (bytes : List UInt8) : Except RunFileError RunFile :=
  match Utf8.decode? bytes with
  | none => .error (.notText path)
  | some text =>
    let format := RunFileFormat.ofPath path
    match format.read? text with
    | none => .error (.malformed format)
    | some file => .ok (file.locate path)

/-- Loads a run file. -/
def load (path : String) : Program Host (Except RunFileError RunFile) := do
  match ← Program.perform (I := Host) (.readFile path) with
  | .error fault => return .error (.unreadable path fault)
  | .ok bytes => return ofBytes path bytes

end RunFile

end TensorBridge
