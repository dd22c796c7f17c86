import TensorBridge.ErrorChain
import TensorBridge.Host
import TensorBridge.Literal
import TensorBridge.RunFile.Basic
import TensorBridge.Text.Quoted

/-!
# Plans of runs

A plan is what is left to do when everything written down about a run has been checked: the module
and the library are there, the entry point is qualified, and the inputs are tensors.  The checks
are made in a fixed order, and the first that fails is reported.
-/

namespace TensorBridge

/-- A run that can be made. -/
structure RunPlan where
  /-- The runtime library to be tried first. -/
  library : Option String
  /-- The file of the module. -/
  modulePath : String
  /-- The entry point. -/
  entry : String
  /-- The inputs, in the order of the arguments. -/
  inputs : List Tensor
deriving DecidableEq, Repr

/-- Why a run cannot be made. -/
inductive RunPlanError where
  /-- No module is given. -/
  | noModule
  /-- There is no file of the module. -/
  | moduleNotFound (path : String)
  /-- No entry point is given. -/
  | noEntry
  /-- The entry point does not name a function in a module. -/
  | entryNotQualified (entry : String)
  /-- There is no file of the library. -/
  | libraryNotFound (path : String)
  /-- The input at an index is no literal of a tensor. -/
  | badInput (index : Nat) (error : TensorError)
deriving DecidableEq, Repr

/-- What is said about a run that cannot be made. -/
def RunPlanError.chain : RunPlanError → ErrorChain
  | noModule => ⟨"No module given; pass --module or set `module` in the config", []⟩
  | moduleNotFound path => ⟨s!"Module file not found: {quoted path}", []⟩
  | noEntry => ⟨"No entry point given; pass --entry or set `entry` in the config", []⟩
  | entryNotQualified entry =>
    ⟨s!"Entry point must be fully qualified as <module>.<function>, got {quoted entry}", []⟩
  | libraryNotFound path => ⟨s!"Runtime library not found: {quoted path}", []⟩
  | badInput index error =>
    ⟨s!"Input {index} is not a valid tensor literal", [error.message]⟩

namespace RunPlan

/-- Whether an entry point has a dot, and none at either end. -/
def isQualified (entry : String) : Bool :=
  entry.toList.contains '.' && entry.toList.head? != some '.' &&
    entry.toList.getLast? != some '.'

/-- Reads literals, the first of which has an index. -/
def readInputs : (index : Nat) → List String → Except RunPlanError (List Tensor)
  | _, [] => .ok []
  | index, literal :: rest =>
    match Tensor.parse literal with
    | .error e => .error (.badInput index e)
    | .ok tensor => (readInputs (index + 1) rest).map (tensor :: ·)

/-- Makes a plan of what is written down. -/
def ofRunFile (file : RunFile) : Program Host (Except RunPlanError RunPlan) :=
  ExceptT.run do
    let some modulePath := file.modulePath | throw .noModule
    unless ← Program.perform (I := Host) (.pathExists modulePath) do
      throw (.moduleNotFound modulePath)
    let some entry := file.entry | throw .noEntry
    unless isQualified entry do throw (.entryNotQualified entry)
    if let some library := file.library then
      unless ← Program.perform (I := Host) (.pathExists library) do
        throw (.libraryNotFound library)
    let inputs ← ExceptT.mk (pure (readInputs 0 file.inputs))
    return ⟨file.library, modulePath, entry, inputs⟩

end RunPlan

end TensorBridge
