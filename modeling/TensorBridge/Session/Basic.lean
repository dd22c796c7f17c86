import TensorBridge.Session.Marshal
import TensorBridge.Session.Stage
import TensorBridge.Text.Quoted

/-!
# Sessions

A session is built in four steps: an instance, a device of the first driver that has one, a native
session, and the module.  When a step fails, what the earlier steps made is given back, the newest
first; `Session.destroy` gives everything back in the same order.

An invocation puts its inputs into one list, calls the entry point and reads the results from
another list; both lists are given back whatever happens, the result list first.
-/

namespace TensorBridge

/-- The drivers that are tried if the caller names none. -/
def defaultDrivers : List String := ["local-task", "local-sync"]

/-- The capacity with which the list of results starts. -/
def resultCapacity : Nat := 4

/-- A session with one module, ready to be invoked. -/
structure Session where
  /-- The instance. -/
  inst : Handle .runtimeInstance
  /-- The device. -/
  device : Handle .device
  /-- The native session. -/
  session : Handle .session
  /-- The driver that gave the device. -/
  driver : String
  /-- How far the construction has come. -/
  stage : Stage
  /-- The number of invocations that succeeded.  That a counter of 64 bits comes to its end is left
  out. -/
  invocations : Nat
deriving DecidableEq, Repr

namespace Session

/-- Makes a device of the first driver that has one.  If none has, the failure of the last one
stands. -/
def selectDevice (inst : Handle .runtimeInstance) :
    List String → Action Backend (Handle .device × String)
  | [] => throw (.unavailable "no device drivers configured")
  | [driver] => do
    let device ← .ofProgram (Backend.createDevice inst driver)
    return (device, driver)
  | driver :: next :: rest => .ofProgram do
    match ← Backend.createDevice inst driver with
    | .ok device => return .ok (device, driver)
    | .error e =>
      Program.notify (.driverUnavailable driver next e)
      (selectDevice inst (next :: rest)).run

/-- The last step: loads the module. -/
def loadModule (description : String) (image : List UInt8) (inst : Handle .runtimeInstance)
    (device : Handle .device) (driver : String) (session : Handle .session) (stage : Stage) :
    Action Backend Session := do
  Backend.appendModule session image
  .always (.notify (.moduleLoaded description driver image.length))
  return ⟨inst, device, session, driver, stage.advance, 0⟩

/-- Builds a session with a module on a runtime that goes by a description. -/
def create (description : String) (image : List UInt8) (drivers : List String) :
    Action Backend Session := do
  if image.isEmpty then
    throw (.invalidArgument "module" "module image is empty")
  let stage := Stage.uninitialized
  let inst ← Backend.createInstance
  let stage := stage.advance
  (do
    let (device, driver) ← selectDevice inst drivers
    let stage := stage.advance
    (do
      let session ← Backend.createSession inst device
      let stage := stage.advance
      (loadModule description image inst device driver session stage).onFailure
        (Backend.releaseSession session)).onFailure
      (Backend.releaseDevice device)).onFailure
    (Backend.releaseInstance inst)

/-- Gives everything back, the newest first. -/
def destroy (s : Session) : Program Backend Unit := do
  Backend.releaseSession s.session
  Backend.releaseDevice s.device
  Backend.releaseInstance s.inst

/-! ## Invocation -/

/-- Pushes the inputs, calls the entry point and reads the results. -/
def exchange (session : Handle .session) (entry : String) (inputs : List Tensor)
    (inputList outputList : Handle .list) : Action Backend (List Tensor) := do
  Marshal.pushInputs session inputList inputs
  Backend.call session entry inputList outputList
  Marshal.readOutputs outputList

/-- Calls an entry point with inputs that have been checked. -/
def callEntry (session : Handle .session) (entry : String) (inputs : List Tensor) :
    Action Backend (List Tensor) := do
  let inputList ← Backend.createList inputs.length
  (do
    let outputList ← Backend.createList resultCapacity
    (exchange session entry inputs inputList outputList).andThen
      (Backend.releaseList outputList)).andThen
    (Backend.releaseList inputList)

/-- Checks the name of an entry point and the inputs. -/
def checkArguments (entry : String) (inputs : List Tensor) : Except BridgeError Unit :=
  if entry.isEmpty then .error (.invalidArgument "entry" "entry point name is empty")
  else Marshal.validateInputs inputs

/-- Invokes an entry point, given by its full name.  Nothing is handed to the runtime unless the
name and all inputs are in order. -/
def invoke (s : Session) (entry : String) (inputs : List Tensor) :
    Program Backend (Except BridgeError (List Tensor) × Session) :=
  match checkArguments entry inputs with
  | .error e => return (.error e, s)
  | .ok () => do
    match ← (callEntry s.session entry inputs).run with
    | .ok results => return (.ok results, { s with invocations := s.invocations + 1 })
    | .error e => return (.error e, s)

/-! ## Description -/

/-- The description of a session on a runtime that goes by a description. -/
def describe (s : Session) (description : String) : String :=
  s!"VmSession \x7b backend: {quoted description}, instance: InstanceHandle(" ++
    s!"0x{String.ofList (hexDigits s.inst.address)}), driver: {quoted s.driver}, " ++
    s!"state: {s.stage.title}, invocations: {s.invocations} \x7d"

end Session

end TensorBridge
