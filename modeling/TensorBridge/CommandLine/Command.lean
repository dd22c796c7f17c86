import TensorBridge.CommandLine.Basic
import TensorBridge.Library.Desk
import TensorBridge.RunFile.Load
import TensorBridge.RunFile.Plan

/-!
# Carrying commands out

A command is carried out in a process that has nothing loaded yet.  A command that succeeds prints
one report; one that fails prints nothing, and the failure is explained.
-/

namespace TensorBridge

/-- Why a command fails. -/
inductive CommandError where
  /-- The run file cannot be loaded. -/
  | runFile (error : RunFileError)
  /-- The run cannot be made. -/
  | plan (error : RunPlanError)
  /-- The runtime cannot be loaded. -/
  | runtime (error : BridgeError)
  /-- The file of the module cannot be read. -/
  | moduleUnreadable (path : String) (fault : FileFault)
  /-- There is no session with the module. -/
  | session (path : String) (error : BridgeError)
  /-- The entry point gives no results. -/
  | invocation (entry : String) (error : BridgeError)
  /-- A text is no literal of a tensor. -/
  | literal (text : String) (error : TensorError)
deriving DecidableEq, Repr

/-- What is said about a command that fails. -/
def CommandError.chain : CommandError → ErrorChain
  | runFile e => e.chain
  | plan e => e.chain
  | runtime e => ⟨"Failed to load the IREE runtime", [e.message]⟩
  | moduleUnreadable path fault =>
    ⟨s!"Failed to read module: {quoted path}", [fault.message]⟩
  | session path e => ⟨s!"Failed to create a session for {quoted path}", [e.message]⟩
  | invocation entry e => ⟨s!"Invocation of '{entry}' failed", [e.message]⟩
  | literal text e => ⟨s!"Invalid tensor literal: {quoted text}", [e.message]⟩

namespace Command

/-- Prints a report. -/
def print (report : String) : DeskM Unit :=
  Desk.onHost (Program.perform (I := Host) (.print report))

/-- Tells whether the runtime can be loaded. -/
def performProbe (format : ReportFormat) (library : Option String) : DeskM Unit := do
  let loaded ← Desk.load library
  let detail ← Desk.availabilityDetail
  let report : ProbeReport :=
    match loaded with
    | .ok () => ⟨true, detail, none⟩
    | .error e => ⟨false, detail, some e.message⟩
  print (report.render format)

/-- The name of the session of a run. -/
def runSession : String := "run"

/-- Makes a planned run.  The session is destroyed in any case; the runtime is given up only behind
a run that succeeds. -/
def performPlan (format : ReportFormat) (plan : RunPlan) : DeskM (Except CommandError Unit) := do
  match ← Desk.load plan.library with
  | .error e => return .error (.runtime e)
  | .ok () =>
    match ← Desk.onHost (Program.perform (I := Host) (.readFile plan.modulePath)) with
    | .error fault => return .error (.moduleUnreadable plan.modulePath fault)
    | .ok image =>
      match ← Desk.createSession image with
      | .error e => return .error (.session plan.modulePath e)
      | .ok session =>
        Desk.addSession runSession session
        match ← Desk.invoke runSession plan.entry session plan.inputs with
        | .error e =>
          let _ ← Desk.destroySession runSession
          return .error (.invocation plan.entry e)
        | .ok results =>
          print (reportResults format results)
          let _ ← Desk.destroySession runSession
          let _ ← Desk.unload
          return .ok ()

/-- The run file that a run starts from: the one at the path, if there is a path. -/
def startingFile : Option String → Program Host (Except RunFileError RunFile)
  | none => return .ok {}
  | some path => RunFile.load path

/-- Makes a run. -/
def performRun (format : ReportFormat) (config : Option String) (flags : RunFile) :
    DeskM (Except CommandError Unit) := do
  match ← Desk.onHost (startingFile config) with
  | .error e => return .error (.runFile e)
  | .ok file =>
    match ← Desk.onHost (RunPlan.ofRunFile (file.merge flags)) with
    | .error e => return .error (.plan e)
    | .ok plan => performPlan format plan

/-- Reads literals. -/
def readLiterals : List String → Except CommandError (List Tensor)
  | [] => .ok []
  | text :: rest =>
    match Tensor.parse text with
    | .error e => .error (.literal text e)
    | .ok tensor => (readLiterals rest).map (tensor :: ·)

/-- Carries a command out. -/
def perform (format : ReportFormat) : Command → DeskM (Except CommandError Unit)
  | .probe library => do
    performProbe format library
    return .ok ()
  | .run config flags => performRun format config flags
  | .parse literals => do
    match readLiterals literals with
    | .error e => return .error e
    | .ok tensors =>
      print (reportResults format tensors)
      return .ok ()

end Command

end TensorBridge
