import TensorBridge.Proofs.Program.Within
import TensorBridge.Session.Basic

/-!
# What the parts of a session call and say

A session calls operations of three sorts: those that build it and take it down, those that fill
lists and call entry points, and questions about lists and views.  Reading outputs only asks
questions, an invocation leaves what a session is built of alone, and making and destroying a
session does nothing but build it and take it down.  Only the construction gives notices.
-/

namespace TensorBridge

namespace BackendOp

/-- An operation that asks about lists and views. -/
def isQuestion : BackendOp → Bool
  | listLength _ | viewAt .. | viewDims _ | viewCode _ | viewByteLength _ | readView .. => true
  | _ => false

/-- An operation by which a session is built or taken down. -/
def isLifecycle : BackendOp → Bool
  | createInstance | createDevice .. | createSession .. | appendModule .. => true
  | releaseSession _ | releaseDevice _ | releaseInstance _ => true
  | _ => false

/-- The operation is a question. -/
abbrev Asks (op : BackendOp) : Prop := op.isQuestion = true

/-- The operation leaves what a session is built of alone. -/
abbrev Spares (op : BackendOp) : Prop := op.isLifecycle = false

/-- The operation builds a session or takes it down. -/
abbrev Shapes (op : BackendOp) : Prop := op.isLifecycle = true

lemma Asks.spares {op : BackendOp} (h : op.Asks) : op.Spares := by
  cases op <;> first | rfl | cases h

end BackendOp

open BackendOp (Asks Shapes Spares)

/-- The notice is about the construction of a session. -/
def Notice.IsBuilding : Notice → Prop
  | .driverUnavailable .. | .moduleLoaded .. => True
  | _ => False

variable {N : Notice → Prop}

lemma asks_within {op : BackendOp} (h : op.Asks) :
    (Program.perform (I := Backend) op).Within Asks N := .perform h

lemma spares_within {op : BackendOp} (h : op.Spares) :
    (Program.perform (I := Backend) op).Within Spares N := .perform h

lemma shapes_within {op : BackendOp} (h : op.Shapes) :
    (Program.perform (I := Backend) op).Within Shapes N := .perform h

namespace Marshal

lemma liftExcept_within {P : BackendOp → Prop} {α : Type} (r : Except BridgeError α) :
    (readOutput.liftExcept r).Within P fun _ => False := trivial

/-- Reading only asks questions. -/
lemma readOutput_within (list : Handle .list) (index : Nat) :
    (readOutput list index).Within Asks fun _ => False := by
  unfold readOutput
  refine .bind (.always (asks_within rfl)) fun view => ?_
  cases view with
  | none => exact .throw _
  | some view =>
    refine .bind (.always (asks_within rfl)) fun code => .bind (liftExcept_within _) fun _ => ?_
    refine .bind (.always (asks_within rfl)) fun dims => .bind (liftExcept_within _) fun _ => ?_
    refine .bind (liftExcept_within _) fun shape => ?_
    refine .bind (.always (asks_within rfl)) fun length => ?_
    refine .bind (liftExcept_within _) fun _ => ?_
    exact .bind (asks_within rfl) fun _ => .pure _

lemma readFrom_within (list : Handle .list) (index count : Nat) :
    (readFrom list index count).Within Asks fun _ => False := by
  induction count generalizing index with
  | zero => exact .pure []
  | succ count ih =>
    exact .bind (readOutput_within list index) fun _ => .bind (ih (index + 1)) fun _ => .pure _

lemma readOutputs_within (list : Handle .list) :
    (readOutputs list).Within Asks fun _ => False := by
  unfold readOutputs
  refine .bind (.always (asks_within rfl)) fun count => ?_
  split
  · exact .bind (.throw _) fun _ => readFrom_within list 0 count
  · exact readFrom_within list 0 count

lemma pushInputs_within (session : Handle .session) (list : Handle .list) (inputs : List Tensor) :
    (pushInputs session list inputs).Within Spares fun _ => False := by
  induction inputs with
  | nil => exact .pure ()
  | cons t rest ih =>
    unfold pushInputs pushInput
    exact .bind (.bind (spares_within rfl) fun view => spares_within rfl) fun _ => ih

end Marshal

namespace Session

lemma callEntry_within (session : Handle .session) (entry : String) (inputs : List Tensor) :
    (callEntry session entry inputs).Within Spares fun _ => False := by
  unfold callEntry exchange
  refine .bind (spares_within rfl) fun inputList => .andThen ?_ (spares_within rfl)
  refine .bind (spares_within rfl) fun outputList => .andThen ?_ (spares_within rfl)
  refine .bind (Marshal.pushInputs_within session inputList inputs) fun _ => ?_
  refine .bind (spares_within rfl) fun _ => ?_
  exact (Marshal.readOutputs_within outputList).mono (fun _ => Asks.spares) fun _ h => h

/-- **An invocation** leaves what the session is built of alone. -/
theorem invoke_within (s : Session) (entry : String) (inputs : List Tensor) :
    (s.invoke entry inputs).Within Spares fun _ => False := by
  unfold invoke
  split
  · exact .done _
  · refine .bind (callEntry_within s.session entry inputs) fun r => ?_
    cases r with
    | ok results => exact .done _
    | error e => exact .done _

lemma selectDevice_within (inst : Handle .runtimeInstance) (drivers : List String) :
    (selectDevice inst drivers).Within Shapes Notice.IsBuilding := by
  induction drivers with
  | nil => exact .throw _
  | cons driver rest ih =>
    cases rest with
    | nil => exact .bind (shapes_within rfl) fun device => .pure _
    | cons next rest =>
      refine Program.Within.bind (shapes_within rfl) fun r => ?_
      cases r with
      | ok device => exact .done _
      | error e => exact ⟨trivial, ih⟩

/-- **An attempt to make a session** only builds one or takes it down. -/
theorem create_within (description : String) (image : List UInt8) (drivers : List String) :
    (create description image drivers).Within Shapes Notice.IsBuilding := by
  unfold create loadModule
  split
  · exact .throw _
  refine .bind (shapes_within rfl) fun inst => .onFailure ?_ (shapes_within rfl)
  refine .bind (selectDevice_within inst drivers) fun ⟨device, driver⟩ => ?_
  refine .onFailure ?_ (shapes_within rfl)
  refine .bind (shapes_within rfl) fun session => .onFailure ?_ (shapes_within rfl)
  refine .bind (shapes_within rfl) fun _ => ?_
  exact .bind (.always (.notify trivial)) fun _ => .pure _

/-- **The end of a session** only takes it down. -/
theorem destroy_within (s : Session) : s.destroy.Within Shapes fun _ => False :=
  .bind (shapes_within rfl) fun _ => .bind (shapes_within rfl) fun _ => shapes_within rfl

end Session

end TensorBridge
