import Mathlib
import TensorBridge.Proofs.Session.Arguments
import TensorBridge.Proofs.Session.Confinement

/-!
# The lengths of views

A view is made of fewer bytes than can be addressed, and it is read at the length that the runtime
reported for it.  `Lengths.watch` keeps the reported lengths and allows an upload or a read only by
these two rules; about all other operations it has nothing to say.

Sessions keep to the rules, whatever the runtime answers: `Session.create_obeys`,
`Session.invoke_obeys` and `Session.destroy_obeys`.
-/

namespace TensorBridge

/-- The lengths that were reported, each with its view. -/
abbrev Lengths := List (Handle .view × UInt64)

namespace BackendOp

/-- The operation moves the bytes of a view. -/
def movesBytes : BackendOp → Bool
  | uploadView .. | readView .. => true
  | _ => false

/-- A number of bytes that is moved is one that can be reported, or was reported. -/
def Measured (known : Lengths) : BackendOp → Prop
  | uploadView _ _ _ data => data.length < addressSpace
  | readView view length => ∃ reported, (view, reported) ∈ known ∧ length = reported.toNat
  | _ => True

/-- The length that a reply reports, with its view. -/
def reports? : (op : BackendOp) → op.Reply → Option (Handle .view × UInt64)
  | viewByteLength view, length => some (view, length)
  | _, _ => none

lemma measured_of_movesBytes {known : Lengths} {op : BackendOp} (h : op.movesBytes = false) :
    op.Measured known := by
  cases op <;> trivial

end BackendOp

/-- The watch over lengths. -/
def Lengths.watch : Watch Backend Lengths where
  Allows known op := op.Measured known
  Expects _ _ _ := True
  after known op reply := (op.reports? reply).elim known (· :: known)

open Lengths (watch)

lemma obeys_of_shapes {α : Type} {p : Program Backend α} (h : p.Confined BackendOp.Shapes) :
    p.Obeys watch := by
  refine h.obeys fun known op hop => BackendOp.measured_of_movesBytes ?_
  cases op <;> trivial

/-- An operation that moves no bytes is always allowed. -/
lemma obeys_of_movesBytes {op : BackendOp} (h : op.movesBytes = false) :
    (Program.perform (I := Backend) op).Obeys watch :=
  fun _ => ⟨BackendOp.measured_of_movesBytes h, fun _ _ => trivial⟩

namespace Marshal

lemma liftExcept_obeys {α : Type} (r : Except BridgeError α) :
    (readOutput.liftExcept r).Obeys watch := fun _ => trivial

/-- The data of an output is read at the length that was reported just before. -/
lemma readOutput_obeys (list : Handle .list) (index : Nat) :
    (readOutput list index).Obeys watch := by
  have hask {op : BackendOp} (h : op.movesBytes = false) :
      (Action.always (Program.perform (I := Backend) op)).Obeys watch :=
    Action.obeys_iff.2 fun known => Action.meets_always.2 (obeys_of_movesBytes h known)
  unfold readOutput
  refine .bind (hask rfl) fun view => ?_
  cases view with
  | none => exact fun _ => trivial
  | some view =>
    refine .bind (hask rfl) fun code => .bind (liftExcept_obeys _) fun elementType => ?_
    refine .bind (hask rfl) fun dims => .bind (liftExcept_obeys _) fun _ => ?_
    refine .bind (liftExcept_obeys _) fun shape => Action.obeys_iff.2 fun known => ?_
    simp only [Action.meets_bind]
    refine Action.meets_always.2 (Program.keeps_perform.2 ⟨trivial, fun reported _ => ?_⟩)
    refine liftExcept_meets (fun _ _ => ?_) (fun _ _ => ?_)
    · refine ⟨⟨reported, List.mem_cons_self, rfl⟩, fun r _ => ?_⟩
      cases r <;> trivial
    · trivial

lemma readOutputs_obeys (list : Handle .list) : (readOutputs list).Obeys watch := by
  have hfrom (index count : Nat) : (readFrom list index count).Obeys watch := by
    induction count generalizing index with
    | zero => exact fun _ => trivial
    | succ count ih =>
      exact .bind (readOutput_obeys list index) fun _ => .bind (ih (index + 1)) fun _ _ => trivial
  unfold readOutputs
  refine .bind (Action.obeys_iff.2 fun known => Action.meets_always.2 ?_) fun count => ?_
  · exact obeys_of_movesBytes rfl known
  · split
    · exact fun _ => trivial
    · exact hfrom 0 count

/-- A tensor that passes the checks has fewer bytes than can be addressed. -/
lemma length_lt_of_validate {t : Tensor} (h : t.validate = .ok ()) :
    t.data.length < addressSpace := by
  obtain ⟨count, -, hlt, hlength⟩ := Tensor.validate_eq_ok_iff.1 h
  rwa [hlength]

lemma pushInputs_obeys (session : Handle .session) (list : Handle .list) {inputs : List Tensor}
    (hvalid : ∀ t ∈ inputs, t.validate = .ok ()) :
    (pushInputs session list inputs).Obeys watch := by
  induction inputs with
  | nil => exact fun _ => trivial
  | cons t rest ih =>
    obtain ⟨ht, hrest⟩ := List.forall_mem_cons.1 hvalid
    unfold pushInputs pushInput
    refine .bind (.bind ?_ fun view => obeys_of_movesBytes rfl) fun _ => ih hrest
    exact fun known => ⟨length_lt_of_validate ht, fun _ _ => trivial⟩

end Marshal

namespace Session

/-- **An attempt to make a session** keeps to the rules about lengths. -/
theorem create_obeys (description : String) (image : List UInt8) (drivers : List String) :
    (create description image drivers).Obeys watch :=
  obeys_of_shapes (create_within description image drivers).confined

lemma callEntry_obeys (session : Handle .session) (entry : String) {inputs : List Tensor}
    (hvalid : ∀ t ∈ inputs, t.validate = .ok ()) :
    (callEntry session entry inputs).Obeys watch := by
  unfold callEntry exchange
  refine Action.Obeys.bind (obeys_of_movesBytes rfl) fun inputList =>
    .andThen ?_ (obeys_of_movesBytes rfl)
  refine Action.Obeys.bind (obeys_of_movesBytes rfl) fun outputList =>
    .andThen ?_ (obeys_of_movesBytes rfl)
  refine .bind (Marshal.pushInputs_obeys session inputList hvalid) fun _ => ?_
  exact .bind (obeys_of_movesBytes rfl) fun _ => Marshal.readOutputs_obeys outputList

/-- **An invocation** keeps to the rules about lengths, whatever its inputs are. -/
theorem invoke_obeys (s : Session) (entry : String) (inputs : List Tensor) :
    (s.invoke entry inputs).Obeys watch := by
  unfold invoke
  split
  · exact fun _ => trivial
  · rename_i hchecked
    unfold checkArguments at hchecked
    split_ifs at hchecked
    have hvalid := Marshal.valid_of_validateInputs hchecked
    refine .bind (callEntry_obeys s.session entry hvalid) fun r => ?_
    cases r <;> exact fun _ => trivial

/-- **The end of a session** keeps to the rules about lengths. -/
theorem destroy_obeys (s : Session) : s.destroy.Obeys watch :=
  obeys_of_shapes s.destroy_within.confined

end Session

end TensorBridge
